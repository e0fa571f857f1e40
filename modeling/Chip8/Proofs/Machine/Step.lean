import Chip8.Machine.Event
import Chip8.Proofs.Machine.Refusal

/-!
# What a cycle can do

`Machine.Step m o` lists the five ways in which a cycle of `m` can go, each with the outcome `o` that
comes of it: the machine polls the keypad, or it finds nothing to fetch, a word that stands for no
instruction, an instruction that it refuses, or one that it obeys. Every cycle goes one of these ways
(`Machine.step_cycle`), so a law about cycles is proved by five cases and never by unfolding a cycle.

* `Machine.step_cycle`, `Machine.Step.cycle_eq`: the outcome of a cycle is the one outcome that its
  step gives;
* `Machine.fetch_eq`: where a fetch fails, and with which fault;
* `Machine.wordAt_bounds`: what is fetched is a word of sixteen bits.
-/

namespace Chip8

namespace Machine

/-- The word in memory at an address, high byte first. -/
def wordAt (m : Machine) (address : Int) : Int :=
  0x100 * (m.memory.byteAt address.toNat).toNat + (m.memory.byteAt (address.toNat + 1)).toNat

/-- The machine when a word has been fetched and the program counter has moved past it. -/
def fetched (m : Machine) (word : Int) : Machine :=
  { m with fetchedAt := m.pc, opcode := word }.advance

/-- The line that a traced machine prints for an instruction. -/
def trace (m : Machine) (i : Instruction) : List String :=
  if m.tracing then [m.line i.text] else []

/-- The five ways in which a cycle can go. -/
inductive Step (m : Machine) : Outcome → Prop
  /-- A machine that waits for a key looks for one. -/
  | poll (r : Register) (hphase : m.phase = .awaitingKey r) : Step m ⟨m.pollKeypad r, none, []⟩
  /-- There is no word at the program counter. -/
  | unfetched (fault : Fault) (hphase : m.phase = .running) (hfetch : m.fetch = .error fault) :
      Step m ⟨{ m with fetchedAt := m.pc }, some fault, []⟩
  /-- The word stands for no instruction. -/
  | unrecognized (word : Int) (hphase : m.phase = .running) (hfetch : m.fetch = .ok word)
      (hword : Instruction.ofWord? word = none) :
      Step m ⟨m.fetched word,
        some (.unrecognizedOpcode word (m.fetched word).haltMessage), []⟩
  /-- The instruction is refused. -/
  | refused (word : Int) (i : Instruction) (fault : Fault) (hphase : m.phase = .running)
      (hfetch : m.fetch = .ok word) (hword : Instruction.ofWord? word = some i)
      (hrefusal : (m.fetched word).refusal? i = some fault) :
      Step m ⟨m.fetched word, some fault, (m.fetched word).trace i⟩
  /-- The instruction is obeyed. -/
  | obeyed (word : Int) (i : Instruction) (after : Machine) (hphase : m.phase = .running)
      (hfetch : m.fetch = .ok word) (hword : Instruction.ofWord? word = some i)
      (hrefusal : (m.fetched word).refusal? i = none)
      (hexecute : execute i (m.fetched word) = .ok () after) :
      Step m ⟨after, none, (m.fetched word).trace i⟩

variable {m : Machine} {o : Outcome}

/-- A running machine that finds a word goes on to interpret it. -/
theorem cycle_of_fetch_ok {word : Int} (hphase : m.phase = .running) (hfetch : m.fetch = .ok word) :
    m.cycle = (m.fetched word).interpret := by
  have hfetchedAt : { m with fetchedAt := m.pc }.fetch = m.fetch := rfl
  rw [cycle_running hphase, runNext, hfetchedAt, hfetch]
  rfl

/-- A step says what the cycle does. -/
theorem Step.cycle_eq (h : m.Step o) : m.cycle = o := by
  cases h with
  | poll r hphase => exact cycle_awaitingKey hphase
  | unfetched fault hphase hfetch =>
    -- The address is noted before the fetch, which does not look at it.
    have hfetchedAt : { m with fetchedAt := m.pc }.fetch = m.fetch := rfl
    rw [cycle_running hphase, runNext, hfetchedAt, hfetch]
  | unrecognized word hphase hfetch hword =>
    have hopcode : (m.fetched word).opcode = word := rfl
    rw [cycle_of_fetch_ok hphase hfetch, interpret, hopcode, hword]
  | refused word i fault hphase hfetch hword hrefusal =>
    have hopcode : (m.fetched word).opcode = word := rfl
    rw [cycle_of_fetch_ok hphase hfetch, interpret, hopcode, hword]
    simp only [obey, execute_of_refusal hrefusal, trace]
  | obeyed word i after hphase hfetch hword hrefusal hexecute =>
    have hopcode : (m.fetched word).opcode = word := rfl
    rw [cycle_of_fetch_ok hphase hfetch, interpret, hopcode, hword]
    simp only [obey, hexecute, trace]

/-- There is always one of the five ways to go. -/
theorem exists_step (m : Machine) : ∃ o, m.Step o := by
  -- The questions are asked in the order of a cycle: the phase, the fetch, the word, and whether the
  -- instruction is refused.
  cases hphase : m.phase with
  | awaitingKey r => exact ⟨_, .poll r hphase⟩
  | running =>
    cases hfetch : m.fetch with
    | error fault => exact ⟨_, .unfetched fault hphase hfetch⟩
    | ok word =>
      cases hword : Instruction.ofWord? word with
      | none => exact ⟨_, .unrecognized word hphase hfetch hword⟩
      | some i =>
        cases hrefusal : (m.fetched word).refusal? i with
        | some fault => exact ⟨_, .refused word i fault hphase hfetch hword hrefusal⟩
        | none =>
          -- What is not refused ends well, so that there is no sixth way.
          obtain ⟨after, hexecute⟩ := execute_of_no_refusal hrefusal
          exact ⟨_, .obeyed word i after hphase hfetch hword hrefusal hexecute⟩

/-- Every cycle goes one of the five ways. -/
theorem step_cycle (m : Machine) : m.Step m.cycle := by
  obtain ⟨o, h⟩ := m.exists_step
  rwa [h.cycle_eq]

/-! ### Words in place of the one that was fetched -/

section Perform

variable {word : Int} {i : Instruction} {after : Machine}

/-- A word that stands for an instruction is performed by obeying it. -/
theorem perform_of_ofWord? (hword : Instruction.ofWord? word = some i) (m : Machine) :
    m.perform word = { m with opcode := word }.obey i := by
  have hopcode : { m with opcode := word }.opcode = word := rfl
  rw [perform, interpret, hopcode, hword]

/-- What comes of a word whose instruction ends well. -/
theorem perform_of_execute (hword : Instruction.ofWord? word = some i)
    (h : execute i { m with opcode := word } = .ok () after) :
    m.perform word = ⟨after, none, { m with opcode := word }.trace i⟩ := by
  rw [perform_of_ofWord? hword]
  simp only [obey, h, trace]

/-- A cycle performs the word that it has fetched. -/
theorem cycle_eq_perform (hphase : m.phase = .running) (hfetch : m.fetch = .ok word) :
    m.cycle = (m.fetched word).perform word :=
  cycle_of_fetch_ok hphase hfetch

end Perform

/-! ### Fetching -/

/-- Two bytes make up a word of sixteen bits. -/
theorem wordAt_bounds (m : Machine) (address : Int) :
    0 ≤ m.wordAt address ∧ m.wordAt address < 0x10000 := by
  have hhigh := (m.memory.byteAt address.toNat).toNat_lt
  have hlow := (m.memory.byteAt (address.toNat + 1)).toNat_lt
  unfold wordAt
  omega

/-- A fetch finds a word where two bytes are in memory, and fails everywhere else. -/
theorem fetch_eq (m : Machine) :
    m.fetch =
      if m.memory.Holds m.pc 2 then .ok (m.wordAt m.pc)
      else .error (.addressOutOfRange (m.memory.firstOutside m.pc 2)) := by
  rw [fetch, Memory.readBlock_of_pos _ _ (by decide)]
  by_cases h : m.memory.Holds m.pc 2
  · -- The word is put together from the bytes that were read, the high one first.
    have hslice : m.memory.slice m.pc.toNat (2 : Int).toNat =
        [m.memory.byteAt m.pc.toNat, m.memory.byteAt (m.pc.toNat + 1)] := rfl
    rw [if_pos h, if_pos h, hslice]
    change Except.ok _ = Except.ok _
    simp only [List.foldl_cons, List.foldl_nil, wordAt, Int.mul_zero, Int.zero_add]
  · rw [if_neg h, if_neg h]
    rfl

end Machine

end Chip8
