import Chip8.Proofs.Instruction.Pattern
import Chip8.Proofs.Machine.Bounds

/-!
# When a cycle raises a fault

`Machine.Raises m fault` lists the causes for which a cycle of `m` raises a fault, in terms of the
word that is met, the index and the call stack. On every reachable machine these are exactly the causes
there are (`Machine.Reachable.cycle_fault_iff`): whatever is not listed ends well, and nothing else can happen.

A cycle that raises a fault changes next to nothing (`Machine.Reachable.cycle_of_fault`). The address of the
instruction is noted; and if the word was fetched, the program counter is behind it and the word is
noted as well. Where already the fetch failed, the program counter still stands where nothing can be
fetched, so that every later cycle raises the same fault, whatever else happens in between.

The bounds of `Chip8.Proofs.Machine.Bounds` enter in two places: the index is not below zero, so a
block lies in memory if it ends there, and the stack has room for sixteen items exactly.
-/

namespace Chip8

namespace Machine

/-- The machine runs, and `word` is the word at its program counter. -/
def Meets (m : Machine) (word : Int) : Prop :=
  m.phase = .running ∧ m.pc ≤ 0xFFE ∧ word = m.wordAt m.pc

instance (m : Machine) (word : Int) : Decidable (m.Meets word) :=
  inferInstanceAs (Decidable (_ ∧ _ ∧ _))

/-- The address for which `count` bytes from the index on are refused: the index if it points behind
memory, else the last of them. -/
def outside (m : Machine) (count : Int) : Int :=
  if 0xFFF < m.index then m.index else m.index + count - 1

/-- The causes for which a cycle raises a fault. -/
inductive Raises (m : Machine) : Fault → Prop
  /-- No word can be fetched from the last byte of memory or from behind it. -/
  | fetch (hphase : m.phase = .running) (hpc : 0xFFE < m.pc) :
      Raises m (.addressOutOfRange (if 0xFFF < m.pc then m.pc else 0x1000))
  /-- The word fits none of the patterns. -/
  | unrecognized {word : Int} (hword : m.Meets word) (hnone : ∀ form : Form, ¬ form.Fits word) :
      Raises m (.unrecognizedOpcode word (m.fetched word).haltMessage)
  /-- A return without a call. -/
  | underflow (hword : m.Meets 0x00EE) (hempty : m.stack.items = []) : Raises m .stackUnderflow
  /-- A call too many. -/
  | overflow {word : Int} (hword : m.Meets word) (hform : Form.call.Fits word)
      (hfull : m.stack.depth = 16) : Raises m .stackOverflow
  /-- A sprite with rows behind memory. -/
  | draw {word : Int} (hword : m.Meets word) (hform : Form.draw.Fits word)
      (hrows : 1 ≤ word % 0x10) (hout : 0xFFF < m.index + word % 0x10 - 1) :
      Raises m (.addressOutOfRange (m.outside (word % 0x10)))
  /-- Decimal digits behind memory. -/
  | decimal {word : Int} (hword : m.Meets word) (hform : Form.decimal.Fits word)
      (hout : 0xFFF < m.index + 2) : Raises m (.addressOutOfRange (m.outside 3))
  /-- Registers stored behind memory or loaded from there. -/
  | registers {word : Int} (hword : m.Meets word)
      (hform : Form.store.Fits word ∨ Form.load.Fits word)
      (hout : 0xFFF < m.index + word / 0x100 % 0x10) :
      Raises m (.addressOutOfRange (m.outside (word / 0x100 % 0x10 + 1)))

variable {m : Machine} {fault : Fault}

/-! ### Fetches and blocks within the bounds -/

/-- Within the bounds a fetch succeeds up to `0xFFE`. -/
theorem Invariant.fetch_eq_ok_iff (hm : m.Invariant) {word : Int} :
    m.fetch = .ok word ↔ m.pc ≤ 0xFFE ∧ word = m.wordAt m.pc := by
  have h0 := hm.pc_nonneg
  have hsize := hm.size_memory
  rw [fetch_eq]
  by_cases hin : m.memory.Holds m.pc 2
  · have hle : m.pc ≤ 0xFFE := by
      have hlast := hin.2
      omega
    rw [if_pos hin, Except.ok.injEq]
    exact ⟨fun h => ⟨hle, h.symm⟩, fun h => h.2.symm⟩
  · rw [if_neg hin]
    refine ⟨fun h => (by cases h), fun h => absurd ?_ hin⟩
    exact ⟨h0, by omega⟩

/-- It fails from there on. What it names is the program counter, or the byte behind it if only that one is
missing. -/
theorem Invariant.fetch_eq_error_iff (hm : m.Invariant) :
    m.fetch = .error fault ↔
      0xFFE < m.pc ∧ fault = .addressOutOfRange (if 0xFFF < m.pc then m.pc else 0x1000) := by
  have h0 := hm.pc_nonneg
  have hsize := hm.size_memory
  rw [fetch_eq]
  by_cases hin : m.memory.Holds m.pc 2
  · have hlast := hin.2
    rw [if_pos hin]
    exact ⟨fun h => (by cases h), fun h => absurd h.1 (by omega)⟩
  · -- The program counter is not below zero, so it is the upper end that is outside.
    have hlt : 0xFFE < m.pc := by
      by_contra hle
      exact hin ⟨h0, by omega⟩
    have haddress : m.memory.firstOutside m.pc 2 = if 0xFFF < m.pc then m.pc else 0x1000 := by
      unfold Memory.firstOutside
      split <;> split <;> omega
    rw [if_neg hin, haddress, Except.error.injEq]
    exact ⟨fun h => ⟨hlt, h.symm⟩, fun h => h.2.symm⟩

/-- Within the bounds a run of bytes is refused if it goes beyond the end of memory. -/
theorem Invariant.spanRefusal?_eq_some_iff (hm : m.Invariant) {count : Int} :
    m.spanRefusal? count = some fault ↔
      0 < count ∧ 0xFFF < m.index + count - 1 ∧ fault = .addressOutOfRange (m.outside count) := by
  have h0 := hm.index_nonneg
  have hsize := hm.size_memory
  -- The index is not below zero, so a block is outside if its last byte is.
  have hout : ¬ m.memory.Holds m.index count ↔ 0xFFF < m.index + count - 1 := by
    unfold Memory.Holds
    omega
  rw [Machine.spanRefusal?_eq_some_iff, hout]
  refine and_congr_right fun hpos => and_congr_right fun hlast => ?_
  have haddress : m.memory.firstOutside m.index count = m.outside count := by
    unfold Memory.firstOutside outside
    split <;> split <;> omega
  rw [haddress]

/-! ### The causes are exactly these -/

theorem Meets.bounds {word : Int} (hword : m.Meets word) : 0 ≤ word ∧ word < 0x10000 := by
  obtain ⟨-, -, rfl⟩ := hword
  exact m.wordAt_bounds m.pc

/-- To meet a word is to run and to fetch it. -/
theorem Invariant.meets_iff (hm : m.Invariant) {word : Int} :
    m.Meets word ↔ m.phase = .running ∧ m.fetch = .ok word :=
  and_congr_right fun _ => hm.fetch_eq_ok_iff.symm

/-- A running machine that decodes what it fetches meets a word in the pattern of the instruction. -/
theorem Invariant.meets_instruction (hm : m.Invariant) {word : Int} {i : Instruction}
    (hphase : m.phase = .running) (hfetch : m.fetch = .ok word)
    (hword : Instruction.ofWord? word = some i) :
    m.Meets word ∧ i.form.Fits word ∧ i.operands = Operands.ofWord word := by
  have hmeets := hm.meets_iff.mpr ⟨hphase, hfetch⟩
  obtain ⟨h0, h1⟩ := hmeets.bounds
  exact ⟨hmeets, (Instruction.ofWord?_eq_some_iff h0 h1 i).mp hword⟩

/-- Fetching a word is no concern of what is refused. -/
theorem refusal?_fetched (m : Machine) (word : Int) (i : Instruction) :
    (m.fetched word).refusal? i = m.refusal? i := rfl

/-- There is one word only that is a return. -/
theorem fits_ret_iff {word : Int} : Form.ret.Fits word ↔ word = 0x00EE := by
  simp only [Form.Fits, Form.pattern, digits]
  simp [fixedDigit?]
  omega

/-- What the machine refuses of an instruction is one of the causes. -/
theorem Raises.of_refusal (hm : m.Invariant) {word : Int} {i : Instruction} (hword : m.Meets word)
    (hi : Instruction.ofWord? word = some i) (hrefusal : m.refusal? i = some fault) :
    m.Raises fault := by
  obtain ⟨h0, h1⟩ := hword.bounds
  obtain ⟨hform, hoperands⟩ := (Instruction.ofWord?_eq_some_iff h0 h1 i).mp hi
  obtain ⟨form, o⟩ := i
  subst hoperands
  -- The forms that can be refused are those with a cause of their own in the list.
  cases form with
  | ret =>
    obtain ⟨hempty, rfl⟩ := refusal?_ret_eq_some_iff.mp hrefusal
    exact .underflow (fits_ret_iff.mp hform ▸ hword) hempty
  | call =>
    obtain ⟨hfull, rfl⟩ := refusal?_call_eq_some_iff.mp hrefusal
    -- There are never more than sixteen items, so a full stack holds exactly sixteen.
    rw [hm.capacity] at hfull
    have hdepth := hm.depth_le
    exact .overflow hword hform (by omega)
  | draw =>
    rw [refusal?_draw, Operands.n_ofWord] at hrefusal
    obtain ⟨hrows, hout, rfl⟩ := hm.spanRefusal?_eq_some_iff.mp hrefusal
    exact .draw hword hform (by omega) hout
  | decimal =>
    rw [refusal?_decimal] at hrefusal
    obtain ⟨-, hout, rfl⟩ := hm.spanRefusal?_eq_some_iff.mp hrefusal
    exact .decimal hword hform (by omega)
  | store =>
    rw [refusal?_store, Operands.x_ofWord] at hrefusal
    obtain ⟨-, hout, rfl⟩ := hm.spanRefusal?_eq_some_iff.mp hrefusal
    exact .registers hword (.inl hform) (by omega)
  | load =>
    rw [refusal?_load, Operands.x_ofWord] at hrefusal
    obtain ⟨-, hout, rfl⟩ := hm.spanRefusal?_eq_some_iff.mp hrefusal
    exact .registers hword (.inr hform) (by omega)
  | _ =>
    -- All other forms touch no memory, and a block of no bytes is not refused.
    exact absurd (Machine.spanRefusal?_eq_some_iff.mp hrefusal).1 (Int.lt_irrefl 0)

/-- A fault that a cycle raises has one of the causes. -/
theorem Step.raises (hm : m.Invariant) {o : Outcome} (hstep : m.Step o)
    (hfault : o.fault = some fault) : m.Raises fault := by
  -- A cycle that ends well raises nothing, and of the other three ways each one has its causes.
  cases hstep with
  | poll r hphase => cases hfault
  | unfetched cause hphase hfetch =>
    cases hfault
    obtain ⟨hpc, rfl⟩ := hm.fetch_eq_error_iff.mp hfetch
    exact .fetch hphase hpc
  | unrecognized word hphase hfetch hword =>
    cases hfault
    have hmeets := hm.meets_iff.mpr ⟨hphase, hfetch⟩
    obtain ⟨h0, h1⟩ := hmeets.bounds
    exact .unrecognized hmeets ((Instruction.ofWord?_eq_none_iff h0 h1).mp hword)
  | refused word i cause hphase hfetch hword hrefusal =>
    cases hfault
    rw [refusal?_fetched] at hrefusal
    exact .of_refusal hm (hm.meets_iff.mpr ⟨hphase, hfetch⟩) hword hrefusal
  | obeyed word i after hphase hfetch hword hrefusal hexecute => cases hfault

/-- A word whose instruction is refused raises the fault of the refusal. -/
theorem Meets.cycle_fault_of_refusal (hm : m.Invariant) {word : Int} {form : Form}
    (hword : m.Meets word) (hform : form.Fits word)
    (hrefusal : m.refusal? ⟨form, Operands.ofWord word⟩ = some fault) :
    m.cycle.fault = some fault := by
  obtain ⟨h0, h1⟩ := hword.bounds
  obtain ⟨hphase, hfetch⟩ := hm.meets_iff.mp hword
  have hi : Instruction.ofWord? word = some ⟨form, Operands.ofWord word⟩ :=
    (Instruction.ofWord?_eq_some_iff h0 h1 _).mpr ⟨hform, rfl⟩
  -- What is refused is asked of the machine behind the fetch, and it is the same for the one before.
  rw [← m.refusal?_fetched word] at hrefusal
  rw [(Step.refused word _ fault hphase hfetch hi hrefusal).cycle_eq]

/-- What comes of a word whose instruction ends well. -/
theorem Meets.cycle_of_execute (hm : m.Invariant) {word : Int} {form : Form} {after : Machine}
    (hword : m.Meets word) (hform : form.Fits word)
    (hexecute : execute ⟨form, Operands.ofWord word⟩ (m.fetched word) = .ok () after) :
    m.cycle = ⟨after, none, (m.fetched word).trace ⟨form, Operands.ofWord word⟩⟩ := by
  obtain ⟨h0, h1⟩ := hword.bounds
  obtain ⟨hphase, hfetch⟩ := hm.meets_iff.mp hword
  have hi : Instruction.ofWord? word = some ⟨form, Operands.ofWord word⟩ :=
    (Instruction.ofWord?_eq_some_iff h0 h1 _).mpr ⟨hform, rfl⟩
  cases hrefusal : (m.fetched word).refusal? ⟨form, Operands.ofWord word⟩ with
  | none => exact (Step.obeyed word _ after hphase hfetch hi hrefusal hexecute).cycle_eq
  | some fault =>
    -- What is refused does not end well.
    rw [execute_of_refusal hrefusal] at hexecute
    cases hexecute

/-- Each of the causes makes a cycle raise its fault. -/
theorem Raises.cycle_fault (hm : m.Invariant) (h : m.Raises fault) :
    m.cycle.fault = some fault := by
  -- For each cause the condition is put as that of a fetch or of a refusal.
  cases h with
  | fetch hphase hpc =>
    have hfetch := hm.fetch_eq_error_iff.mpr ⟨hpc, rfl⟩
    rw [(Step.unfetched _ hphase hfetch).cycle_eq]
  | unrecognized hword hnone =>
    obtain ⟨h0, h1⟩ := hword.bounds
    obtain ⟨hphase, hfetch⟩ := hm.meets_iff.mp hword
    have hi := (Instruction.ofWord?_eq_none_iff h0 h1).mpr hnone
    rw [(Step.unrecognized _ hphase hfetch hi).cycle_eq]
  | underflow hword hempty =>
    refine hword.cycle_fault_of_refusal hm (fits_ret_iff.mpr rfl) ?_
    exact refusal?_ret_eq_some_iff.mpr ⟨hempty, rfl⟩
  | overflow hword hform hfull =>
    refine hword.cycle_fault_of_refusal hm hform (refusal?_call_eq_some_iff.mpr ⟨?_, rfl⟩)
    rw [hm.capacity, hfull]
    exact Int.le_refl _
  | draw hword hform hrows hout =>
    refine hword.cycle_fault_of_refusal hm hform ?_
    rw [refusal?_draw, Operands.n_ofWord]
    exact hm.spanRefusal?_eq_some_iff.mpr ⟨by omega, hout, rfl⟩
  | decimal hword hform hout =>
    refine hword.cycle_fault_of_refusal hm hform ?_
    rw [refusal?_decimal]
    exact hm.spanRefusal?_eq_some_iff.mpr ⟨by decide, by omega, rfl⟩
  | @registers word hword hform hout =>
    have hrefusal : m.spanRefusal? (word / 0x100 % 0x10 + 1) =
        some (.addressOutOfRange (m.outside (word / 0x100 % 0x10 + 1))) :=
      hm.spanRefusal?_eq_some_iff.mpr ⟨by omega, by omega, rfl⟩
    rcases hform with hform | hform
    · refine hword.cycle_fault_of_refusal hm hform ?_
      rw [refusal?_store, Operands.x_ofWord, hrefusal]
    · refine hword.cycle_fault_of_refusal hm hform ?_
      rw [refusal?_load, Operands.x_ofWord, hrefusal]

/-- **When a cycle raises a fault.** A reachable machine that waits for a key never does. Apart from
that a cycle of a reachable machine raises a fault exactly for one of the listed causes, and so it ends
well exactly when there is none. -/
theorem Reachable.cycle_fault_iff (hm : m.Reachable) :
    (m.isAwaitingKey = true → m.cycle.fault = none) ∧
      (∀ fault, m.cycle.fault = some fault ↔ m.Raises fault) ∧
      (m.cycle.fault = none ↔ ∀ fault, ¬ m.Raises fault) := by
  have hinv := hm.invariant
  have hiff : ∀ fault, m.cycle.fault = some fault ↔ m.Raises fault := fun fault =>
    ⟨fun hfault => m.step_cycle.raises hinv hfault, fun h => h.cycle_fault hinv⟩
  refine ⟨fun hawaiting => ?_, hiff, ?_⟩
  · cases hphase : m.phase with
    | running => simp [isAwaitingKey, hphase] at hawaiting
    | awaitingKey r => rw [cycle_awaitingKey hphase]
  · rw [Option.eq_none_iff_forall_ne_some]
    exact forall_congr' fun fault => not_congr (hiff fault)

/-- A machine that has a lone return for its program. -/
def loneReturn : Machine :=
  (boot {} (Noise.cycling [])).after [.loadRom [0x00, 0xEE]]

theorem loneReturn_reachable : loneReturn.Reachable := by
  unfold loneReturn
  exact (Reachable.boot _ _).after _

/-- A return without a call is one of the causes, and so it raises its fault. -/
theorem cycle_fault_loneReturn :
    loneReturn.Reachable ∧ loneReturn.cycle.fault = some .stackUnderflow := by
  have hword : loneReturn.Meets 0x00EE :=
    ⟨by decide +kernel, by decide +kernel, by decide +kernel⟩
  have hraises : loneReturn.Raises .stackUnderflow := .underflow hword (by decide +kernel)
  exact ⟨loneReturn_reachable, (loneReturn_reachable.cycle_fault_iff.2.1 _).mpr hraises⟩

/-! ### What is left of the machine -/

/-- A machine that has nothing to fetch stays where it is, whatever happens to it. -/
theorem Invariant.stuck (hm : m.Invariant) (hphase : m.phase = .running) (hpc : 0xFFE < m.pc)
    (event : Event) :
    (m.react event).machine.phase = .running ∧ (m.react event).machine.pc = m.pc := by
  cases event with
  | cycle =>
    have hfetch := hm.fetch_eq_error_iff.mpr ⟨hpc, rfl⟩
    change m.cycle.machine.phase = .running ∧ m.cycle.machine.pc = m.pc
    rw [(Step.unfetched _ hphase hfetch).cycle_eq]
    exact ⟨hphase, rfl⟩
  | loadRom rom =>
    simp only [Machine.react, Machine.loadRom]
    cases m.memory.loadRom rom with
    | error fault => exact ⟨hphase, rfl⟩
    | ok memory => exact ⟨hphase, rfl⟩
  | _ => exact ⟨hphase, rfl⟩

/-- It stays there after any number of events. -/
theorem Invariant.stuck_after (hm : m.Invariant) (hphase : m.phase = .running)
    (hpc : 0xFFE < m.pc) (events : List Event) :
    (m.after events).phase = .running ∧ (m.after events).pc = m.pc := by
  induction events generalizing m with
  | nil => exact ⟨hphase, rfl⟩
  | cons event rest ih =>
    obtain ⟨hphase', hpc'⟩ := hm.stuck hphase hpc event
    have hrest := ih (hm.react event) hphase' (hpc' ▸ hpc)
    rw [hpc'] at hrest
    exact hrest

/-- A machine within the bounds is within them after any events. -/
theorem Invariant.after (hm : m.Invariant) (events : List Event) : (m.after events).Invariant := by
  induction events generalizing m with
  | nil => exact hm
  | cons event rest ih => exact ih (hm.react event)

/-- Where there is nothing to fetch, there is nothing to fetch after any run either, and the fault is
the same. -/
theorem Invariant.cycle_fault_after (hm : m.Invariant) (hphase : m.phase = .running)
    (hfetch : m.fetch = .error fault) (events : List Event) :
    (m.after events).cycle.fault = some fault := by
  obtain ⟨hpc, rfl⟩ := hm.fetch_eq_error_iff.mp hfetch
  obtain ⟨hphase', hpc'⟩ := hm.stuck_after hphase hpc events
  have hlt : 0xFFE < (m.after events).pc := by
    rw [hpc']
    exact hpc
  have hraises := Raises.fetch hphase' hlt
  rw [hpc'] at hraises
  exact hraises.cycle_fault (hm.after events)

/-- Within the bounds the program counter moves past a word without wrapping round. -/
theorem Invariant.fetched_eq (hm : m.Invariant) {word : Int} (hfetch : m.fetch = .ok word) :
    m.fetched word = { m with fetchedAt := m.pc, opcode := word, pc := m.pc + 2 } := by
  obtain ⟨-, hpc, -, -⟩ := hm.fetched hfetch
  rw [← hpc]
  rfl

/-- A faulty step does no more than fetch. -/
theorem Step.machine_of_fault {o : Outcome} (hstep : m.Step o) (hfault : o.fault = some fault) :
    (m.phase = .running ∧ m.fetch = .error fault ∧ o.machine = { m with fetchedAt := m.pc }) ∨
      ∃ word, m.fetch = .ok word ∧ o.machine = m.fetched word := by
  cases hstep with
  | poll r hphase => cases hfault
  | unfetched cause hphase hfetch =>
    cases hfault
    exact .inl ⟨hphase, hfetch, rfl⟩
  | unrecognized word hphase hfetch hword => exact .inr ⟨word, hfetch, rfl⟩
  | refused word i cause hphase hfetch hword hrefusal => exact .inr ⟨word, hfetch, rfl⟩
  | obeyed word i after hphase hfetch hword hrefusal hexecute => cases hfault

/-- **A cycle that raises a fault is atomic.** If nothing could be fetched, only the address is noted,
and every later cycle raises the same fault, whatever events come in between. If a word was fetched,
it is noted too and the program counter is behind it. Everything else is as it was. -/
theorem Reachable.cycle_of_fault (hm : m.Reachable) (hfault : m.cycle.fault = some fault) :
    (∀ cause, m.fetch = .error cause →
        m.cycle.machine = { m with fetchedAt := m.pc } ∧
          ∀ events, (m.cycle.machine.after events).cycle.fault = some fault) ∧
      (∀ word, m.fetch = .ok word →
        m.cycle.machine = { m with fetchedAt := m.pc, opcode := word, pc := m.pc + 2 }) := by
  have hinv := hm.invariant
  have hcycle := hinv.cycle
  rcases m.step_cycle.machine_of_fault hfault with
    ⟨hphase, hfetch, hmachine⟩ | ⟨word, hfetch, hmachine⟩
  · refine ⟨fun _ _ => ⟨hmachine, fun events => ?_⟩, fun word hword => ?_⟩
    · -- The address that was noted makes no difference to the fetch.
      rw [hmachine] at hcycle ⊢
      exact hcycle.cycle_fault_after hphase hfetch events
    · rw [hfetch] at hword
      cases hword
  · refine ⟨fun cause hcause => ?_, fun word' hword' => ?_⟩
    · rw [hfetch] at hcause
      cases hcause
    · rw [hfetch] at hword'
      obtain rfl := Except.ok.inj hword'
      rw [hmachine, hinv.fetched_eq hfetch]

/-- A machine whose program has jumped to the last byte of memory. -/
def jumpedToEnd : Machine :=
  (boot {} (Noise.cycling [])).after [.loadRom [0x1F, 0xFF], .cycle]

theorem jumpedToEnd_reachable : jumpedToEnd.Reachable := by
  unfold jumpedToEnd
  exact (Reachable.boot _ _).after _

/-- Nothing that happens later brings it away from there. -/
theorem cycle_of_fault_jumpedToEnd :
    jumpedToEnd.pc = 0xFFF ∧
      ∀ events, (jumpedToEnd.cycle.machine.after events).cycle.fault =
        some (.addressOutOfRange 0x1000) := by
  have hfault : jumpedToEnd.cycle.fault = some (.addressOutOfRange 0x1000) := by decide +kernel
  have hfetch : jumpedToEnd.fetch = .error (.addressOutOfRange 0x1000) := by decide +kernel
  have hlater := ((jumpedToEnd_reachable.cycle_of_fault hfault).1 _ hfetch).2
  exact ⟨by decide +kernel, hlater⟩

end Machine

end Chip8
