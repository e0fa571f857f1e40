import Chip8.Proofs.Machine.Ownership

/-!
# Where a program goes on

A cycle moves the program counter past the word that it has fetched before it obeys the word. So an
instruction that does not care for the program counter goes on behind itself, a skip moves the program
counter once more, and a jump, a call or a return sets it to an address of its own, which is not reduced
to the size of memory.

`Machine.next` says where an instruction leads to, and every cycle that succeeds leads there
(`Machine.Invariant.pc_cycle`). Within the bounds of a run neither of the two moves wraps round. That an
address lies where nothing can be fetched is no concern of the instruction that leads there: it ends well,
and what fails is the fetch that comes next.

Skips come in pairs, one for a condition and one for its opposite. With the same operands on the same
machine exactly one of a pair skips (`Machine.oneSkips`).
-/

namespace Chip8

namespace Form

/-- The forms that may move the program counter once more. -/
def isSkip : Form → Bool
  | .skipIfByte | .skipUnlessByte | .skipIfEqual => true
  | .skipUnlessEqual | .skipIfHeld | .skipUnlessHeld => true
  | _ => false

/-- The skips, and the forms that set the program counter. -/
def steers : Form → Bool
  | .jump | .call | .jumpFrom | .ret => true
  | form => form.isSkip

/-- The skips for a condition, each with the one for its opposite. -/
def opposites : List (Form × Form) :=
  [(.skipIfByte, .skipUnlessByte), (.skipIfEqual, .skipUnlessEqual), (.skipIfHeld, .skipUnlessHeld)]

theorem isSkip_of_mem_opposites :
    ∀ pair ∈ opposites, pair.1.isSkip = true ∧ pair.2.isSkip = true := by
  decide

end Form

namespace Machine

/-- The address that an instruction sets the program counter to, if it does. -/
def target? (m : Machine) (i : Instruction) : Option Int :=
  match i.form with
  | .jump | .call => some i.operands.nnn.val
  | .jumpFrom => some (i.operands.nnn.val + (m.register firstRegister).toNat)
  | .ret => m.stack.items.head?
  | _ => none

/-- The condition of a skip holds. -/
def skips (m : Machine) (i : Instruction) : Bool :=
  match i.form with
  | .skipIfByte => m.register i.operands.x = i.operands.kk
  | .skipUnlessByte => m.register i.operands.x ≠ i.operands.kk
  | .skipIfEqual => m.register i.operands.x = m.register i.operands.y
  | .skipUnlessEqual => m.register i.operands.x ≠ m.register i.operands.y
  | .skipIfHeld => m.keypad.isHeld (keyNamed (m.register i.operands.x)) = true
  | .skipUnlessHeld => m.keypad.isHeld (keyNamed (m.register i.operands.x)) = false
  | _ => false

/-- Where an instruction at the program counter leads to. -/
def next (m : Machine) (i : Instruction) : Int :=
  (m.target? i).getD (if m.skips i then m.pc + 4 else m.pc + 2)

variable {m after : Machine} {i : Instruction} {word : Int}

/-! ### One instruction -/

theorem pc_skipIf (m : Machine) (condition : Bool) :
    (m.skipIf condition).pc = if condition then (m.pc + 2) % 0x10000 else m.pc := by
  cases condition <;> rfl

/-- A skip does nothing but what its condition says of the program counter. -/
theorem execute_skip (hskip : i.form.isSkip = true) (m : Machine) :
    execute i m = .ok () (m.skipIf (m.skips i)) := by
  obtain ⟨form, o⟩ := i
  cases form with
  -- The table asks whether two bytes are equal, and the machine compares them.
  | skipIfByte | skipIfEqual => rfl
  | skipUnlessByte | skipUnlessEqual =>
    simp only [skips, ne_eq, decide_not]
    rfl
  | skipIfHeld | skipUnlessHeld =>
    change EStateM.Result.ok () (m.skipIf _) = _
    simp [skips]
  | _ => cases hskip

/-- Where an instruction leads to when the program counter has moved past it already. -/
theorem pc_execute (hrefusal : m.refusal? i = none) (h : execute i m = .ok () after) :
    after.pc = (m.target? i).getD (if m.skips i then (m.pc + 2) % 0x10000 else m.pc) := by
  obtain ⟨form, o⟩ := i
  -- The forms that can be refused run by their equations, and the others just run.
  cases form with
  | ret =>
    obtain ⟨address, rest, hitems⟩ := items_of_ret_admitted hrefusal
    rw [execute_ret_of_cons o hitems] at h
    cases h
    simp only [target?, hitems, List.head?_cons, Option.getD_some]
  | call =>
    rw [execute_call_of_room o (room_of_call_admitted hrefusal)] at h
    cases h
    rfl
  | draw =>
    rw [execute_draw_of_no_refusal o hrefusal] at h
    cases h
    rfl
  | decimal =>
    rw [execute_decimal_of_no_refusal o hrefusal] at h
    cases h
    rfl
  | store =>
    rw [execute_store_of_no_refusal o hrefusal] at h
    cases h
    rfl
  | load =>
    rw [execute_load_of_no_refusal o hrefusal] at h
    cases h
    rfl
  | skipIfByte | skipUnlessByte | skipIfEqual | skipUnlessEqual | skipIfHeld | skipUnlessHeld =>
    rw [execute_skip rfl] at h
    cases h
    exact pc_skipIf m _
  | _ =>
    cases h
    rfl

/-- An instruction that steers is refused by the call stack only. -/
theorem refusal?_of_steers (hsteers : i.form.steers = true)
    (hret : i.form = .ret → m.stack.items ≠ [])
    (hcall : i.form = .call → m.stack.depth < m.stack.capacity) : m.refusal? i = none := by
  obtain ⟨form, o⟩ := i
  rw [Option.eq_none_iff_forall_ne_some]
  intro fault hrefusal
  cases form with
  | ret => exact hret rfl (refusal?_ret_eq_some_iff.mp hrefusal).1
  | call =>
    have hroom := hcall rfl
    have hfull := (refusal?_call_eq_some_iff.mp hrefusal).1
    omega
  | jump | jumpFrom | skipIfByte | skipUnlessByte | skipIfEqual | skipUnlessEqual | skipIfHeld
      | skipUnlessHeld =>
    -- A block of no bytes is not refused.
    exact absurd (spanRefusal?_eq_some_iff.mp hrefusal).1 (Int.lt_irrefl 0)
  | _ => cases hsteers

/-! ### One cycle -/

/-- What a machine does that obeys an instruction. -/
theorem Obeys.exists_execute (hm : m.Invariant) (hi : m.Obeys i) :
    ∃ word after, m.fetch = .ok word ∧ (m.fetched word).refusal? i = none ∧
      execute i (m.fetched word) = .ok () after ∧ m.cycle.machine = after := by
  obtain ⟨word, hword, hform, hoperands, hended⟩ := hi
  obtain ⟨h0, h1⟩ := hword.bounds
  obtain ⟨hphase, hfetch⟩ := hm.meets_iff.mp hword
  have hdecoded := (Instruction.ofWord?_eq_some_iff h0 h1 i).mpr ⟨hform, hoperands⟩
  cases hrefusal : (m.fetched word).refusal? i with
  | some fault =>
    rw [(Step.refused word i fault hphase hfetch hdecoded hrefusal).cycle_eq] at hended
    cases hended
  | none =>
    obtain ⟨after, hexecute⟩ := execute_of_no_refusal hrefusal
    have hstep := Step.obeyed word i after hphase hfetch hdecoded hrefusal hexecute
    exact ⟨word, after, hfetch, hrefusal, hexecute, by rw [hstep.cycle_eq]⟩

/-- A running machine that raises no fault has obeyed an instruction. -/
theorem Invariant.exists_obeys (hm : m.Invariant) (hphase : m.phase = .running)
    (hended : m.cycle.fault = none) : ∃ i, m.Obeys i := by
  have hstep := m.step_cycle
  generalize ho : m.cycle = o at hstep
  cases hstep with
  | poll r hawaiting =>
    rw [hphase] at hawaiting
    cases hawaiting
  | obeyed word i after hphase hfetch hword hrefusal hexecute =>
    exact ⟨i, hm.obeys hphase hfetch hword hended⟩
  | _ =>
    -- The other three ways end with a fault.
    rw [ho] at hended
    cases hended

/-- Every cycle that succeeds leads where its instruction leads to. -/
theorem Invariant.pc_cycle (hm : m.Invariant) (hi : m.Obeys i) :
    m.cycle.machine.pc = m.next i := by
  obtain ⟨word, after, hfetch, hrefusal, hexecute, hcycle⟩ := hi.exists_execute hm
  obtain ⟨-, hpc, hle, -⟩ := hm.fetched hfetch
  have h0 := hm.pc_nonneg
  -- Neither what is popped nor the condition of a skip has to do with the fetch.
  have hlead : after.pc = (m.target? i).getD
      (if m.skips i then ((m.fetched word).pc + 2) % 0x10000 else (m.fetched word).pc) :=
    pc_execute hrefusal hexecute
  rw [hcycle, next, hlead, hpc]
  congr 2
  omega

/-- An instruction that steers leaves a machine that runs. -/
theorem Invariant.phase_cycle_of_steers (hm : m.Invariant) (hi : m.Obeys i)
    (hsteers : i.form.steers = true) : m.cycle.machine.phase = .running := by
  obtain ⟨word, after, hfetch, hrefusal, hexecute, hcycle⟩ := hi.exists_execute hm
  have hform : i.form ≠ .awaitKey := by
    intro hawait
    rw [hawait] at hsteers
    cases hsteers
  obtain ⟨_, ⟨hphase, -⟩, -⟩ := hi
  rw [hcycle]
  exact ((kept_of_execute hrefusal hexecute).phase hform).trans hphase

/-- Where an instruction that steers leads behind the last word of memory, nothing is fetched from
then on. -/
theorem Invariant.cycle_fault_of_steered (hm : m.Invariant) (hi : m.Obeys i)
    (hsteers : i.form.steers = true) (hbehind : 0xFFE < m.next i) (events : List Event) :
    (m.cycle.machine.after events).cycle.fault =
      some (.addressOutOfRange (if 0xFFF < m.next i then m.next i else 0x1000)) := by
  refine hm.cycle.cycle_fault_after (hm.phase_cycle_of_steers hi hsteers) ?_ events
  -- The address that is out of range is the one that the instruction has led to.
  rw [← hm.pc_cycle hi] at hbehind ⊢
  exact hm.cycle.fetch_eq_error_iff.mpr ⟨hbehind, rfl⟩

/-- An instruction that steers is obeyed, unless the call stack has no address for it or no room. -/
theorem Meets.obeys_of_steers (hm : m.Invariant) {form : Form} (hword : m.Meets word)
    (hform : form.Fits word) (hsteers : form.steers = true)
    (hret : form = .ret → m.stack.items ≠ []) (hcall : form = .call → m.stack.depth < 16) :
    m.Obeys ⟨form, Operands.ofWord word⟩ := by
  have hroom : form = .call → m.stack.depth < m.stack.capacity := by
    rw [hm.capacity]
    exact_mod_cast hcall
  have hrefusal : (m.fetched word).refusal? ⟨form, Operands.ofWord word⟩ = none :=
    refusal?_of_steers hsteers hret hroom
  obtain ⟨after, hexecute⟩ := execute_of_no_refusal hrefusal
  exact ⟨word, hword, hform, rfl, by rw [hword.cycle_of_execute hm hform hexecute]⟩

/-! ### Skips and their opposites -/

/-- A skip moves the program counter if its condition holds, and does no more. -/
theorem perform_skip {form : Form} (hform : form.Fits word) (hskip : form.isSkip = true)
    (m : Machine) :
    (m.perform word).fault = none ∧ (m.perform word).machine = { m with
      opcode := word
      pc := if m.skips ⟨form, Operands.ofWord word⟩ then (m.pc + 2) % 0x10000 else m.pc } := by
  have hexecute := execute_skip (i := ⟨form, Operands.ofWord word⟩) hskip { m with opcode := word }
  rw [perform_of_execute (Instruction.ofWord?_of_fits hform) hexecute]
  -- The condition does not look at the word that is noted.
  change _ ∧ { m with opcode := word }.skipIf (m.skips ⟨form, Operands.ofWord word⟩) = _
  cases m.skips ⟨form, Operands.ofWord word⟩ <;> exact ⟨rfl, rfl⟩

/-- With the same operands exactly one of a skip and its opposite has its condition. -/
theorem skips_opposite {pair : Form × Form} (hpair : pair ∈ Form.opposites) {v w : Int}
    (hv : pair.1.Fits v) (hsame : v - pair.1.key = w - pair.2.key) (m : Machine) :
    m.skips ⟨pair.2, Operands.ofWord w⟩ = !m.skips ⟨pair.1, Operands.ofWord v⟩ := by
  simp only [Form.opposites, List.mem_cons, List.not_mem_nil, or_false] at hpair
  rcases hpair with rfl | rfl | rfl
  · rw [Operands.ofWord_congr (v := w) (w := v) (by simp only [Form.key] at hsame; omega)]
    simp [skips]
  · rw [Operands.ofWord_congr (v := w) (w := v) (by simp only [Form.key] at hsame; omega)]
    simp [skips]
  · -- The two words differ in their lowest byte, which is no operand of theirs.
    have hbyte : v % 0x100 = 0x9E := by
      simp [Form.Fits, Form.pattern, digits, fixedDigit?] at hv
      omega
    have hx : (Operands.ofWord w).x = (Operands.ofWord v).x := by
      simp only [Form.key] at hsame
      rw [Operands.ofWord, Operands.ofWord, Fin.mk.injEq]
      omega
    simp [skips, hx]

/-- One of two words skips an instruction and the other does not. Apart from that, and from the word
that is noted, they leave the same machine. -/
structure OneSkips (m : Machine) (v w : Int) : Prop where
  ended : (m.perform v).fault = none ∧ (m.perform w).fault = none
  apart : (m.perform v).machine.pc ≠ (m.perform w).machine.pc
  either : ∃ taken : Bool,
    (m.perform v).machine = { m with
      opcode := v, pc := if taken then (m.pc + 2) % 0x10000 else m.pc } ∧
    (m.perform w).machine = { m with
      opcode := w, pc := if taken then m.pc else (m.pc + 2) % 0x10000 }

/-- Of two opposite skips one skips and the other does not, and nothing else tells them apart. -/
theorem oneSkips {pair : Form × Form} (hpair : pair ∈ Form.opposites) {v w : Int}
    (hv : pair.1.Fits v) (hw : pair.2.Fits w) (hsame : v - pair.1.key = w - pair.2.key)
    (m : Machine) : m.OneSkips v w := by
  -- Both are skips, and the condition of the one is that of the other, denied.
  obtain ⟨hskip, hskip'⟩ := Form.isSkip_of_mem_opposites pair hpair
  obtain ⟨hended, hfirst⟩ := perform_skip hv hskip m
  obtain ⟨hended', hsecond⟩ := perform_skip hw hskip' m
  rw [skips_opposite hpair hv hsame] at hsecond
  generalize m.skips ⟨pair.1, Operands.ofWord v⟩ = taken at hfirst hsecond
  refine ⟨⟨hended, hended'⟩, ?_, taken, hfirst, ?_⟩
  · rw [hfirst, hsecond]
    cases taken <;> simp <;> omega
  · rw [hsecond]
    cases taken <;> rfl

/-! ### The law -/

/-- **Where a program goes on.** If a running machine raises no fault in a cycle, it has obeyed an
instruction, and the program counter is where that leads to: at the address of a jump, a call or a
return, behind the next word for a skip whose condition holds, and behind this word for all others. Of
two opposite skips with the same operands exactly one skips on any machine, which is all that they make
different. A skip, a jump, a call or a return succeeds wherever it leads to, unless the call stack
refuses it; if that is behind the last word of memory, every fetch from then on fails. -/
theorem Reachable.goes_on (hm : m.Reachable) :
    (m.phase = .running → m.cycle.fault = none → ∃ i, m.Obeys i) ∧
    (∀ i, m.Obeys i → m.cycle.machine.pc = m.next i) ∧
    (∀ pair ∈ Form.opposites, ∀ v w, pair.1.Fits v → pair.2.Fits w →
      v - pair.1.key = w - pair.2.key → ∀ here : Machine, here.OneSkips v w) ∧
    (∀ form word, m.Meets word → form.Fits word → form.steers = true →
      (form = .ret → m.stack.items ≠ []) → (form = .call → m.stack.depth < 16) →
      let i : Instruction := ⟨form, Operands.ofWord word⟩
      m.Obeys i ∧ (0xFFE < m.next i → ∀ events,
        (m.cycle.machine.after events).cycle.fault =
          some (.addressOutOfRange (if 0xFFF < m.next i then m.next i else 0x1000)))) := by
  have hinv := hm.invariant
  refine ⟨hinv.exists_obeys, fun i => hinv.pc_cycle,
    fun pair hpair v w hv hw hsame here => oneSkips hpair hv hw hsame here,
    fun form word hword hform hsteers hret hcall => ?_⟩
  have hobeys := hword.obeys_of_steers hinv hform hsteers hret hcall
  exact ⟨hobeys, hinv.cycle_fault_of_steered hobeys hsteers⟩

/-- A machine about to jump behind memory. -/
def farJump : Machine :=
  (boot {} (Noise.cycling [])).after [.loadRom [0x60, 0xFF, 0xBF, 0xFF], .cycle]

theorem farJump_reachable : farJump.Reachable := by
  unfold farJump
  exact (Reachable.boot _ _).after _

/-- The jump ends well, and every fetch after it fails. A skip for what the first register holds and its
opposite do not both skip. -/
theorem goes_on_farJump :
    (∃ i, farJump.Obeys i) ∧ farJump.cycle.machine.pc = 0x10FE ∧
      (∀ events, (farJump.cycle.machine.after events).cycle.fault =
        some (.addressOutOfRange 0x10FE)) ∧
      farJump.OneSkips 0x30FF 0x40FF ∧ farJump.OneSkips 0xE09E 0xE0A1 := by
  obtain ⟨hobeyed, hleads, hskips, hsteers⟩ := farJump_reachable.goes_on
  obtain ⟨hword, htarget⟩ : farJump.Meets 0xBFFF ∧
      farJump.next ⟨.jumpFrom, Operands.ofWord 0xBFFF⟩ = 0x10FE := by
    decide +kernel
  obtain ⟨hobeys, hbehind⟩ :=
    hsteers .jumpFrom 0xBFFF hword (by decide) rfl (by decide) (by decide)
  rw [htarget] at hbehind
  have hpc := (hleads _ hobeys).trans htarget
  obtain ⟨_, -, -, -, hended⟩ := hobeys
  refine ⟨hobeyed hword.1 hended, hpc, hbehind (by decide), ?_, ?_⟩
  · exact hskips (.skipIfByte, .skipUnlessByte) (by decide) _ _ (by decide) (by decide) rfl _
  · exact hskips (.skipIfHeld, .skipUnlessHeld) (by decide) _ _ (by decide) (by decide) rfl _

end Machine

end Chip8
