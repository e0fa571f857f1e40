import Chip8.Proofs.Machine.Faults
import Chip8.Proofs.Machine.Frame

/-!
# Calls and returns

A call keeps the address behind it on the stack, and a return goes to the address on top. That every
return goes back to its own call is no matter of a single instruction: between the two there may be
other calls and returns, jumps, faults, counts of the timers and work on the pad, and the program may
store over itself.

`Machine.StackMove m event after` lists the three ways in which an event can move the stack: it stays
as it is, a call puts an item on it, or a return takes one off. A run that stays above a depth
therefore never touches the items below (`Machine.Invariant.suffix_after`), and the return that goes
down to that depth finds there what the call has left (`Machine.Reachable.return_to_call`).
-/

namespace Chip8

namespace Machine

/-- How an event moves the stack of a machine. -/
inductive StackMove (m : Machine) (event : Event) (after : Machine) : Prop
  | stays (hstack : after.stack = m.stack)
  /-- A call puts the address behind itself on the stack. -/
  | call {word : Int} (hevent : event = .cycle) (hword : m.Meets word) (hform : Form.call.Fits word)
      (hfault : m.cycle.fault = none)
      (hstack : after.stack = ⟨(m.pc + 2) :: m.stack.items, m.stack.capacity⟩)
      (hpc : after.pc = word % 0x1000)
  /-- A return goes to the address on top of the stack. -/
  | ret {address : Int} {rest : List Int} (hevent : event = .cycle) (hword : m.Meets 0x00EE)
      (hfault : m.cycle.fault = none) (hitems : m.stack.items = address :: rest)
      (hstack : after.stack = ⟨rest, m.stack.capacity⟩) (hpc : after.pc = address)

variable {m after : Machine} {event : Event}

/-! ### One event -/

/-- A call that the stack has room for puts the address behind itself on it, and goes to the address that it
names. -/
theorem Meets.cycle_call (hm : m.Invariant) {word : Int} (hword : m.Meets word)
    (hform : Form.call.Fits word) (hroom : ¬ m.stack.capacity ≤ m.stack.depth) :
    m.cycle.fault = none ∧ m.cycle.machine.pc = word % 0x1000 ∧
      m.cycle.machine.stack = ⟨(m.pc + 2) :: m.stack.items, m.stack.capacity⟩ := by
  obtain ⟨-, hfetch⟩ := hm.meets_iff.mp hword
  have hcycle := hword.cycle_of_execute hm hform (execute_call_of_room _ hroom)
  have haddress : ((Operands.ofWord word).nnn.val : Int) = word % 0x1000 :=
    Int.toNat_of_nonneg (Int.emod_nonneg _ (by decide))
  -- What is put on the stack is the program counter, which has moved past the call.
  rw [hm.fetched_eq hfetch] at hcycle
  rw [hcycle]
  exact ⟨rfl, haddress, rfl⟩

/-- A return goes to the address on top of the stack and takes it off. -/
theorem Meets.cycle_ret (hm : m.Invariant) (hword : m.Meets 0x00EE) {address : Int}
    {rest : List Int} (hitems : m.stack.items = address :: rest) :
    m.cycle.fault = none ∧ m.cycle.machine.pc = address ∧
      m.cycle.machine.stack = ⟨rest, m.stack.capacity⟩ := by
  rw [hword.cycle_of_execute hm (fits_ret_iff.mpr rfl) (execute_ret_of_cons _ hitems)]
  exact ⟨rfl, rfl, rfl⟩

/-- A cycle moves the stack in one of the three ways. -/
theorem Invariant.stackMove_cycle (hm : m.Invariant) : m.StackMove .cycle m.cycle.machine := by
  have hstep := m.step_cycle
  generalize ho : m.cycle = o at hstep
  cases hstep with
  | poll r hphase =>
    refine .stays ?_
    change (m.pollKeypad r).stack = m.stack
    unfold Machine.pollKeypad
    split <;> rfl
  | unfetched fault hphase hfetch => exact .stays rfl
  | unrecognized word hphase hfetch hword => exact .stays rfl
  | refused word i fault hphase hfetch hword hrefusal => exact .stays rfl
  | obeyed word i after hphase hfetch hword hrefusal hexecute =>
    -- Only an instruction that is carried out can move the stack.
    have hmeets := hm.meets_iff.mpr ⟨hphase, hfetch⟩
    obtain ⟨h0, h1⟩ := hmeets.bounds
    obtain ⟨hform, -⟩ := (Instruction.ofWord?_eq_some_iff h0 h1 i).mp hword
    have hmachine : m.cycle.machine = after := by rw [ho]
    obtain ⟨form, o⟩ := i
    by_cases hcall : form = .call
    · subst hcall
      have hroom : ¬ (m.fetched word).stack.capacity ≤ (m.fetched word).stack.depth :=
        room_of_call_admitted hrefusal
      obtain ⟨hfault, hpc, hstack⟩ := hmeets.cycle_call hm hform hroom
      rw [hmachine] at hpc hstack
      exact .call rfl hmeets hform hfault hstack hpc
    by_cases hret : form = .ret
    · subst hret
      obtain ⟨address, rest, hitems⟩ := items_of_ret_admitted hrefusal
      obtain rfl := fits_ret_iff.mp hform
      obtain ⟨hfault, hpc, hstack⟩ := hmeets.cycle_ret hm hitems
      rw [hmachine] at hpc hstack
      exact .ret rfl hmeets hfault hitems hstack hpc
    · -- No other form owns the stack.
      exact .stays ((kept_of_execute hrefusal hexecute).stack hcall hret)

/-- Every event moves the stack in one of the three ways. -/
theorem Invariant.stackMove (hm : m.Invariant) (event : Event) :
    m.StackMove event (m.react event).machine := by
  cases event with
  | cycle => exact hm.stackMove_cycle
  | loadRom rom =>
    refine .stays ?_
    simp only [Machine.react, Machine.loadRom]
    cases m.memory.loadRom rom <;> rfl
  | _ => exact .stays rfl

/-! ### Runs above a depth -/

/-- An event that does not go below some items leaves them in place. -/
theorem StackMove.suffix (h : m.StackMove event after) {items : List Int}
    (hitems : items <:+ m.stack.items) (hdeep : items.length ≤ after.stack.depth) :
    items <:+ after.stack.items := by
  cases h with
  | stays hstack =>
    rw [hstack]
    exact hitems
  | call hevent hword hform hfault hstack hpc =>
    rw [hstack]
    exact hitems.trans (List.suffix_cons _ _)
  | @ret address rest hevent hword hfault htop hstack hpc =>
    rw [htop, List.suffix_cons_iff] at hitems
    rw [hstack] at hdeep ⊢
    rcases hitems with rfl | hrest
    · -- The item that was taken off would be one of those that stay.
      change rest.length + 1 ≤ rest.length at hdeep
      omega
    · exact hrest

/-- A run that never goes below some items leaves them in place. -/
theorem Invariant.suffix_after (hm : m.Invariant) {items : List Int}
    (hitems : items <:+ m.stack.items) {events : List Event}
    (hdeep : ∀ k ≤ events.length, items.length ≤ (m.after (events.take k)).stack.depth) :
    items <:+ (m.after events).stack.items := by
  induction events generalizing m with
  | nil => exact hitems
  | cons event rest ih =>
    -- The run stays deep enough after its first event, and so the items are in place for the rest.
    have hfirst : items.length ≤ (m.react event).machine.stack.depth :=
      hdeep 1 (Nat.succ_le_succ (Nat.zero_le _))
    have hkept := (hm.stackMove event).suffix hitems hfirst
    exact ih (hm.react event) hkept fun k hk => hdeep (k + 1) (Nat.succ_le_succ hk)

/-- The return that takes the last of some items off goes to the address that it is. -/
theorem StackMove.ret_of_depth (h : m.StackMove event after) {address : Int} {items : List Int}
    (hitems : (address :: items) <:+ m.stack.items) (hdepth : after.stack.depth ≤ items.length) :
    event = .cycle ∧ m.Meets 0x00EE ∧ m.cycle.fault = none ∧ after.pc = address ∧
      after.stack = ⟨items, m.stack.capacity⟩ := by
  have hlength := hitems.length_le
  rw [List.length_cons] at hlength
  cases h with
  | stays hstack =>
    rw [hstack, CallStack.depth] at hdepth
    omega
  | call hevent hword hform hfault hstack hpc =>
    rw [hstack, CallStack.depth, List.length_cons] at hdepth
    omega
  | @ret top rest hevent hword hfault htop hstack hpc =>
    rw [hstack] at hdepth
    change rest.length ≤ items.length at hdepth
    -- The items on top and those that the call has left are equally many, so they are the same.
    have hsame : address :: items = top :: rest := by
      -- One list ends with the other, so that they are the same once they are equally long.
      rw [htop] at hitems hlength
      refine hitems.eq_of_length ?_
      rw [List.length_cons] at hlength ⊢
      rw [List.length_cons]
      omega
    obtain ⟨rfl, rfl⟩ := List.cons.inj hsame
    exact ⟨hevent, hword, hfault, hpc, hstack⟩

/-! ### Back to the call -/

/-- **Every return goes back to its own call.** Take any call, and any run after it that stays above
the depth at which the call was made, whatever happens on the way and whichever faults it raises. An
event that goes back to that depth is a return, and it leaves the program counter behind the call and
the stack as it was before the call. Nothing but calls and returns moves the stack at any time. -/
theorem Reachable.return_to_call (hm : m.Reachable) {word : Int} (hword : m.Meets word)
    (hform : Form.call.Fits word) (hroom : m.stack.depth < 16) :
    (m.cycle.fault = none ∧ m.cycle.machine.pc = word % 0x1000 ∧
      m.cycle.machine.stack = ⟨(m.pc + 2) :: m.stack.items, m.stack.capacity⟩) ∧
    (∀ events : List Event,
      (∀ k ≤ events.length,
        m.stack.depth < (m.cycle.machine.after (events.take k)).stack.depth) →
      ∀ event, ((m.cycle.machine.after events).react event).machine.stack.depth ≤ m.stack.depth →
        event = .cycle ∧ (m.cycle.machine.after events).Meets 0x00EE ∧
          (m.cycle.machine.after events).cycle.fault = none ∧
          (m.cycle.machine.after events).cycle.machine.pc = m.pc + 2 ∧
          (m.cycle.machine.after events).cycle.machine.stack = m.stack) ∧
    (∀ (events : List Event) (event : Event),
      ((m.cycle.machine.after events).react event).machine.stack ≠
          (m.cycle.machine.after events).stack →
        event = .cycle ∧ ∃ other, (m.cycle.machine.after events).Meets other ∧
          (Form.call.Fits other ∨ Form.ret.Fits other)) := by
  have hinv := hm.invariant
  have hcapacity := hinv.capacity
  obtain ⟨hfault, hpc, hstack⟩ := hword.cycle_call hinv hform (by omega)
  refine ⟨⟨hfault, hpc, hstack⟩, fun events hdeep event hdepth => ?_, fun events event hmoved => ?_⟩
  · -- What the call has put on the stack and the items below stay there all along.
    have hitems : (m.pc + 2) :: m.stack.items = m.cycle.machine.stack.items := by rw [hstack]
    have hcalled : ((m.pc + 2) :: m.stack.items) <:+ m.cycle.machine.stack.items := ⟨[], hitems⟩
    have hkept := hinv.cycle.suffix_after hcalled hdeep
    have hmove := (hinv.cycle.after events).stackMove event
    obtain ⟨rfl, hreturn, hended, hback, hrestored⟩ := hmove.ret_of_depth hkept hdepth
    refine ⟨rfl, hreturn, hended, hback, hrestored.trans ?_⟩
    have hsize : (m.cycle.machine.after events).stack.capacity = m.stack.capacity :=
      (hinv.cycle.after events).capacity.trans hcapacity.symm
    rw [hsize]
  · have hmove := (hinv.cycle.after events).stackMove event
    cases hmove with
    | stays hsame => exact absurd hsame hmoved
    | call hevent hmet hcall => exact ⟨hevent, _, hmet, .inl hcall⟩
    | ret hevent hmet => exact ⟨hevent, _, hmet, .inr (fits_ret_iff.mpr rfl)⟩

/-- A machine whose program calls a subroutine, which calls another one before it returns. -/
def nestedCalls : Machine :=
  (boot {} (Noise.cycling [])).after
    [.loadRom [0x22, 0x04, 0x12, 0x02, 0x22, 0x08, 0x00, 0xEE, 0x00, 0xEE]]

theorem nestedCalls_reachable : nestedCalls.Reachable := by
  unfold nestedCalls
  exact (Reachable.boot _ _).after _

/-- What happens to it between the first call and the return from it. -/
def nestedRun : List Event :=
  [.cycle, .releaseAll, .cycle, .tick]

theorem return_to_call_nestedCalls :
    nestedCalls.pc = 0x200 ∧
      (nestedCalls.cycle.machine.after nestedRun).Meets 0x00EE ∧
      (nestedCalls.cycle.machine.after nestedRun).cycle.machine.pc = nestedCalls.pc + 2 ∧
      (nestedCalls.cycle.machine.after nestedRun).cycle.machine.stack = nestedCalls.stack := by
  have hword : nestedCalls.Meets 0x2204 :=
    ⟨by decide +kernel, by decide +kernel, by decide +kernel⟩
  have hform : Form.call.Fits 0x2204 := by
    rw [← Form.ofWord?_eq_some_iff_fits (by decide) (by decide)]
    decide
  have hroom : nestedCalls.stack.depth < 16 := by decide +kernel
  have hdeep : ∀ k ≤ nestedRun.length, nestedCalls.stack.depth <
      (nestedCalls.cycle.machine.after (nestedRun.take k)).stack.depth := by
    decide +kernel
  have hdepth : ((nestedCalls.cycle.machine.after nestedRun).react .cycle).machine.stack.depth ≤
      nestedCalls.stack.depth := by
    decide +kernel
  have hreturn := (nestedCalls_reachable.return_to_call hword hform hroom).2.1
  obtain ⟨-, hmet, -, hpc, hstack⟩ := hreturn nestedRun hdeep .cycle hdepth
  exact ⟨by decide +kernel, hmet, hpc, hstack⟩

end Machine

end Chip8
