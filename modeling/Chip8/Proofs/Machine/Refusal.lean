import Chip8.Machine.Execute
import Chip8.Proofs.Memory.Block

/-!
# Refused instructions

Which instructions a machine refuses, and what is left of the machine then. Only a return, a call and
the instructions that touch memory are ever refused; `Machine.refusal?` says when, and by which fault,
without running anything.

* `Machine.execute_of_refusal`: a refused instruction raises that fault and has changed nothing at
  all, because every instruction asks for all that can be refused before it changes anything;
* `Machine.execute_of_no_refusal`: every other instruction ends well. What comes of those that could
  have been refused is said by one equation each, such as `Machine.execute_ret_of_cons`.
-/

namespace Chip8

/-- How many bytes, from the index on, an instruction reads or stores. -/
def Instruction.span (i : Instruction) : Nat :=
  match i.form with
  | .draw => i.operands.n.val
  | .decimal => 3
  | .store | .load => i.operands.x.val + 1
  | _ => 0

namespace Machine

/-- The fault by which a machine refuses to touch a run of bytes from the index on, if it does. A run
of no bytes is not refused wherever the index points. -/
def spanRefusal? (m : Machine) (count : Int) : Option Fault :=
  if 0 < count ∧ ¬ m.memory.Holds m.index count then
    some (.addressOutOfRange (m.memory.firstOutside m.index count))
  else none

/-- The fault by which a machine refuses an instruction, if it does. -/
def refusal? (m : Machine) (i : Instruction) : Option Fault :=
  match i.form with
  | .ret => if m.stack.items = [] then some .stackUnderflow else none
  | .call => if m.stack.capacity ≤ m.stack.depth then some .stackOverflow else none
  | _ => m.spanRefusal? i.span

variable {m : Machine} {fault : Fault}

/-- A run of bytes is refused if there are any in it and not all of them exist. The fault names the first one
that does not. -/
theorem spanRefusal?_eq_some_iff {count : Int} :
    m.spanRefusal? count = some fault ↔
      0 < count ∧ ¬ m.memory.Holds m.index count ∧
        fault = .addressOutOfRange (m.memory.firstOutside m.index count) := by
  rw [spanRefusal?, Option.ite_none_right_eq_some, Option.some.injEq, and_assoc, eq_comm]

/-- A run is admitted if all its bytes exist, or if there are none in it. -/
theorem spanRefusal?_eq_none_iff {count : Int} :
    m.spanRefusal? count = none ↔ (0 < count → m.memory.Holds m.index count) := by
  unfold spanRefusal?
  -- The test is a conjunction, and the statement takes it apart.
  by_cases h : 0 < count ∧ ¬ m.memory.Holds m.index count
  · rw [if_pos h]
    exact ⟨fun hf => (Option.some_ne_none _ hf).elim, fun hf => absurd (hf h.1) h.2⟩
  · rw [if_neg h]
    exact ⟨fun _ hpos => Decidable.of_not_not fun hout => h ⟨hpos, hout⟩, fun _ => rfl⟩

/-! ### What each form is refused for -/

section Forms

variable {o : Operands}

/-- A return is refused for an empty stack alone. -/
theorem refusal?_ret_eq_some_iff :
    m.refusal? ⟨.ret, o⟩ = some fault ↔ m.stack.items = [] ∧ fault = .stackUnderflow := by
  change (if m.stack.items = [] then some Fault.stackUnderflow else none) = some fault ↔ _
  rw [Option.ite_none_right_eq_some, Option.some.injEq, eq_comm (a := Fault.stackUnderflow)]

/-- A call is refused for a full stack alone. Where it leads does not matter: only a fetch from there could
fail. -/
theorem refusal?_call_eq_some_iff :
    m.refusal? ⟨.call, o⟩ = some fault ↔
      m.stack.capacity ≤ m.stack.depth ∧ fault = .stackOverflow := by
  change (if m.stack.capacity ≤ m.stack.depth then some Fault.stackOverflow else none) =
    some fault ↔ _
  rw [Option.ite_none_right_eq_some, Option.some.injEq, eq_comm (a := Fault.stackOverflow)]

/-- A sprite has as many bytes as the last digit of the word says. -/
theorem refusal?_draw : m.refusal? ⟨.draw, o⟩ = m.spanRefusal? o.n.val := rfl

/-- A register comes to three decimal digits, whatever its value is. -/
theorem refusal?_decimal : m.refusal? ⟨.decimal, o⟩ = m.spanRefusal? 3 := rfl

/-- Registers are stored up to the one that is named, with that one. -/
theorem refusal?_store : m.refusal? ⟨.store, o⟩ = m.spanRefusal? (o.x.val + 1) := rfl

theorem refusal?_load : m.refusal? ⟨.load, o⟩ = m.spanRefusal? (o.x.val + 1) := rfl

end Forms

/-! ### The two kinds of access -/

/-- Reading a run that is refused gives the fault of the refusal. -/
theorem readBlock_of_refusal {count : Int} (h : m.spanRefusal? count = some fault) :
    m.memory.readBlock m.index count = .error fault := by
  obtain ⟨hpos, hout, rfl⟩ := spanRefusal?_eq_some_iff.mp h
  rw [Memory.readBlock_of_pos _ _ hpos, if_neg hout]

/-- Reading a run that is admitted gives its bytes. -/
theorem readBlock_of_no_refusal {count : Int} (h : m.spanRefusal? count = none) :
    m.memory.readBlock m.index count = .ok (m.memory.slice m.index.toNat count.toNat) := by
  by_cases hpos : 0 < count
  · have hin := spanRefusal?_eq_none_iff.mp h hpos
    rw [Memory.readBlock_of_pos _ _ hpos, if_pos hin]
  · -- Reading no bytes is never refused, and neither is there anything in the slice.
    have hnone : count.toNat = 0 := by omega
    rw [Memory.readBlock_of_nonpos _ _ (by omega), hnone]
    rfl

/-- Storing over a run that is refused gives the fault of the refusal, and stores none of the bytes. -/
theorem writeBlock_of_refusal {block : List UInt8}
    (h : m.spanRefusal? block.length = some fault) :
    m.memory.writeBlock m.index block = .error fault := by
  obtain ⟨hpos, hout, rfl⟩ := spanRefusal?_eq_some_iff.mp h
  -- Only a block with bytes in it is ever compared with the memory.
  have hne : block ≠ [] := List.length_pos_iff.mp (by omega)
  rw [Memory.writeBlock_of_ne_nil _ _ hne, if_neg hout]

/-- Storing over a run that is admitted puts all the bytes in place. -/
theorem writeBlock_of_no_refusal {block : List UInt8} (hne : block ≠ [])
    (h : m.spanRefusal? block.length = none) :
    m.memory.writeBlock m.index block = .ok (m.memory.put m.index.toNat block) := by
  have hpos : 0 < block.length := List.length_pos_iff.mpr hne
  have hin := spanRefusal?_eq_none_iff.mp h (by omega)
  rw [Memory.writeBlock_of_ne_nil _ _ hne, if_pos hin]

/-! ### Instructions -/

/-- The register that is named last is counted as well. -/
theorem length_registersTo (m : Machine) (last : Register) :
    (m.registersTo last).length = last.val + 1 := by
  rw [registersTo, List.length_take, Vector.length_toList]
  omega

/-- A refused instruction leaves the machine exactly as it was. -/
theorem execute_of_refusal {i : Instruction} (h : m.refusal? i = some fault) :
    execute i m = .error fault m := by
  -- Six forms ask the stack or the memory for something, each in its own way. In each of them the
  -- refusal turns into the fault of what it asks first.
  obtain ⟨form, o⟩ := i
  cases form with
  | ret =>
    obtain ⟨hempty, rfl⟩ := refusal?_ret_eq_some_iff.mp h
    rw [execute_ret, CallStack.pop, hempty]
  | call =>
    obtain ⟨hfull, rfl⟩ := refusal?_call_eq_some_iff.mp h
    rw [execute_call, CallStack.push, if_pos hfull]
  | draw =>
    rw [refusal?_draw] at h
    rw [execute_draw, readBlock_of_refusal h]
  | decimal =>
    rw [refusal?_decimal] at h
    rw [execute_decimal, writeBlock_of_refusal (by exact h)]
  | store =>
    -- What is refused is asked by the number of registers, and stored is a list of them.
    have hlength : (m.registersTo o.x).length = (o.x.val + 1 : Int) := by
      rw [length_registersTo]
      rfl
    rw [refusal?_store, ← hlength] at h
    rw [execute_store, writeBlock_of_refusal h]
  | load =>
    rw [refusal?_load] at h
    rw [execute_load, readBlock_of_refusal h]
  | _ =>
    -- All other forms touch no memory, and a block of no bytes is not refused.
    exact absurd (spanRefusal?_eq_some_iff.mp h).1 (Int.lt_irrefl 0)

section Admitted

variable (o : Operands)

/-- A return takes the last address off the stack and goes on there. -/
theorem execute_ret_of_cons {address : Int} {rest : List Int} (h : m.stack.items = address :: rest) :
    execute ⟨.ret, o⟩ m =
      .ok () { m with stack := { m.stack with items := rest }, pc := address } := by
  rw [execute_ret, CallStack.pop, h]

/-- A call leaves the address of the next instruction on the stack. -/
theorem execute_call_of_room (h : ¬ m.stack.capacity ≤ m.stack.depth) :
    execute ⟨.call, o⟩ m =
      .ok () { m with
        stack := { m.stack with items := m.pc :: m.stack.items }
        pc := o.nnn.val } := by
  rw [execute_call, CallStack.push, if_neg h]

/-- A drawing uses the bytes from the index on, and sets the flag to whether a lit pixel went out. -/
theorem execute_draw_of_no_refusal (h : m.spanRefusal? o.n.val = none) :
    execute ⟨.draw, o⟩ m =
      let drawn := m.screen.draw (m.register o.x).toNat (m.register o.y).toNat
        (m.memory.slice m.index.toNat o.n.val)
      .ok () ({ m with screen := drawn.2 }.setFlag drawn.1) := by
  rw [execute_draw, readBlock_of_no_refusal h]
  rfl

theorem execute_decimal_of_no_refusal (h : m.spanRefusal? 3 = none) :
    execute ⟨.decimal, o⟩ m =
      .ok () { m with
        memory := m.memory.put m.index.toNat (decimalDigits (m.register o.x)) } := by
  rw [execute_decimal, writeBlock_of_no_refusal (by simp [decimalDigits]) (by exact h)]

theorem execute_store_of_no_refusal (h : m.spanRefusal? (o.x.val + 1) = none) :
    execute ⟨.store, o⟩ m =
      .ok () { m with memory := m.memory.put m.index.toNat (m.registersTo o.x) } := by
  -- How many bytes are stored is the length of a list, and the refusal is asked by a number.
  have hlength := length_registersTo m o.x
  have hne : m.registersTo o.x ≠ [] := List.length_pos_iff.mp (by omega)
  have hadmitted : m.spanRefusal? (m.registersTo o.x).length = none := by
    rw [hlength]
    exact h
  rw [execute_store, writeBlock_of_no_refusal hne hadmitted]

theorem execute_load_of_no_refusal (h : m.spanRefusal? (o.x.val + 1) = none) :
    execute ⟨.load, o⟩ m =
      .ok () (m.setRegistersTo o.x (m.memory.slice m.index.toNat (o.x.val + 1))) := by
  rw [execute_load, readBlock_of_no_refusal h]
  rfl

end Admitted

/-- A return that is not refused has an address to go back to. -/
theorem items_of_ret_admitted {o : Operands} (h : m.refusal? ⟨.ret, o⟩ = none) :
    ∃ address rest, m.stack.items = address :: rest := by
  refine List.exists_cons_of_ne_nil fun hempty => ?_
  have hrefusal : m.refusal? ⟨.ret, o⟩ = some .stackUnderflow :=
    refusal?_ret_eq_some_iff.mpr ⟨hempty, rfl⟩
  rw [h] at hrefusal
  cases hrefusal

/-- A call that is not refused finds room on the stack. -/
theorem room_of_call_admitted {o : Operands} (h : m.refusal? ⟨.call, o⟩ = none) :
    ¬ m.stack.capacity ≤ m.stack.depth := by
  intro hfull
  have hrefusal : m.refusal? ⟨.call, o⟩ = some .stackOverflow :=
    refusal?_call_eq_some_iff.mpr ⟨hfull, rfl⟩
  rw [h] at hrefusal
  cases hrefusal

/-- An instruction that is not refused ends well. -/
theorem execute_of_no_refusal {i : Instruction} (h : m.refusal? i = none) :
    ∃ after, execute i m = .ok () after := by
  obtain ⟨form, o⟩ := i
  cases form with
  | ret =>
    obtain ⟨address, rest, hitems⟩ := items_of_ret_admitted h
    exact ⟨_, execute_ret_of_cons o hitems⟩
  | call => exact ⟨_, execute_call_of_room o (room_of_call_admitted h)⟩
  | draw => exact ⟨_, execute_draw_of_no_refusal o h⟩
  | decimal => exact ⟨_, execute_decimal_of_no_refusal o h⟩
  | store => exact ⟨_, execute_store_of_no_refusal o h⟩
  | load => exact ⟨_, execute_load_of_no_refusal o h⟩
  | _ =>
    -- No other form asks anything that could be refused.
    exact ⟨_, rfl⟩

end Machine

end Chip8
