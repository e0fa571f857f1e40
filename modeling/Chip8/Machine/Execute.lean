import Chip8.Machine

/-!
# Running one instruction

What each form of instruction does to a machine whose program counter has already moved past it. So a
jump overwrites the program counter, and a skip moves it once more.

A fault stops an instruction where it arises, and what the instruction has changed by then stays
changed. So the order matters in which an instruction asks for what can be refused and changes what
belongs to it. Both operands of the arithmetic are read before a register is written, and the flag is
written last, so that it wins where the flag register is an operand too.

* `Change` — a change of a machine that a fault can stop;
* `Machine.execute` — what an instruction does;
* `Machine.execute_ret`, `Machine.execute_call`, `Machine.execute_draw`, `Machine.execute_decimal`,
  `Machine.execute_store`, `Machine.execute_load` — the instructions that can be refused, by what the
  stack or the memory answers.
-/

namespace Chip8

/-- A change of a machine that a fault can stop. What was changed before the fault stays changed. -/
abbrev Change (α : Type) : Type :=
  EStateM Fault Machine α

namespace Change

def popReturn : Change Int := do
  let m ← get
  let (address, stack) ← MonadExcept.ofExcept m.stack.pop
  set { m with stack }
  return address

def pushReturn (address : Int) : Change Unit := do
  let m ← get
  let stack ← MonadExcept.ofExcept (m.stack.push address)
  set { m with stack }

/-- Reads a run of bytes from the index on. -/
def readAtIndex (count : Int) : Change (List UInt8) := do
  let m ← get
  MonadExcept.ofExcept (m.memory.readBlock m.index count)

/-- Stores a run of bytes from the index on. -/
def storeAtIndex (bytes : List UInt8) : Change Unit := do
  let m ← get
  let memory ← MonadExcept.ofExcept (m.memory.writeBlock m.index bytes)
  set { m with memory }

variable {α β : Type}

theorem bind_apply (c : Change α) (next : α → Change β) (m : Machine) :
    (c >>= next) m =
      match c m with
      | .ok a after => next a after
      | .error fault after => .error fault after := by
  change EStateM.bind c next m = _
  unfold EStateM.bind
  cases c m <;> rfl

theorem ofExcept_apply (result : Except Fault α) (m : Machine) :
    (MonadExcept.ofExcept result : Change α) m =
      match result with
      | .ok a => .ok a m
      | .error fault => .error fault m := by
  cases result <;> rfl

theorem popReturn_apply (m : Machine) :
    popReturn m =
      match m.stack.pop with
      | .ok (address, stack) => .ok address { m with stack }
      | .error fault => .error fault m := by
  change ((MonadExcept.ofExcept m.stack.pop : Change _) >>= _) m = _
  rw [bind_apply, ofExcept_apply]
  cases m.stack.pop <;> rfl

theorem pushReturn_apply (address : Int) (m : Machine) :
    pushReturn address m =
      match m.stack.push address with
      | .ok stack => .ok () { m with stack }
      | .error fault => .error fault m := by
  change ((MonadExcept.ofExcept (m.stack.push address) : Change _) >>= _) m = _
  rw [bind_apply, ofExcept_apply]
  cases m.stack.push address <;> rfl

theorem readAtIndex_apply (count : Int) (m : Machine) :
    readAtIndex count m =
      match m.memory.readBlock m.index count with
      | .ok bytes => .ok bytes m
      | .error fault => .error fault m := by
  change (MonadExcept.ofExcept (m.memory.readBlock m.index count) : Change _) m = _
  rw [ofExcept_apply]
  cases m.memory.readBlock m.index count <;> rfl

theorem storeAtIndex_apply (bytes : List UInt8) (m : Machine) :
    storeAtIndex bytes m =
      match m.memory.writeBlock m.index bytes with
      | .ok memory => .ok () { m with memory }
      | .error fault => .error fault m := by
  change ((MonadExcept.ofExcept (m.memory.writeBlock m.index bytes) : Change _) >>= _) m = _
  rw [bind_apply, ofExcept_apply]
  cases m.memory.writeBlock m.index bytes <;> rfl

end Change

namespace Machine

/-- Sets a register and then the flag. -/
def setWithFlag (m : Machine) (r : Register) (value : UInt8) (flag : Bool) : Machine :=
  (m.setRegister r value).setFlag flag

/-- The key that the lowest nibble of a byte names. -/
def keyNamed (value : UInt8) : Key :=
  ⟨value.toNat % 16, Nat.mod_lt _ (by decide)⟩

/-- The hundreds, tens and units of a byte. -/
def decimalDigits (value : UInt8) : List UInt8 :=
  [value / 100, value / 10 % 10, value % 10]

open Change in
def execute (i : Instruction) : Change Unit := do
  let m ← get
  let x := i.operands.x
  let vx := m.register i.operands.x
  let vy := m.register i.operands.y
  let kk := i.operands.kk
  let address : Int := i.operands.nnn.val
  match i.form with
  -- The screen, and the flow of control. A call keeps the address behind itself.
  | .clear => set { m with screen := m.screen.clear }
  | .ret => do
    let pc ← popReturn
    modify ({ · with pc })
  | .jump => set { m with pc := address }
  | .call => do
    pushReturn m.pc
    modify ({ · with pc := address })
  | .skipIfByte => set (m.skipIf (vx == kk))
  | .skipUnlessByte => set (m.skipIf (vx != kk))
  | .skipIfEqual => set (m.skipIf (vx == vy))
  -- Setting a register without a flag.
  | .setByte => set (m.setRegister x kk)
  | .addByte => set (m.setRegister x (vx + kk))
  | .copy => set (m.setRegister x vy)
  | .or => set (m.setRegister x (vx ||| vy))
  | .and => set (m.setRegister x (vx &&& vy))
  | .xor => set (m.setRegister x (vx ^^^ vy))
  -- Arithmetic with a flag.
  | .add => set (m.setWithFlag x (vx + vy) (255 < vx.toNat + vy.toNat))
  | .sub => set (m.setWithFlag x (vx - vy) (vy ≤ vx))
  | .shiftRight => set (m.setWithFlag x (vx >>> 1) (vx % 2 == 1))
  | .subFrom => set (m.setWithFlag x (vy - vx) (vx ≤ vy))
  | .shiftLeft => set (m.setWithFlag x (vx <<< 1) (128 ≤ vx))
  | .skipUnlessEqual => set (m.skipIf (vx != vy))
  | .setIndex => set { m with index := address }
  -- The target may lie behind the end of memory, which the next fetch finds out.
  | .jumpFrom => set { m with pc := address + (m.register firstRegister).toNat }
  | .random =>
    let (byte, noise) := m.noise.draw
    set ({ m with noise }.setRegister x (byte &&& kk))
  -- The sprite is read before anything is drawn.
  | .draw => do
    let sprite ← readAtIndex i.operands.n.val
    let (hit, screen) := m.screen.draw vx.toNat vy.toNat sprite
    set { m with screen }
    modify (·.setFlag hit)
  -- Only the lowest nibble of a register names a key.
  | .skipIfHeld => set (m.skipIf (m.keypad.isHeld (keyNamed vx)))
  | .skipUnlessHeld => set (m.skipIf (!m.keypad.isHeld (keyNamed vx)))
  | .readDelay => set (m.setRegister x m.timers.delay)
  | .awaitKey => set { m with phase := .awaitingKey x }
  | .setDelay => set { m with timers := { m.timers with delay := vx } }
  | .setSound => set { m with timers := { m.timers with sound := vx } }
  -- The index may point behind the end of memory until it is used.
  | .addIndex => set { m with index := (m.index + vx.toNat) % 0x10000 }
  | .glyph => set { m with index := Layout.fontStart + Layout.glyphHeight * vx.toNat }
  -- Blocks are stored whole or not at all.
  | .decimal => storeAtIndex (decimalDigits vx)
  | .store => storeAtIndex (m.registersTo x)
  | .load => do
    let bytes ← readAtIndex (x.val + 1)
    modify (·.setRegistersTo x bytes)

/-! ### The instructions that can be refused

The others always end well, and what they do is what `execute` says by definition. -/

section Refusable

open Change

variable (m : Machine) (o : Operands)

theorem execute_ret :
    execute ⟨.ret, o⟩ m =
      match m.stack.pop with
      | .ok (pc, stack) => .ok () { m with stack, pc }
      | .error fault => .error fault m := by
  change (popReturn >>= _) m = _
  rw [bind_apply, popReturn_apply]
  cases m.stack.pop <;> rfl

theorem execute_call :
    execute ⟨.call, o⟩ m =
      match m.stack.push m.pc with
      | .ok stack => .ok () { m with stack, pc := o.nnn.val }
      | .error fault => .error fault m := by
  change (pushReturn m.pc >>= _) m = _
  rw [bind_apply, pushReturn_apply]
  cases m.stack.push m.pc <;> rfl

theorem execute_draw :
    execute ⟨.draw, o⟩ m =
      match m.memory.readBlock m.index o.n.val with
      | .ok sprite =>
        let (hit, screen) := m.screen.draw (m.register o.x).toNat (m.register o.y).toNat sprite
        .ok () ({ m with screen }.setFlag hit)
      | .error fault => .error fault m := by
  change (readAtIndex o.n.val >>= _) m = _
  rw [bind_apply, readAtIndex_apply]
  cases m.memory.readBlock m.index o.n.val <;> rfl

theorem execute_decimal :
    execute ⟨.decimal, o⟩ m =
      match m.memory.writeBlock m.index (decimalDigits (m.register o.x)) with
      | .ok memory => .ok () { m with memory }
      | .error fault => .error fault m :=
  storeAtIndex_apply _ m

theorem execute_store :
    execute ⟨.store, o⟩ m =
      match m.memory.writeBlock m.index (m.registersTo o.x) with
      | .ok memory => .ok () { m with memory }
      | .error fault => .error fault m :=
  storeAtIndex_apply _ m

theorem execute_load :
    execute ⟨.load, o⟩ m =
      match m.memory.readBlock m.index (o.x.val + 1) with
      | .ok bytes => .ok () (m.setRegistersTo o.x bytes)
      | .error fault => .error fault m := by
  change (readAtIndex (o.x.val + 1) >>= _) m = _
  rw [bind_apply, readAtIndex_apply]
  cases m.memory.readBlock m.index (o.x.val + 1) <;> rfl

end Refusable

end Machine

end Chip8
