import Chip8.Proofs.Instruction.Pattern
import Chip8.Proofs.Machine.Step

/-!
# The arithmetic of registers

An instruction with a flag takes an exact result apart into a byte and a flag. Nothing of the result is
lost by this: a sum is the byte, plus 256 for a flag that is set; a difference is, once 256 has been
added to it; and the bit that a shift pushes out of a byte is the flag. `Form.Yields` has one equation for
each form, and the equation leaves no choice (`Form.Yields.unique`).

The operands are what the registers held before, whichever registers the instruction names. They may be
one and the same, and either may be the flag register. If the flag register is to take the byte, the
flag is written over it (`Machine.register_setWithFlag`).

* `Machine.execute_flagged`, `Machine.execute_stored`: what is set, with a flag and without one;
* `Machine.arithmetic_exact`: what each of these instructions leaves, and that all else stays.

The words are performed on any machine, so also on one that has just fetched them, which is what a
cycle does (`Machine.cycle_eq_perform`).
-/

namespace Chip8

namespace Form

/-- The forms that set a register and then the flag. -/
def flagged : List Form :=
  [.add, .sub, .shiftRight, .subFrom, .shiftLeft]

/-- A byte and a flag that hold the exact result of a form with a flag. -/
def Yields (a b value : UInt8) (flag : Bool) : Form → Prop
  | .add => (256 * flag.toNat + value.toNat : Int) = a.toNat + b.toNat
  | .sub => (256 * flag.toNat + value.toNat : Int) = a.toNat - b.toNat + 256
  | .subFrom => (256 * flag.toNat + value.toNat : Int) = b.toNat - a.toNat + 256
  | .shiftRight => (2 * value.toNat + flag.toNat : Int) = a.toNat ∧ value.toNat ≤ 127
  | .shiftLeft => (256 * flag.toNat + value.toNat : Int) = 2 * a.toNat
  | _ => False

/-- What a form without a flag is to store, given two registers and the byte of the word. -/
def stored? (a b kk : Nat) : Form → Option Nat
  | .copy => some b
  | .or => some (a ||| b)
  | .and => some (a &&& b)
  | .xor => some (a ^^^ b)
  | .addByte => some ((a + kk) % 256)
  | _ => none

variable {form : Form} {a b value other : UInt8} {flag otherFlag : Bool}

/-- One byte and one flag only hold the exact result. -/
theorem Yields.unique (h : form.Yields a b value flag) (hother : form.Yields a b other otherFlag) :
    other = value ∧ otherFlag = flag := by
  have hvalue := value.toNat_lt
  have hvalue' := other.toNat_lt
  have hflag := flag.toNat_lt
  have hflag' := otherFlag.toNat_lt
  -- Byte and flag are a remainder and a quotient of one number.
  obtain ⟨hbyte, hbit⟩ : other.toNat = value.toNat ∧ otherFlag.toNat = flag.toNat := by
    cases form <;> simp only [Yields] at h hother <;> omega
  refine ⟨UInt8.toNat_inj.mp hbyte, ?_⟩
  revert hbit
  cases otherFlag <;> cases flag <;> decide

/-! ### Results taken apart -/

/-- A condition as a bit. -/
theorem toNat_decide (p : Prop) [Decidable p] : (decide p).toNat = if p then 1 else 0 :=
  Bool.cond_decide p 1 0

/-- A sum is the byte, and 256 more if it has wrapped round. -/
theorem yields_add (a b : UInt8) :
    Form.add.Yields a b (a + b) (255 < a.toNat + b.toNat) := by
  have ha := a.toNat_lt
  have hb := b.toNat_lt
  -- A byte wraps round once at most, and the flag says whether it has.
  simp only [Yields, UInt8.toNat_add, toNat_decide]
  split <;> omega

/-- A difference is the byte, and 256 less if that had to be lent. -/
theorem yields_sub (a b : UInt8) : Form.sub.Yields a b (a - b) (b ≤ a) := by
  have ha := a.toNat_lt
  have hb := b.toNat_lt
  -- The flag is the 256 that was lent and has not been needed.
  simp only [Yields, UInt8.toNat_sub, UInt8.le_iff_toNat_le, toNat_decide]
  split <;> omega

/-- The two subtractions are the same, with the operands in each other's place. -/
theorem yields_subFrom (a b : UInt8) : Form.subFrom.Yields a b (b - a) (a ≤ b) :=
  yields_sub b a

/-- A shift to the right halves the byte, and the flag is what is left over. -/
theorem yields_shiftRight (a b : UInt8) :
    Form.shiftRight.Yields a b (a >>> 1) (a % 2 == 1) := by
  have ha := a.toNat_lt
  -- Byte arithmetic is put as arithmetic on numbers, where halving is division.
  have hodd : (a % 2 == 1) = decide (a.toNat % 2 = 1) := by
    rw [beq_eq_decide, decide_eq_decide, ← UInt8.toNat_inj, UInt8.toNat_mod]
    rfl
  have hshift : (a >>> 1).toNat = a.toNat / 2 := by
    rw [UInt8.toNat_shiftRight, Nat.shiftRight_eq_div_pow]
    rfl
  simp only [Yields, hodd, hshift, toNat_decide]
  constructor
  · split <;> omega
  · omega

/-- A shift to the left doubles the byte, and the flag is the bit that does not fit in. -/
theorem yields_shiftLeft (a b : UInt8) : Form.shiftLeft.Yields a b (a <<< 1) (128 ≤ a) := by
  have ha := a.toNat_lt
  have hshift : (a <<< 1).toNat = 2 * a.toNat % 256 := by
    rw [UInt8.toNat_shiftLeft, Nat.shiftLeft_eq, Nat.mul_comm]
    rfl
  -- The bit that is lost is set if the byte is in its upper half.
  have hhigh : 128 ≤ a ↔ 128 ≤ a.toNat := UInt8.le_iff_toNat_le
  simp only [Yields, hshift, hhigh, toNat_decide]
  split <;> omega

end Form

namespace Machine

variable {m after : Machine} {form : Form} {word : Int}

/-! ### What is set -/

/-- The flag is written last, so it wins if the flag register is to take the value too. -/
theorem register_setWithFlag (m : Machine) (r s : Register) (value : UInt8) (flag : Bool) :
    (m.setWithFlag r value flag).register s =
      if s = flagRegister then (if flag then 1 else 0)
      else if s = r then value else m.register s := by
  rw [setWithFlag, setFlag, register_setRegister, register_setRegister]

/-- A form with a flag sets a byte and a flag that hold its exact result. -/
theorem execute_flagged (hform : form ∈ Form.flagged) (m : Machine) (o : Operands) :
    ∃ value flag, execute ⟨form, o⟩ m = .ok () (m.setWithFlag o.x value flag) ∧
      form.Yields (m.register o.x) (m.register o.y) value flag := by
  -- Both operands are read off the machine as it was before either register is set.
  cases form with
  | add => exact ⟨_, _, rfl, Form.yields_add _ _⟩
  | sub => exact ⟨_, _, rfl, Form.yields_sub _ _⟩
  | shiftRight => exact ⟨_, _, rfl, Form.yields_shiftRight _ _⟩
  | subFrom => exact ⟨_, _, rfl, Form.yields_subFrom _ _⟩
  | shiftLeft => exact ⟨_, _, rfl, Form.yields_shiftLeft _ _⟩
  | _ => simp [Form.flagged] at hform

/-- A form without a flag stores its result, which is a byte already. -/
theorem execute_stored {result : Nat} (m : Machine) (o : Operands)
    (hresult : form.stored? (m.register o.x).toNat (m.register o.y).toNat o.kk.toNat =
      some result) :
    ∃ value, execute ⟨form, o⟩ m = .ok () (m.setRegister o.x value) ∧ value.toNat = result := by
  cases form with
  | copy | or | and | xor | addByte =>
    -- The machine computes with bytes, and the table with the numbers that they are.
    cases hresult
    exact ⟨_, rfl, by simp⟩
  | _ => cases hresult

/-! ### What else stays -/

/-- The word is performed without a fault, and it sets none but the given registers. -/
structure SetsOnly (m : Machine) (word : Int) (registers : List Register) : Prop where
  fault : (m.perform word).fault = none
  rest : (m.perform word).machine =
    { m with opcode := word, registers := (m.perform word).machine.registers }
  others : ∀ r ∉ registers, (m.perform word).machine.register r = m.register r

/-- An instruction that ends well, and changes nothing but the given registers, sets only these. -/
theorem setsOnly_of_execute {registers : List Register} (hform : form.Fits word)
    (hexecute : execute ⟨form, Operands.ofWord word⟩ { m with opcode := word } = .ok () after)
    (hrest : after = { m with opcode := word, registers := after.registers })
    (hothers : ∀ r ∉ registers, after.register r = m.register r) :
    m.SetsOnly word registers ∧ (m.perform word).machine = after := by
  have hperform := perform_of_execute (Instruction.ofWord?_of_fits hform) hexecute
  refine ⟨⟨?_, ?_, ?_⟩, ?_⟩ <;> rw [hperform]
  · exact hrest
  · exact hothers

/-- What a word with a flag comes to, on any machine. -/
theorem perform_flagged (hflagged : form ∈ Form.flagged) (hform : form.Fits word) (m : Machine) :
    let o := Operands.ofWord word
    m.SetsOnly word [o.x, flagRegister] ∧
      ∃ value flag, form.Yields (m.register o.x) (m.register o.y) value flag ∧
        ((m.perform word).machine.register flagRegister).toNat = flag.toNat ∧
        (o.x ≠ flagRegister → (m.perform word).machine.register o.x = value) := by
  intro o
  obtain ⟨value, flag, hexecute, hyields⟩ := execute_flagged hflagged { m with opcode := word } o
  have hothers : ∀ r ∉ [o.x, flagRegister],
      ({ m with opcode := word }.setWithFlag o.x value flag).register r = m.register r := by
    intro r hr
    rw [List.mem_cons, List.mem_singleton, not_or] at hr
    -- Noting the word has changed no register.
    rw [register_setWithFlag, if_neg hr.2, if_neg hr.1]
    rfl
  obtain ⟨hsets, hafter⟩ := setsOnly_of_execute hform hexecute rfl hothers
  refine ⟨hsets, value, flag, hyields, ?_, fun hx => ?_⟩
  · rw [hafter, register_setWithFlag, if_pos rfl]
    cases flag <;> rfl
  · rw [hafter, register_setWithFlag, if_neg hx, if_pos rfl]

/-- What a word without a flag comes to, on any machine. -/
theorem perform_stored (hform : form.Fits word) (m : Machine) :
    let o := Operands.ofWord word
    ∀ result, form.stored? (m.register o.x).toNat (m.register o.y).toNat o.kk.toNat = some result →
      m.SetsOnly word [o.x] ∧ ((m.perform word).machine.register o.x).toNat = result := by
  intro o result hresult
  obtain ⟨value, hexecute, hvalue⟩ := execute_stored { m with opcode := word } o hresult
  have hothers : ∀ r ∉ [o.x],
      ({ m with opcode := word }.setRegister o.x value).register r = m.register r := by
    intro r hr
    rw [register_setRegister, if_neg (List.mem_singleton.not.mp hr)]
    rfl
  obtain ⟨hsets, hafter⟩ := setsOnly_of_execute hform hexecute rfl hothers
  refine ⟨hsets, ?_⟩
  rw [hafter, register_setRegister, if_pos rfl, hvalue]

/-- **The arithmetic of registers loses nothing**, whichever registers it is about and whatever they hold.
A form with a flag leaves the one byte and the one flag that hold its exact result, unless the register
of the byte is that of the flag, which then is all that is left of it. A form without a flag stores its
result and leaves the flag register alone, unless it is to store it there. No other register is changed
and nothing else, and the two forms that move the index move the index only. -/
theorem arithmetic_exact (m : Machine) (word : Int) :
    let o := Operands.ofWord word
    let a := m.register o.x
    let b := m.register o.y
    let last := m.perform word
    (∀ form ∈ Form.flagged, form.Fits word →
      m.SetsOnly word [o.x, flagRegister] ∧
        ∃ value flag, form.Yields a b value flag ∧
          (∀ other bit, form.Yields a b other bit → other = value ∧ bit = flag) ∧
          (last.machine.register flagRegister).toNat = flag.toNat ∧
          (o.x ≠ flagRegister → last.machine.register o.x = value)) ∧
      (∀ (form : Form) (result : Nat), form.Fits word →
        form.stored? a.toNat b.toNat o.kk.toNat = some result →
        m.SetsOnly word [o.x] ∧ (last.machine.register o.x).toNat = result) ∧
      (Form.addIndex.Fits word → last.fault = none ∧
        last.machine = { m with opcode := word, index := (m.index + a.toNat) % 65536 }) ∧
      (Form.glyph.Fits word → last.fault = none ∧
        last.machine = { m with opcode := word, index := 5 * a.toNat }) := by
  intro o a b last
  refine ⟨fun form hflagged hform => ?_, fun form result hform => perform_stored hform m result,
    fun hform => ?_, fun hform => ?_⟩
  · -- The exact result leaves no choice of byte and flag.
    obtain ⟨hrest, value, flag, hyields, hflag, hvalue⟩ := perform_flagged hflagged hform m
    exact ⟨hrest, value, flag, hyields, fun other bit => hyields.unique, hflag, hvalue⟩
  · have hperform : last = _ := perform_of_execute (Instruction.ofWord?_of_fits hform) rfl
    rw [hperform]
    exact ⟨rfl, rfl⟩
  · have hperform : last = _ := perform_of_execute (Instruction.ofWord?_of_fits hform) rfl
    -- The digits start at the beginning of memory, with five bytes for each.
    have hglyph : (Layout.fontStart + Layout.glyphHeight * a.toNat : Int) = 5 * a.toNat := by
      rw [Layout.fontStart, Layout.glyphHeight]
      omega
    rw [hperform, ← hglyph]
    exact ⟨rfl, rfl⟩

/-- A machine with a register that does not double within a byte, and with less in the flag register. -/
def laden : Machine :=
  (boot {} (Noise.cycling [])).after [.loadRom [0x61, 0xC8, 0x6F, 0x03], .cycle, .cycle]

/-- A register is added to itself, and three instructions have the flag register as an operand: it is
subtracted from, it takes part in a disjunction, and it moves the index. -/
theorem arithmetic_exact_laden :
    let doubled := (laden.perform 0x8114).machine
    doubled.register 1 = 144 ∧ doubled.register flagRegister = 1 ∧
      (laden.perform 0x8F15).machine.register flagRegister = 0 ∧
      (laden.perform 0x8F11).machine.register flagRegister = 203 ∧
      (laden.perform 0xF11E).machine.index = 200 ∧ (laden.perform 0xFF29).machine.index = 15 := by
  intro doubled
  -- What the two registers hold, as the operands of each word.
  obtain ⟨hsum, hdifference, hunion, hmoved, hdigit⟩ :
      Form.add.Yields (laden.register (Operands.ofWord 0x8114).x)
          (laden.register (Operands.ofWord 0x8114).y) 144 true ∧
        Form.sub.Yields (laden.register (Operands.ofWord 0x8F15).x)
          (laden.register (Operands.ofWord 0x8F15).y) 59 false ∧
        Form.or.stored? (laden.register (Operands.ofWord 0x8F11).x).toNat
          (laden.register (Operands.ofWord 0x8F11).y).toNat
          (Operands.ofWord 0x8F11).kk.toNat = some 203 ∧
        (laden.index + (laden.register (Operands.ofWord 0xF11E).x).toNat) % 65536 = 200 ∧
        (5 * (laden.register (Operands.ofWord 0xFF29).x).toNat : Int) = 15 := by
    simp only [Form.Yields]
    decide +kernel
  obtain ⟨hdoubling, -, -, -⟩ := arithmetic_exact laden 0x8114
  obtain ⟨-, value, flag, -, hunique, hflag, hvalue⟩ := hdoubling .add (by decide) (by decide)
  obtain ⟨rfl, rfl⟩ := hunique 144 true hsum
  obtain ⟨hborrowing, -, -, -⟩ := arithmetic_exact laden 0x8F15
  obtain ⟨-, value, flag, -, hunique', hflag', -⟩ := hborrowing .sub (by decide) (by decide)
  obtain ⟨rfl, rfl⟩ := hunique' 59 false hdifference
  obtain ⟨-, hstoring, -, -⟩ := arithmetic_exact laden 0x8F11
  obtain ⟨-, hstored⟩ := hstoring .or 203 (by decide) hunion
  obtain ⟨-, -, hmoving, -⟩ := arithmetic_exact laden 0xF11E
  obtain ⟨-, hindex⟩ := hmoving (by decide)
  obtain ⟨-, -, -, hpointing⟩ := arithmetic_exact laden 0xFF29
  obtain ⟨-, hindex'⟩ := hpointing (by decide)
  refine ⟨hvalue (by decide), UInt8.toNat_inj.mp hflag, UInt8.toNat_inj.mp hflag',
    UInt8.toNat_inj.mp hstored, ?_, ?_⟩
  · rw [hindex]
    exact hmoved
  · rw [hindex']
    exact hdigit

end Machine

end Chip8
