import Chip8.Text.Hex

/-!
# Instruction forms

A word of sixteen bits stands for one of thirty-four forms of instruction, or for none. Its leading
nibble chooses which of its bits tell the form; the bits that are left over are operands. The *key*
of a word is the word with its operands cleared, and each form has a key of its own.

* `Form.ofWord?` — the form that a word stands for;
* `Form.key` — the table of keys;
* `Form.text` — a form as assembly, given the operand fields to show;
* `Form.ofWord?_eq_some_iff` — a word has a form exactly if it has the form's key.

Words are taken as integers without bounds. Outside sixteen bits the leading nibble is none of the
special ones, and the lowest four of its bits decide alone.
-/

namespace Chip8

/-- The bits of a word that tell its form. -/
inductive Mask
  | whole
  | outerNibbles
  | leadingAndByte
  | leadingNibble
  deriving DecidableEq

namespace Mask

/-- The mask of the words that start with the given bits, those above the lowest twelve. -/
def ofLeading (leading : Int) : Mask :=
  if leading = 0x0 then .whole
  else if leading = 0x5 ∨ leading = 0x8 ∨ leading = 0x9 then .outerNibbles
  else if leading = 0xE ∨ leading = 0xF then .leadingAndByte
  else .leadingNibble

/-- The word with the bits outside the mask cleared. -/
def apply (mask : Mask) (word : Int) : Int :=
  let leading := word / 0x1000 % 0x10 * 0x1000
  match mask with
  | .whole => word % 0x10000
  | .outerNibbles => leading + word % 0x10
  | .leadingAndByte => leading + word % 0x100
  | .leadingNibble => leading

end Mask

/-- The word with its operands cleared. -/
def wordKey (word : Int) : Int :=
  (Mask.ofLeading (word / 0x1000)).apply word

/-- The forms of instruction. -/
inductive Form
  | clear
  /-- Goes back to the latest call. -/
  | ret
  | jump
  /-- Goes on at an address, to come back. -/
  | call
  | skipIfByte
  | skipUnlessByte
  | skipIfEqual
  | setByte
  /-- Adds a byte to a register, without a flag. -/
  | addByte
  | copy
  | or
  | and
  | xor
  /-- Adds a register, with the carry as flag. -/
  | add
  /-- Subtracts a register, with the flag set if nothing was borrowed. -/
  | sub
  /-- Shifts a register right, with the bit that falls out as flag. -/
  | shiftRight
  /-- Subtracts a register from the other one, with the flag set if nothing was borrowed. -/
  | subFrom
  /-- Shifts a register left, with the bit that falls out as flag. -/
  | shiftLeft
  | skipUnlessEqual
  | setIndex
  /-- Goes on at an address plus the first register. -/
  | jumpFrom
  /-- Sets a register to random bits among those of a byte. -/
  | random
  | draw
  | skipIfHeld
  | skipUnlessHeld
  | readDelay
  | awaitKey
  | setDelay
  | setSound
  | addIndex
  /-- Sets the index to the glyph of a digit. -/
  | glyph
  /-- Stores the three decimal digits of a register. -/
  | decimal
  /-- Stores the registers up to one. -/
  | store
  /-- Loads the registers up to one. -/
  | load
  deriving DecidableEq

/-- The operand fields of a word, as integers of any size: two register numbers, the lowest nibble,
the lowest byte and the lowest twelve bits. -/
structure Fields where
  x : Int
  y : Int
  n : Int
  kk : Int
  nnn : Int
  deriving DecidableEq

namespace Form

/-- All forms, in the order of their keys. -/
def all : List Form :=
  [clear, ret, jump, call, skipIfByte, skipUnlessByte, skipIfEqual, setByte, addByte,
   copy, or, and, xor, add, sub, shiftRight, subFrom, shiftLeft, skipUnlessEqual,
   setIndex, jumpFrom, random, draw, skipIfHeld, skipUnlessHeld,
   readDelay, awaitKey, setDelay, setSound, addIndex, glyph, decimal, store, load]

/-- The word of a form with all operands zero. -/
def key : Form → Int
  | .clear => 0x00E0
  | .ret => 0x00EE
  | .jump => 0x1000
  | .call => 0x2000
  | .skipIfByte => 0x3000
  | .skipUnlessByte => 0x4000
  | .skipIfEqual => 0x5000
  | .setByte => 0x6000
  | .addByte => 0x7000
  | .copy => 0x8000
  | .or => 0x8001
  | .and => 0x8002
  | .xor => 0x8003
  | .add => 0x8004
  | .sub => 0x8005
  | .shiftRight => 0x8006
  | .subFrom => 0x8007
  | .shiftLeft => 0x800E
  | .skipUnlessEqual => 0x9000
  | .setIndex => 0xA000
  | .jumpFrom => 0xB000
  | .random => 0xC000
  | .draw => 0xD000
  | .skipIfHeld => 0xE09E
  | .skipUnlessHeld => 0xE0A1
  | .readDelay => 0xF007
  | .awaitKey => 0xF00A
  | .setDelay => 0xF015
  | .setSound => 0xF018
  | .addIndex => 0xF01E
  | .glyph => 0xF029
  | .decimal => 0xF033
  | .store => 0xF055
  | .load => 0xF065

/-- The form that a word stands for. -/
def ofWord? (word : Int) : Option Form :=
  all.find? fun form => form.key == wordKey word

theorem mem_all (form : Form) : form ∈ all := by
  cases form <;> decide

/-- The word of a form with all operands zero stands for that form. -/
theorem ofWord?_key (form : Form) : ofWord? form.key = some form := by
  cases form <;> rfl

theorem key_injective {f g : Form} (h : f.key = g.key) : f = g :=
  Option.some.inj ((ofWord?_key f).symm.trans ((congrArg ofWord? h).trans (ofWord?_key g)))

theorem key_of_ofWord? {word : Int} {form : Form} (h : ofWord? word = some form) :
    form.key = wordKey word := by
  have hfound : (form.key == wordKey word) = true :=
    List.find?_some (p := fun form : Form => form.key == wordKey word) h
  exact eq_of_beq hfound

/-- A word is of a form exactly if the digits by which forms are told apart are those of the form. -/
theorem ofWord?_eq_some_iff {word : Int} {form : Form} :
    ofWord? word = some form ↔ wordKey word = form.key := by
  refine ⟨fun h => (key_of_ofWord? h).symm, fun h => ?_⟩
  cases hfound : ofWord? word with
  | none => exact absurd (by simp [h]) (List.find?_eq_none.mp hfound form (mem_all form))
  | some found => rw [key_injective ((key_of_ofWord? hfound).trans h)]

/-- A register as it is written in assembly. -/
def register (number : Int) : String :=
  "V" ++ Text.Hex.padded 1 number

/-- A number as it is written in assembly, in at least `width` digits. -/
def number (width : Nat) (value : Int) : String :=
  "0x" ++ Text.Hex.padded width value

/-- The assembly of a form with the given operand fields. -/
def text (form : Form) (fields : Fields) : String :=
  let x := register fields.x
  let y := register fields.y
  let byte := number 2 fields.kk
  let address := number 3 fields.nnn
  match form with
  | .clear => "CLS"
  | .ret => "RET"
  | .jump => "JP " ++ address
  | .call => "CALL " ++ address
  | .skipIfByte => "SE " ++ x ++ ", " ++ byte
  | .skipUnlessByte => "SNE " ++ x ++ ", " ++ byte
  | .skipIfEqual => "SE " ++ x ++ ", " ++ y
  | .setByte => "LD " ++ x ++ ", " ++ byte
  | .addByte => "ADD " ++ x ++ ", " ++ byte
  | .copy => "LD " ++ x ++ ", " ++ y
  | .or => "OR " ++ x ++ ", " ++ y
  | .and => "AND " ++ x ++ ", " ++ y
  | .xor => "XOR " ++ x ++ ", " ++ y
  | .add => "ADD " ++ x ++ ", " ++ y
  | .sub => "SUB " ++ x ++ ", " ++ y
  | .shiftRight => "SHR " ++ x
  | .subFrom => "SUBN " ++ x ++ ", " ++ y
  | .shiftLeft => "SHL " ++ x
  | .skipUnlessEqual => "SNE " ++ x ++ ", " ++ y
  | .setIndex => "LD I, " ++ address
  | .jumpFrom => "JP V0, " ++ address
  | .random => "RND " ++ x ++ ", " ++ byte
  | .draw => "DRW " ++ x ++ ", " ++ y ++ ", " ++ number 1 fields.n
  | .skipIfHeld => "SKP " ++ x
  | .skipUnlessHeld => "SKNP " ++ x
  | .readDelay => "LD " ++ x ++ ", DT"
  | .awaitKey => "LD " ++ x ++ ", K"
  | .setDelay => "LD DT, " ++ x
  | .setSound => "LD ST, " ++ x
  | .addIndex => "ADD I, " ++ x
  | .glyph => "LD F, " ++ x
  | .decimal => "LD B, " ++ x
  | .store => "LD [I], " ++ x
  | .load => "LD " ++ x ++ ", [I]"

end Form

end Chip8
