import Chip8.Fault
import Chip8.Instruction.Form

/-!
# Instructions

An instruction is a form together with the operands that its word carries. All operand fields are
taken out of every word, and each form looks at those it has a use for.

* `Instruction.ofWord?` — decodes a word;
* `Instruction.text` — the assembly of an instruction;
* `assembly` — the assembly of a word with other operands in place of its own;
* `Instruction.ofWord?_isSome` — exactly the words that have a form are decoded.
-/

namespace Chip8

/-- One of the sixteen byte registers. -/
abbrev Register := Fin 16

/-- The operand fields of a word of sixteen bits. -/
structure Operands where
  /-- The register in the second nibble. -/
  x : Register
  /-- The register in the third nibble. -/
  y : Register
  /-- The lowest nibble. -/
  n : Fin 16
  /-- The lowest byte. -/
  kk : UInt8
  /-- The lowest twelve bits. -/
  nnn : Fin 4096
  deriving DecidableEq

namespace Operands

/-- The operand fields of a word; only its lowest twelve bits matter. -/
def ofWord (word : Int) : Operands where
  x := ⟨(word / 0x100 % 0x10).toNat, by omega⟩
  y := ⟨(word / 0x10 % 0x10).toNat, by omega⟩
  n := ⟨(word % 0x10).toNat, by omega⟩
  kk := UInt8.ofNat (word % 0x100).toNat
  nnn := ⟨(word % 0x1000).toNat, by omega⟩

def fields (o : Operands) : Fields where
  x := o.x.val
  y := o.y.val
  n := o.n.val
  kk := o.kk.toNat
  nnn := o.nnn.val

end Operands

structure Instruction where
  form : Form
  operands : Operands
  deriving DecidableEq

namespace Instruction

/-- The instruction that a word stands for. -/
def ofWord? (word : Int) : Option Instruction :=
  (Form.ofWord? word).map fun form => ⟨form, Operands.ofWord word⟩

def text (i : Instruction) : String :=
  i.form.text i.operands.fields

theorem ofWord?_isSome {word : Int} :
    (ofWord? word).isSome ↔ ∃ form : Form, wordKey word = form.key := by
  simp [ofWord?, Option.isSome_iff_exists, Form.ofWord?_eq_some_iff]

end Instruction

/-- The assembly of a word with the given operand fields in place of its own. -/
def assembly (word : Int) (fields : Fields) : Except Misuse String :=
  match Form.ofWord? word with
  | some form => .ok (form.text fields)
  | none => .error (.noForm word)

end Chip8
