import Chip8.Instruction
import Chip8.Proofs.Text.Hex
import Mathlib.Data.List.Nodup

/-!
# What assembly tells

The assembly of a form is laid down by its *layout*: a row of fixed texts with operand fields between
them, each field in hexadecimal digits of a width of its own (`Form.toList_text`). A layout names the
operands that a reader of the assembly gets to see (`Form.shown`), and the main statement is that the
reader can tell them: two instructions have the same assembly exactly if they have one form and agree
on the operands that it shows (`Instruction.text_eq_iff`).

That the form can be told is seen on the *outline* of a text, in which every digit is written as a
zero. Operand fields are digits and nothing else, so the outline is the same whatever the operands are
(`Form.outline_text`), and no two forms have the same one (`Form.outline_injective`). Two texts of one
form are then cut at the same places, field by field.
-/

namespace Chip8

/-- The operand fields of a word, by their names. -/
inductive Operand
  | x
  | y
  | n
  | kk
  | nnn
  deriving DecidableEq

/-- How many digits an operand field takes. -/
def Operand.width : Operand → Nat
  | .x | .y | .n => 1
  | .kk => 2
  | .nnn => 3

theorem Operand.width_pos (field : Operand) : 0 < field.width := by
  cases field <;> decide

namespace Operands

/-- The number that an operand field holds. -/
def value (o : Operands) : Operand → Nat
  | .x => o.x.val
  | .y => o.y.val
  | .n => o.n.val
  | .kk => o.kk.toNat
  | .nnn => o.nnn.val

/-- Every field fits its width. -/
theorem value_lt (o : Operands) (field : Operand) : o.value field < 16 ^ field.width := by
  cases field with
  | x => exact o.x.isLt
  | y => exact o.y.isLt
  | n => exact o.n.isLt
  | kk => exact o.kk.toNat_lt
  | nnn => exact o.nnn.isLt

end Operands

open Text.Hex (isDigit paddedChars)

/-! ### Outlines -/

/-- A text with every digit written as a zero. -/
def outline (text : List Char) : List Char :=
  text.map fun c => if isDigit c then '0' else c

/-- Outlines are made character by character. -/
theorem outline_append (first second : List Char) :
    outline (first ++ second) = outline first ++ outline second :=
  List.map_append

/-- The outline of a field tells its width and nothing else. -/
theorem outline_paddedChars {width n : Nat} (hwidth : 0 < width) (h : n < 16 ^ width) :
    outline (paddedChars width n) = List.replicate width '0' := by
  -- All characters of a field are digits, and a field that fits has as many as it is wide.
  have hzeros : ∀ c ∈ outline (paddedChars width n), c = '0' := by
    intro c hc
    obtain ⟨d, hd, rfl⟩ := List.mem_map.mp hc
    exact if_pos (Text.Hex.isDigit_of_mem_paddedChars hd)
  rw [List.eq_replicate_of_mem hzeros, outline, List.length_map,
    Text.Hex.length_paddedChars hwidth h]

/-! ### Layouts -/

/-- A piece of the layout of an assembly text. -/
inductive Piece
  | fixed (text : String)
  | field (operand : Operand)

namespace Piece

/-- The characters of the piece when the operands are filled in. -/
def chars (o : Operands) : Piece → List Char
  | .fixed text => text.toList
  | .field operand => paddedChars operand.width (o.value operand)

/-- The operand that the piece shows, if any. -/
def operand? : Piece → Option Operand
  | .fixed _ => none
  | .field operand => some operand

def outline : Piece → List Char
  | .fixed text => Chip8.outline text.toList
  | .field operand => List.replicate operand.width '0'

variable (piece : Piece) (o o' : Operands)

/-- The outline of a piece does not depend on the operands. -/
theorem outline_chars : Chip8.outline (piece.chars o) = piece.outline := by
  cases piece with
  | fixed text => rfl
  | field operand => exact outline_paddedChars operand.width_pos (o.value_lt operand)

/-- A piece takes as many characters with any operands. -/
theorem length_chars : (piece.chars o).length = piece.outline.length := by
  rw [← piece.outline_chars o, Chip8.outline, List.length_map]

/-- A piece looks the same with two sets of operands exactly if the operand that it shows is the same
in both. -/
theorem chars_eq_iff : piece.chars o = piece.chars o' ↔
    ∀ operand, piece.operand? = some operand → o.value operand = o'.value operand := by
  cases piece with
  | fixed text => simp only [chars, operand?, reduceCtorEq, false_implies, implies_true]
  | field operand =>
    constructor
    · rintro h _ ⟨⟩
      exact Text.Hex.eq_of_paddedChars_eq h
    · intro h
      show paddedChars operand.width (o.value operand) = paddedChars operand.width (o'.value operand)
      rw [h operand rfl]

end Piece

/-- Rows of pieces look the same exactly if piece by piece they do: a piece takes as many characters
with one set of operands as with another. -/
theorem flatMap_chars_eq_iff (pieces : List Piece) (o o' : Operands) :
    pieces.flatMap (Piece.chars o) = pieces.flatMap (Piece.chars o') ↔
      ∀ piece ∈ pieces, piece.chars o = piece.chars o' := by
  induction pieces with
  | nil => simp only [List.flatMap_nil, List.not_mem_nil, false_implies, implies_true]
  | cons piece rest ih =>
    rw [List.flatMap_cons, List.flatMap_cons, List.forall_mem_cons, ← ih]
    constructor
    · intro h
      -- The first piece is as long on both sides, and so both are cut behind it.
      refine List.append_inj h ?_
      rw [piece.length_chars, piece.length_chars]
    · rintro ⟨hpiece, hrest⟩
      rw [hpiece, hrest]

/-- The outline of a row of pieces is made piece by piece. -/
theorem outline_flatMap_chars (pieces : List Piece) (o : Operands) :
    outline (pieces.flatMap (Piece.chars o)) = pieces.flatMap Piece.outline := by
  induction pieces with
  | nil => rfl
  | cons piece rest ih =>
    rw [List.flatMap_cons, List.flatMap_cons, outline_append, piece.outline_chars, ih]

namespace Form

/-- The layout of the assembly of a form. -/
def layout : Form → List Piece
  | .clear => [.fixed "CLS"]
  | .ret => [.fixed "RET"]
  | .jump => [.fixed "JP 0x", .field .nnn]
  | .call => [.fixed "CALL 0x", .field .nnn]
  | .skipIfByte => [.fixed "SE V", .field .x, .fixed ", 0x", .field .kk]
  | .skipUnlessByte => [.fixed "SNE V", .field .x, .fixed ", 0x", .field .kk]
  | .skipIfEqual => [.fixed "SE V", .field .x, .fixed ", V", .field .y]
  | .setByte => [.fixed "LD V", .field .x, .fixed ", 0x", .field .kk]
  | .addByte => [.fixed "ADD V", .field .x, .fixed ", 0x", .field .kk]
  | .copy => [.fixed "LD V", .field .x, .fixed ", V", .field .y]
  | .or => [.fixed "OR V", .field .x, .fixed ", V", .field .y]
  | .and => [.fixed "AND V", .field .x, .fixed ", V", .field .y]
  | .xor => [.fixed "XOR V", .field .x, .fixed ", V", .field .y]
  | .add => [.fixed "ADD V", .field .x, .fixed ", V", .field .y]
  | .sub => [.fixed "SUB V", .field .x, .fixed ", V", .field .y]
  | .shiftRight => [.fixed "SHR V", .field .x]
  | .subFrom => [.fixed "SUBN V", .field .x, .fixed ", V", .field .y]
  | .shiftLeft => [.fixed "SHL V", .field .x]
  | .skipUnlessEqual => [.fixed "SNE V", .field .x, .fixed ", V", .field .y]
  | .setIndex => [.fixed "LD I, 0x", .field .nnn]
  | .jumpFrom => [.fixed "JP V0, 0x", .field .nnn]
  | .random => [.fixed "RND V", .field .x, .fixed ", 0x", .field .kk]
  | .draw => [.fixed "DRW V", .field .x, .fixed ", V", .field .y, .fixed ", 0x", .field .n]
  | .skipIfHeld => [.fixed "SKP V", .field .x]
  | .skipUnlessHeld => [.fixed "SKNP V", .field .x]
  | .readDelay => [.fixed "LD V", .field .x, .fixed ", DT"]
  | .awaitKey => [.fixed "LD V", .field .x, .fixed ", K"]
  | .setDelay => [.fixed "LD DT, V", .field .x]
  | .setSound => [.fixed "LD ST, V", .field .x]
  | .addIndex => [.fixed "ADD I, V", .field .x]
  | .glyph => [.fixed "LD F, V", .field .x]
  | .decimal => [.fixed "LD B, V", .field .x]
  | .store => [.fixed "LD [I], V", .field .x]
  | .load => [.fixed "LD V", .field .x, .fixed ", [I]"]

/-- The operands that the assembly of a form shows, in order. -/
def shown (form : Form) : List Operand :=
  form.layout.filterMap Piece.operand?

def outline (form : Form) : List Char :=
  form.layout.flatMap Piece.outline

/-- Assembly is written by the layout of its form. -/
theorem toList_text (form : Form) (o : Operands) :
    (form.text o.fields).toList = form.layout.flatMap (Piece.chars o) := by
  cases form <;>
    simp [text, register, number, Text.Hex.padded, layout, Piece.chars, Operands.fields,
      Operands.value, Operand.width]

/-- The outline of an assembly text is that of its form. -/
theorem outline_text (form : Form) (o : Operands) :
    Chip8.outline (form.text o.fields).toList = form.outline := by
  rw [toList_text, outline_flatMap_chars, outline]

/-- No two forms have the same outline. -/
theorem nodup_outlines : (all.map outline).Nodup := by
  decide +kernel

theorem outline_injective {f g : Form} (h : f.outline = g.outline) : f = g :=
  List.inj_on_of_nodup_map nodup_outlines (mem_all f) (mem_all g) h

/-- Texts of one form are equal exactly if the operands that the form shows are. -/
theorem text_eq_iff (form : Form) (o o' : Operands) :
    form.text o.fields = form.text o'.fields ↔
      ∀ operand ∈ form.shown, o.value operand = o'.value operand := by
  rw [← String.toList_inj, toList_text, toList_text, flatMap_chars_eq_iff]
  constructor
  · -- An operand that is shown is that of one of the fields.
    intro h operand hshown
    obtain ⟨piece, hpiece, hoperand⟩ := List.mem_filterMap.mp hshown
    exact (piece.chars_eq_iff o o').mp (h piece hpiece) operand hoperand
  · intro h piece hpiece
    refine (piece.chars_eq_iff o o').mpr fun operand hoperand => ?_
    exact h operand (List.mem_filterMap.mpr ⟨piece, hpiece, hoperand⟩)

end Form

/-- The assembly tells the form and the operands that the form shows, and nothing else. -/
theorem Instruction.text_eq_iff (i j : Instruction) :
    i.text = j.text ↔ i.form = j.form ∧
      ∀ operand ∈ i.form.shown, i.operands.value operand = j.operands.value operand := by
  obtain ⟨form, o⟩ := i
  obtain ⟨form', o'⟩ := j
  show form.text o.fields = form'.text o'.fields ↔ form = form' ∧ _
  constructor
  · intro h
    -- The form is told first, by the outline, and then the two layouts are one.
    obtain rfl : form = form' := by
      apply Form.outline_injective
      rw [← form.outline_text o, h, form'.outline_text o']
    exact ⟨rfl, (form.text_eq_iff o o').mp h⟩
  · rintro ⟨rfl, hshown⟩
    exact (form.text_eq_iff o o').mpr hshown

end Chip8
