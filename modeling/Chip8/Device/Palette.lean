import Chip8.Text.Fields
import Chip8.Text.Integer

/-!
# Palettes

The two colours of a window: one for unlit pixels and one for lit pixels. The user writes a palette
as two fields with a comma between them, each the number of a colour in base sixteen. A field must
have six characters, and these may spell the number in any way that `Text.Integer.read?` allows.

* `Palette.parse` — reads a palette, or says what is wrong with it;
* `Palette.bytes` — the colours of a picture, three bytes a pixel;
* `Palette.length_bytes` — there are three bytes for every pixel.
-/

namespace Chip8

/-- A colour by its three parts. -/
structure Colour where
  red : UInt8
  green : UInt8
  blue : UInt8
  deriving DecidableEq

/-- What can be wrong with a palette. -/
inductive PaletteError
  /-- There are not two fields. -/
  | count
  /-- A field does not have six characters. -/
  | length
  | number
  /-- A colour's number is below zero. -/
  | negative (value : Int)
  deriving DecidableEq

/-- The text for the user; a colour below zero has none. -/
def PaletteError.message? : PaletteError → Option String
  | .count => some "Exactly 2 palette colours must be defined."
  | .length => some "Palette colours must all be 6 hex digits long."
  | .number => some "Invalid palette colour defined."
  | .negative _ => none

namespace Colour

/-- The colour with a number of three bytes, red first. -/
def ofNumber (n : Nat) : Colour :=
  ⟨UInt8.ofNat (n / 0x10000), UInt8.ofNat (n / 0x100), UInt8.ofNat n⟩

def bytes (c : Colour) : List UInt8 :=
  [c.red, c.green, c.blue]

def parse (field : List Char) : Except PaletteError Colour :=
  if field.length ≠ 6 then .error .length
  else
    match Text.Integer.read? .hexadecimal field with
    | none => .error .number
    | some n => if n < 0 then .error (.negative n) else .ok (ofNumber n.toNat)

end Colour

/-- The colours of unlit and of lit pixels. -/
structure Palette where
  background : Colour
  foreground : Colour
  deriving DecidableEq

namespace Palette

/-- The palette that is used when the user asks for none. -/
def standardText : String := "222222,DDDDDD"

/-- Reads a palette, the background before the foreground. -/
def parse (text : String) : Except PaletteError Palette :=
  match Text.fields ',' text.toList with
  | [first, second] => do
    let background ← Colour.parse first
    let foreground ← Colour.parse second
    return { background, foreground }
  | _ => .error .count

def colour (p : Palette) (lit : Bool) : Colour :=
  if lit then p.foreground else p.background

/-- The colours of a picture, row by row and three bytes a pixel. -/
def bytes (p : Palette) (rows : List (List Bool)) : List UInt8 :=
  rows.flatMap fun row => row.flatMap fun lit => (p.colour lit).bytes

theorem length_bytes (p : Palette) (rows : List (List Bool)) :
    (p.bytes rows).length = 3 * rows.flatten.length := by
  have hrow : ∀ row : List Bool,
      (row.flatMap fun lit => (p.colour lit).bytes).length = 3 * row.length := by
    intro row
    induction row with
    | nil => rfl
    | cons lit rest ih =>
      simp only [List.flatMap_cons, List.length_append, ih, List.length_cons]
      simp only [Colour.bytes, List.length_cons, List.length_nil]
      omega
  induction rows with
  | nil => rfl
  | cons row rest ih =>
    simp only [bytes, List.flatMap_cons, List.length_append, hrow, List.flatten_cons] at ih ⊢
    omega

end Palette

end Chip8
