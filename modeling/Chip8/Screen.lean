import Chip8.Fault
import Chip8.Layout
import Chip8.Screen.Sprite

/-!
# Screen

A grid of pixels, each lit or not. Programs cannot store to it; they draw sprites, and every set
pixel of a sprite turns over the one beneath it. Positions wrap around, each pixel by itself, so that
what hangs over the right edge goes on at the left one and what hangs over the bottom at the top. A
draw collides if it turns a lit pixel off anywhere.

The screen remembers whether it may have changed since it was last asked, so that an unchanged
picture need not be shown again; a new screen counts as changed.

* `Screen.flip`, `Screen.draw` — turning over one pixel and the pixels of a sprite;
* `Screen.picture` — the rows of the grid, top first;
* `Screen.consumeChanged` — asks about a change and forgets it;
* `Screen.tryFlip`, `Screen.tryDraw`, `Screen.tryPicture` — the same for a screen of any size, refused
  when it has no pixels or no rows.

Width and height are integers whose product is the number of pixels. When both are below zero, the
positions are remainders below zero as well, and a place below zero counts from the end.
-/

namespace Chip8

/-- A picture: rows of pixels, top first. -/
abbrev Frame := List (List Bool)

/-- A grid of pixels. -/
structure Screen where
  width : Int
  height : Int
  cells : Array Bool
  /-- Whether anything may have been drawn since this was last asked. -/
  changed : Bool
  size_cells : cells.size = (width * height).toNat

namespace Screen

/-- A screen without a lit pixel. -/
def blank (width height : Int) : Screen where
  width
  height
  cells := Array.replicate (width * height).toNat false
  changed := true
  size_cells := by simp

/-- A screen without a lit pixel, if there can be one of that size. -/
def ofSize (width height : Int) (hasRoom : Nat → Bool := fun _ => true) : Except Misuse Screen :=
  (cellCount (width * height) hasRoom).map fun _ => blank width height

def clear (s : Screen) : Screen :=
  blank s.width s.height

/-- Where the pixel at a position is held. -/
def place (s : Screen) (x y : Int) : Nat :=
  let place := y.fmod s.height * s.width + x.fmod s.width
  if place < 0 then (place + s.cells.size).toNat else place.toNat

def isLit (s : Screen) (x y : Int) : Bool :=
  s.cells.getD (s.place x y) false

/-- Turns over the pixel at a position, and says whether it was lit before. -/
def flip (s : Screen) (x y : Int) : Bool × Screen :=
  let lit := s.isLit x y
  (lit, { s with
    cells := s.cells.setIfInBounds (s.place x y) !lit
    changed := true
    size_cells := by simpa using s.size_cells })

/-- Turns over the pixels at the given offsets, as rows and columns, from a position. The answer says
whether any of them was lit when its turn came. -/
def flipAll (s : Screen) (x y : Int) : List (Nat × Nat) → Bool × Screen
  | [] => (false, s)
  | (row, column) :: rest =>
    let (hit, s) := s.flip (x + column) (y + row)
    let (more, s) := s.flipAll x y rest
    (hit || more, s)

/-- Draws a sprite with its top left corner at a position. The answer says whether it collided. -/
def draw (s : Screen) (x y : Int) (sprite : List UInt8) : Bool × Screen :=
  s.flipAll x y (Sprite.pixels sprite)

def picture (s : Screen) : Frame :=
  (List.range s.height.toNat).map fun row =>
    (List.range s.width.toNat).map fun column =>
      s.cells.getD (row * s.width.toNat + column) false

/-- Whether anything may have been drawn since this was last asked. -/
def consumeChanged (s : Screen) : Bool × Screen :=
  (s.changed, { s with changed := false })

/-- Whether positions on the screen make sense. -/
def hasPixels (s : Screen) : Prop :=
  s.width ≠ 0 ∧ s.height ≠ 0

instance (s : Screen) : Decidable s.hasPixels :=
  inferInstanceAs (Decidable (_ ∧ _))

/-- Turns over the pixel at a position of a screen of any size. -/
def tryFlip (s : Screen) (x y : Int) : Except Misuse (Bool × Screen) :=
  if s.hasPixels then .ok (s.flip x y) else .error .noPixels

/-- Draws a sprite on a screen of any size. One without a set pixel can be drawn anywhere. -/
def tryDraw (s : Screen) (x y : Int) (sprite : List UInt8) : Except Misuse (Bool × Screen) :=
  if s.hasPixels ∨ Sprite.pixels sprite = [] then .ok (s.draw x y sprite)
  else .error .noPixels

/-- The rows of a screen of any size. -/
def tryPicture (s : Screen) : Except Misuse Frame :=
  if s.width = 0 then .error .noRows else .ok s.picture

/-! ### What the operations keep -/

@[simp] theorem width_flip (s : Screen) (x y : Int) : (s.flip x y).2.width = s.width := rfl

@[simp] theorem height_flip (s : Screen) (x y : Int) : (s.flip x y).2.height = s.height := rfl

/-- However many pixels are turned over, the screen keeps its size. -/
theorem flipAll_width (s : Screen) (x y : Int) (offsets : List (Nat × Nat)) :
    (s.flipAll x y offsets).2.width = s.width ∧ (s.flipAll x y offsets).2.height = s.height := by
  induction offsets generalizing s with
  | nil => exact ⟨rfl, rfl⟩
  | cons offset rest ih => exact ih _

/-- Whatever room the host has, a screen that can be had at all is blank. -/
theorem eq_blank_of_ofSize {width height : Int} {hasRoom : Nat → Bool} {s : Screen}
    (h : ofSize width height hasRoom = .ok s) : s = blank width height := by
  unfold ofSize at h
  cases hcount : cellCount (width * height) hasRoom with
  | error cause =>
    rw [hcount] at h
    cases h
  | ok count =>
    rw [hcount] at h
    cases h
    rfl

/-- A screen of a size can be had if the number of its pixels is a word and the host has room for
them. -/
theorem ofSize_eq_ok_iff {width height : Nat} {hasRoom : Nat → Bool} :
    ofSize width height hasRoom = .ok (blank width height) ↔
      width * height < Layout.countLimit ∧ hasRoom (width * height) = true := by
  have hcount : (∃ count, cellCount (width * height) hasRoom = .ok count) ↔
      width * height < Layout.countLimit ∧ hasRoom (width * height) = true := by
    constructor
    · rintro ⟨count, h⟩
      obtain ⟨hsize, hlimit, hroom⟩ := cellCount_eq_ok_iff.mp h
      obtain rfl : width * height = count := by exact_mod_cast hsize
      exact ⟨hlimit, hroom⟩
    · intro h
      exact ⟨width * height, cellCount_eq_ok_iff.mpr ⟨by push_cast; rfl, h⟩⟩
  rw [← hcount, ofSize]
  cases cellCount (width * height) hasRoom with
  | error cause => simp [Except.map]
  | ok count => simp [Except.map]

theorem draw_nil (s : Screen) (x y : Int) : s.draw x y [] = (false, s) := rfl

end Screen

end Chip8
