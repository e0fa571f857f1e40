/-!
# Sprites

A sprite is a run of bytes. Each byte is one row of eight pixels with the highest bit on the left.

* `Sprite.bit` — whether a pixel of a row is set;
* `Sprite.pixels` — the pixels that are set, row by row and from left to right;
* `Sprite.mem_pixels` — exactly the set bits of the bytes are pixels.
-/

namespace Chip8.Sprite

def rowWidth : Nat := 8

/-- Whether the pixel in a column of a row is set, where column zero is the highest bit. -/
def bit (row : UInt8) (column : Nat) : Bool :=
  row.toNat.testBit (7 - column)

/-- The columns of a row that are set, from left to right. -/
def columns (row : UInt8) : List Nat :=
  (List.range rowWidth).filter (bit row)

/-- The set pixels of a sprite whose first row has the number `start`, as pairs of row and column,
row by row and from left to right. -/
def pixelsFrom (start : Nat) : List UInt8 → List (Nat × Nat)
  | [] => []
  | row :: rest => (columns row).map (start, ·) ++ pixelsFrom (start + 1) rest

/-- The set pixels of a sprite as pairs of row and column. -/
def pixels (sprite : List UInt8) : List (Nat × Nat) :=
  pixelsFrom 0 sprite

theorem mem_pixelsFrom {start : Nat} {sprite : List UInt8} {row column : Nat} :
    (row, column) ∈ pixelsFrom start sprite ↔
      start ≤ row ∧ column < rowWidth ∧ ∃ byte, sprite[row - start]? = some byte ∧ bit byte column := by
  induction sprite generalizing start with
  | nil => simp [pixelsFrom]
  | cons byte rest ih =>
    simp only [pixelsFrom, List.mem_append, List.mem_map, columns, List.mem_filter,
      List.mem_range, ih, Prod.mk.injEq, exists_eq_right_right]
    constructor
    · -- A pixel is in the first row or in one of the others, which are counted from zero again.
      rintro (⟨⟨hcol, hbit⟩, rfl⟩ | ⟨hrow, hcol, b, hb, hbit⟩)
      · exact ⟨Nat.le_refl _, hcol, byte, by simp, hbit⟩
      · refine ⟨by omega, hcol, b, ?_, hbit⟩
        obtain ⟨d, rfl⟩ : ∃ d, row = start + (d + 1) := ⟨row - start - 1, by omega⟩
        rw [show start + (d + 1) - (start + 1) = d by omega] at hb
        rw [show start + (d + 1) - start = d + 1 by omega]
        simpa using hb
    · -- A set bit of the row `start` is in the first row, and of a later one in the others.
      rintro ⟨hrow, hcol, b, hb, hbit⟩
      rcases Nat.eq_or_lt_of_le hrow with rfl | hlt
      · left
        simp only [Nat.sub_self, List.getElem?_cons_zero, Option.some.injEq] at hb
        subst hb
        exact ⟨⟨hcol, hbit⟩, rfl⟩
      · right
        obtain ⟨d, rfl⟩ : ∃ d, row = start + (d + 1) := ⟨row - start - 1, by omega⟩
        rw [show start + (d + 1) - start = d + 1 by omega] at hb
        refine ⟨by omega, hcol, b, ?_, hbit⟩
        rw [show start + (d + 1) - (start + 1) = d by omega]
        simpa using hb

theorem mem_pixels {sprite : List UInt8} {row column : Nat} :
    (row, column) ∈ pixels sprite ↔
      column < rowWidth ∧ ∃ byte, sprite[row]? = some byte ∧ bit byte column := by
  simp [pixels, mem_pixelsFrom]

end Chip8.Sprite
