import Chip8.Proofs.Screen.Flips
import Mathlib.Data.Finset.Dedup
import Mathlib.Data.Finset.Prod
import Mathlib.Data.Nat.Bitwise
import Mathlib.Tactic.Ring

/-!
# Drawings pixel by pixel

What a drawing does to a pixel of the grid is a matter of the set bits of the sprite that come to lie on
it. How many these are is the *coverage* of the pixel (`Screen.coverage`), a number that is read off the
sprite, the position and the size of the grid, and mentions no drawing. Every bit turns the pixel over
once. So the pixel is another one after the drawing exactly if its coverage is odd; and the drawing
collides exactly if it covers a lit pixel, or any pixel twice (`Screen.draw_by_coverage`).

The two accounts of a drawing meet in `Screen.count_places`: the coverage of a pixel is the number of times
that its place is turned over in the run of flips which the drawing is. That takes two facts, both about
the grid alone. No bit of a sprite is drawn twice (`Sprite.nodup_pixels`), and two positions share a place
exactly if they agree modulo width and height (`Screen.place_eq_iff`).

On a narrow or a low grid a sprite can meet itself. A sprite that fits into the grid does not, wherever it
is drawn (`Screen.coverage_le_one`), and so it inverts what it covers, no more and no less.
-/

namespace Chip8

namespace Sprite

/-- The bits of a sprite that are set, as pairs of row and column. -/
def setBits (sprite : List UInt8) : Finset (Nat × Nat) :=
  (Finset.range sprite.length ×ˢ Finset.range 8).filter fun bit =>
    (sprite.getD bit.1 0).toNat &&& (0x80 >>> bit.2) ≠ 0

/-- The pixel in a column is the bit that the highest one is shifted to. -/
theorem bit_eq_true_iff {row : UInt8} {column : Nat} (h : column < 8) :
    bit row column = true ↔ row.toNat &&& (0x80 >>> column) ≠ 0 := by
  have hmask : 0x80 >>> column = 2 ^ (7 - column) := by
    rw [Nat.shiftRight_eq_div_pow, show 0x80 = 2 ^ 7 from rfl, Nat.pow_div (by omega) (by decide)]
  -- A mask with a single bit leaves that bit or nothing.
  rw [hmask, Nat.and_two_pow, bit]
  cases row.toNat.testBit (7 - column) with
  | false => simp
  | true => simp

/-- The pixels of a sprite are different, from whichever row they are counted. -/
theorem nodup_pixelsFrom (start : Nat) (sprite : List UInt8) : (pixelsFrom start sprite).Nodup := by
  induction sprite generalizing start with
  | nil => exact List.nodup_nil
  | cons row rest ih =>
    rw [pixelsFrom, List.nodup_append]
    refine ⟨?_, ih (start + 1), ?_⟩
    · have hcolumns : (columns row).Nodup := List.nodup_range.filter _
      exact hcolumns.map fun column other h => congrArg Prod.snd h
    · -- The pixels of the other rows have higher numbers of rows.
      rintro ⟨first, column⟩ hfirst ⟨later, other⟩ hlater heq
      obtain ⟨_, -, hpair⟩ := List.mem_map.mp hfirst
      obtain rfl : start = first := congrArg Prod.fst hpair
      obtain rfl : start = later := congrArg Prod.fst heq
      have hbehind := (mem_pixelsFrom.mp hlater).1
      omega

/-- No pixel of a sprite is drawn twice. -/
theorem nodup_pixels (sprite : List UInt8) : (pixels sprite).Nodup :=
  nodup_pixelsFrom 0 sprite

/-- What is drawn of a sprite are the bits that are set. -/
theorem toFinset_pixels (sprite : List UInt8) : (pixels sprite).toFinset = setBits sprite := by
  ext ⟨row, column⟩
  rw [List.mem_toFinset, mem_pixels, setBits, Finset.mem_filter, Finset.mem_product,
    Finset.mem_range, Finset.mem_range]
  constructor
  · -- A pixel that is drawn belongs to a row that there is.
    rintro ⟨hcolumn, byte, hbyte, hbit⟩
    obtain ⟨hrow, -⟩ := List.getElem?_eq_some_iff.mp hbyte
    refine ⟨⟨hrow, hcolumn⟩, ?_⟩
    rw [List.getD_eq_getElem?_getD, hbyte]
    exact (bit_eq_true_iff hcolumn).mp hbit
  · rintro ⟨⟨hrow, hcolumn⟩, hbit⟩
    have hbyte : sprite[row]? = some sprite[row] := List.getElem?_eq_getElem hrow
    rw [List.getD_eq_getElem?_getD, hbyte] at hbit
    exact ⟨hcolumn, sprite[row], hbyte, (bit_eq_true_iff hcolumn).mpr hbit⟩

end Sprite

namespace Screen

/-- Whether the pixel in a column and a row of the grid is lit. Both are counted from zero, to the right
and downwards. -/
def pixel (s : Screen) (column row : Nat) : Bool :=
  s.cells.getD (row * s.width.toNat + column) false

/-- The set bits of a sprite, drawn at a position, that come to lie on a pixel of the grid. -/
def covering (s : Screen) (x y : Int) (sprite : List UInt8) (column row : Nat) :
    Finset (Nat × Nat) :=
  (Sprite.setBits sprite).filter fun bit =>
    (x + bit.2) % s.width = column ∧ (y + bit.1) % s.height = row

/-- How many set bits of a sprite, drawn at a position, come to lie on a pixel of the grid. -/
def coverage (s : Screen) (x y : Int) (sprite : List UInt8) (column row : Nat) : Nat :=
  (s.covering x y sprite column row).card

variable (s : Screen) {x y : Int} {sprite : List UInt8} {column row : Nat}

theorem mem_covering {r c : Nat} :
    (r, c) ∈ s.covering x y sprite column row ↔
      r < sprite.length ∧ c < 8 ∧ (sprite.getD r 0).toNat &&& (0x80 >>> c) ≠ 0 ∧
        (x + c) % s.width = column ∧ (y + r) % s.height = row := by
  rw [covering, Finset.mem_filter, Sprite.setBits, Finset.mem_filter, Finset.mem_product,
    Finset.mem_range, Finset.mem_range, and_assoc, and_assoc]

/-- A pixel is covered if some set bit comes to lie on it. -/
theorem coverage_pos_iff :
    1 ≤ s.coverage x y sprite column row ↔
      ∃ r < sprite.length, ∃ c < 8, (sprite.getD r 0).toNat &&& (0x80 >>> c) ≠ 0 ∧
        (x + (c : Nat)) % s.width = column ∧ (y + (r : Nat)) % s.height = row := by
  rw [coverage, Nat.one_le_iff_ne_zero, ← Nat.pos_iff_ne_zero, Finset.card_pos]
  constructor
  · rintro ⟨⟨r, c⟩, hbit⟩
    obtain ⟨hr, hc, hrest⟩ := s.mem_covering.mp hbit
    exact ⟨r, hr, c, hc, hrest⟩
  · rintro ⟨r, hr, c, hc, hrest⟩
    exact ⟨(r, c), s.mem_covering.mpr ⟨hr, hc, hrest⟩⟩

/-! ### Places and pixels -/

section Grid

variable (hwidth : 1 ≤ s.width) (hheight : 1 ≤ s.height)
include hwidth hheight

theorem place_eq (x y : Int) :
    (s.place x y : Int) = y % s.height * s.width + x % s.width := by
  -- With a positive divisor all kinds of division agree.
  have hcolumn : x.fmod s.width = x % s.width := Int.fmod_eq_emod_of_nonneg x (by omega)
  have hrow : y.fmod s.height = y % s.height := Int.fmod_eq_emod_of_nonneg y (by omega)
  have hstart : 0 ≤ y % s.height * s.width :=
    Int.mul_nonneg (Int.emod_nonneg y (by omega)) (by omega)
  have hoffset : 0 ≤ x % s.width := Int.emod_nonneg x (by omega)
  simp only [place, hcolumn, hrow]
  rw [if_neg (by omega)]
  omega

/-- Two positions share a place exactly if they agree modulo width and height. -/
theorem place_eq_iff (hcolumn : column < s.width) :
    s.place x y = row * s.width.toNat + column ↔ x % s.width = column ∧ y % s.height = row := by
  have hpos : 0 < s.width := by omega
  have hcast : ((row * s.width.toNat + column : Nat) : Int) = row * s.width + column := by
    push_cast
    rw [Int.toNat_of_nonneg (by omega)]
  have hplace := s.place_eq hwidth hheight x y
  constructor
  · intro heq
    -- The place has one quotient and one remainder by the width, and there are two ways to tell them.
    rw [heq, hcast] at hplace
    have hgrid : (row * s.width + column : Int) / s.width = row ∧
        (row * s.width + column : Int) % s.width = column :=
      (Int.ediv_emod_unique hpos).mpr ⟨by ring, by omega, hcolumn⟩
    have hposition : (row * s.width + column : Int) / s.width = y % s.height ∧
        (row * s.width + column : Int) % s.width = x % s.width := by
      refine (Int.ediv_emod_unique hpos).mpr ⟨?_, Int.emod_nonneg x (by omega), Int.emod_lt_of_pos x hpos⟩
      rw [hplace]
      ring
    exact ⟨hposition.2.symm.trans hgrid.2, hposition.1.symm.trans hgrid.1⟩
  · rintro ⟨hx, hy⟩
    rw [hx, hy, ← hcast] at hplace
    exact Int.ofNat_inj.mp hplace

/-- Every place belongs to a pixel of the grid. -/
theorem exists_pixel {p : Nat} (hp : p < s.cells.size) :
    ∃ column row : Nat, column < s.width ∧ row < s.height ∧
      p = row * s.width.toNat + column := by
  have hsize : p < s.width.toNat * s.height.toNat := by
    rwa [s.size_cells, Int.toNat_mul (by omega) (by omega)] at hp
  have hcolumn : p % s.width.toNat < s.width.toNat := Nat.mod_lt p (by omega)
  have hrow : p / s.width.toNat < s.height.toNat := Nat.div_lt_of_lt_mul hsize
  have hsum := Nat.div_add_mod' p s.width.toNat
  exact ⟨p % s.width.toNat, p / s.width.toNat, by omega, by omega, hsum.symm⟩

/-- The coverage of a pixel is the number of times that its place is turned over. -/
theorem count_places (hcolumn : column < s.width) :
    (s.places x y (Sprite.pixels sprite)).count (row * s.width.toNat + column) =
      s.coverage x y sprite column row := by
  -- A bit lands in the place of the pixel exactly if it comes to lie on the pixel.
  have hlands : ∀ bit : Nat × Nat,
      s.place (x + bit.2) (y + bit.1) = row * s.width.toNat + column ↔
        (x + bit.2) % s.width = column ∧ (y + bit.1) % s.height = row :=
    fun bit => s.place_eq_iff hwidth hheight hcolumn
  -- Turns are counted in a list without repeats, which is as good as a set.
  rw [places, List.count, List.countP_map, List.countP_eq_length_filter,
    ← List.toFinset_card_of_nodup ((Sprite.nodup_pixels sprite).filter _), List.toFinset_filter,
    Sprite.toFinset_pixels, coverage, covering]
  refine congrArg Finset.card (Finset.filter_congr fun bit _ => ?_)
  rw [Function.comp_apply, beq_iff_eq]
  exact hlands bit

/-! ### What a drawing does to a pixel -/

/-- A pixel is covered exactly if its place is turned over at all. -/
theorem mem_places_iff (hcolumn : column < s.width) :
    row * s.width.toNat + column ∈ s.places x y (Sprite.pixels sprite) ↔
      1 ≤ s.coverage x y sprite column row := by
  rw [← s.count_places hwidth hheight hcolumn]
  exact List.count_pos_iff.symm

/-- A pixel is another one after a drawing exactly if it was covered an odd number of times. -/
theorem pixel_draw (hcolumn : column < s.width) :
    (s.draw x y sprite).2.pixel column row =
      (s.pixel column row ^^ decide (s.coverage x y sprite column row % 2 = 1)) := by
  have hsize : (s.draw x y sprite).2.width = s.width := (s.flipAll_width x y _).1
  have hplaces : ∀ p ∈ s.places x y (Sprite.pixels sprite), p < s.cells.size :=
    fun p hp => s.lt_of_mem_places hwidth hheight hp
  rw [pixel, hsize, draw_eq_flipPlaces]
  change (s.flipPlaces _).2.cellAt _ = _
  rw [cellAt_flipPlaces s hplaces, s.count_places hwidth hheight hcolumn]
  rfl

/-- A drawing collides exactly if it covers a lit pixel, or any pixel twice. -/
theorem draw_hit_iff :
    (s.draw x y sprite).1 = true ↔
      ∃ column row : Nat, column < s.width ∧ row < s.height ∧
        (1 ≤ s.coverage x y sprite column row ∧ s.pixel column row = true ∨
          2 ≤ s.coverage x y sprite column row) := by
  have hplaces : ∀ p ∈ s.places x y (Sprite.pixels sprite), p < s.cells.size :=
    fun p hp => s.lt_of_mem_places hwidth hheight hp
  rw [draw_eq_flipPlaces, flipPlaces_hit_iff s hplaces]
  constructor
  · -- The place that collides is the place of some pixel.
    rintro ⟨p, hp, hcause⟩
    obtain ⟨column, row, hcolumn, hrow, rfl⟩ := s.exists_pixel hwidth hheight (hplaces p hp)
    have hcovered := (s.mem_places_iff hwidth hheight hcolumn).mp hp
    rw [s.count_places hwidth hheight hcolumn] at hcause
    exact ⟨column, row, hcolumn, hrow, hcause.imp_left fun hlit => ⟨hcovered, hlit⟩⟩
  · rintro ⟨column, row, hcolumn, hrow, hcause⟩
    -- A pixel that is covered twice is covered.
    have hcovered : 1 ≤ s.coverage x y sprite column row := by
      rcases hcause with ⟨hcovered, -⟩ | htwice
      · exact hcovered
      · omega
    refine ⟨_, (s.mem_places_iff hwidth hheight hcolumn).mpr hcovered, ?_⟩
    rw [s.count_places hwidth hheight hcolumn]
    exact hcause.imp_left fun hlit => hlit.2

/-- A drawing marks the screen as changed exactly if it covers any pixel. -/
theorem changed_draw_iff :
    (s.draw x y sprite).2.changed = true ↔ s.changed = true ∨
      ∃ column row : Nat, column < s.width ∧ row < s.height ∧
        1 ≤ s.coverage x y sprite column row := by
  rw [draw, changed_flipAll, Bool.or_eq_true_iff]
  refine or_congr_right ?_
  constructor
  · intro hsome
    obtain ⟨bit, hbit⟩ : ∃ bit, bit ∈ Sprite.pixels sprite :=
      List.exists_mem_of_ne_nil _ (by simpa using hsome)
    -- The pixel on which the bit comes to lie is the one of its place.
    have hplace : s.place (x + bit.2) (y + bit.1) ∈ s.places x y (Sprite.pixels sprite) :=
      List.mem_map_of_mem hbit
    obtain ⟨column, row, hcolumn, hrow, heq⟩ :=
      s.exists_pixel hwidth hheight (s.lt_of_mem_places hwidth hheight hplace)
    rw [heq] at hplace
    exact ⟨column, row, hcolumn, hrow, (s.mem_places_iff hwidth hheight hcolumn).mp hplace⟩
  · rintro ⟨column, row, hcolumn, -, hcovered⟩
    have hplace := (s.mem_places_iff hwidth hheight hcolumn).mpr hcovered
    obtain ⟨bit, hbit, -⟩ := List.mem_map.mp hplace
    -- A sprite with a pixel marks the screen, on whichever place it falls.
    have hne : Sprite.pixels sprite ≠ [] := List.ne_nil_of_mem hbit
    simpa using hne

end Grid

/-! ### Sprites that fit into the grid -/

/-- Positions that agree modulo a size, and are less than the size away from a common one, are the same. -/
theorem eq_of_add_emod_eq {size z : Int} {a b : Nat} (ha : a < size) (hb : b < size)
    (h : (z + a) % size = (z + b) % size) : a = b := by
  have hdiff : z + a - (z + b) = (a - b : Int) := by ring
  rw [Int.emod_eq_emod_iff_emod_sub_eq_zero, hdiff] at h
  have hzero : (a - b : Int) = 0 :=
    Int.eq_zero_of_abs_lt_dvd (Int.dvd_of_emod_eq_zero h) (abs_lt.mpr ⟨by omega, by omega⟩)
  omega

section Fits

variable (hwide : 8 ≤ s.width) (hheight : 1 ≤ s.height) (htall : sprite.length ≤ s.height)
include hwide htall

/-- A sprite that fits into the grid covers no pixel twice, wherever it is drawn. -/
theorem coverage_le_one : s.coverage x y sprite column row ≤ 1 := by
  refine Finset.card_le_one.mpr ?_
  rintro ⟨r, c⟩ hbit ⟨r', c'⟩ hbit'
  obtain ⟨hr, hc, -, hcolumn, hrow⟩ := s.mem_covering.mp hbit
  obtain ⟨hr', hc', -, hcolumn', hrow'⟩ := s.mem_covering.mp hbit'
  -- The two bits land in one column and one row, and there is no way round the grid between them.
  have hsameColumn : c = c' :=
    eq_of_add_emod_eq (by omega) (by omega) (hcolumn.trans hcolumn'.symm)
  have hsameRow : r = r' := eq_of_add_emod_eq (by omega) (by omega) (hrow.trans hrow'.symm)
  rw [hsameColumn, hsameRow]

include hheight

/-- Such a sprite inverts what it covers. -/
theorem pixel_draw_of_fits (hcolumn : column < s.width) :
    (s.draw x y sprite).2.pixel column row =
      (s.pixel column row ^^ decide (1 ≤ s.coverage x y sprite column row)) := by
  -- Not covered or covered once: the coverage is odd just when it is not zero.
  have hone : s.coverage x y sprite column row ≤ 1 := s.coverage_le_one hwide htall
  have hodd : s.coverage x y sprite column row % 2 = 1 ↔ 1 ≤ s.coverage x y sprite column row := by
    omega
  rw [s.pixel_draw (by omega) hheight hcolumn, decide_eq_decide.mpr hodd]

/-- It collides exactly if it covers a lit pixel. -/
theorem draw_hit_iff_of_fits :
    (s.draw x y sprite).1 = true ↔
      ∃ column row : Nat, column < s.width ∧ row < s.height ∧
        1 ≤ s.coverage x y sprite column row ∧ s.pixel column row = true := by
  rw [s.draw_hit_iff (by omega) hheight]
  refine exists_congr fun column => exists_congr fun row => and_congr_right fun _ =>
    and_congr_right fun _ => ?_
  have hone : s.coverage x y sprite column row ≤ 1 := s.coverage_le_one hwide htall
  exact or_iff_left (by omega)

end Fits

/-! ### All pixels together -/

/-- Grids of one size with the same pixels have the same cells. -/
theorem cells_eq_of_pixel {s t : Screen} (hwidth : 1 ≤ s.width) (hheight : 1 ≤ s.height)
    (hsameWidth : t.width = s.width) (hsameHeight : t.height = s.height)
    (h : ∀ column row : Nat, column < s.width → row < s.height →
      t.pixel column row = s.pixel column row) : t.cells = s.cells := by
  have hsize : t.cells.size = s.cells.size := by
    rw [t.size_cells, s.size_cells, hsameWidth, hsameHeight]
  refine cells_ext hsize fun p => ?_
  -- Every cell belongs to a pixel, so that it is enough to compare these.
  by_cases hp : p < s.cells.size
  · obtain ⟨column, row, hcolumn, hrow, rfl⟩ := s.exists_pixel hwidth hheight hp
    have hpixel := h column row hcolumn hrow
    rw [pixel, hsameWidth] at hpixel
    exact hpixel
  · -- Behind the last place there is no cell on either grid.
    have hbehind : ∀ cells : Array Bool, cells.size ≤ p → cells.getD p false = false := by
      intro cells hle
      rw [Array.getD_eq_getD_getElem?, Array.getElem?_eq_none hle]
      rfl
    rw [cellAt, cellAt, hbehind _ (by omega), hbehind _ (by omega)]

/-- **Drawings pixel by pixel.** On a grid with at least one row and one column, any sprite can be drawn
anywhere, be it wider or taller than the grid. Each pixel is then lit if it was lit before and covered an
even number of times, or dark before and covered an odd number of times. The drawing collides exactly if
it covers a lit pixel or covers any pixel twice, and it marks the screen as changed exactly if it covers
any pixel. -/
theorem draw_by_coverage (hwidth : 1 ≤ s.width) (hheight : 1 ≤ s.height) (x y : Int)
    (sprite : List UInt8) :
    let drawn := s.draw x y sprite
    s.tryDraw x y sprite = .ok drawn ∧
      (drawn.2.width = s.width ∧ drawn.2.height = s.height ∧
        drawn.2.cells.size = s.cells.size) ∧
      (∀ column row : Nat, column < s.width → row < s.height →
        drawn.2.pixel column row =
          (s.pixel column row ^^ decide (s.coverage x y sprite column row % 2 = 1))) ∧
      (drawn.1 = true ↔ ∃ column row : Nat, column < s.width ∧ row < s.height ∧
        (1 ≤ s.coverage x y sprite column row ∧ s.pixel column row = true ∨
          2 ≤ s.coverage x y sprite column row)) ∧
      (drawn.2.changed = true ↔ s.changed = true ∨
        ∃ column row : Nat, column < s.width ∧ row < s.height ∧
          1 ≤ s.coverage x y sprite column row) := by
  intro drawn
  have hpixels : s.hasPixels := ⟨by omega, by omega⟩
  obtain ⟨hsameWidth, hsameHeight⟩ := s.flipAll_width x y (Sprite.pixels sprite)
  have hsize : drawn.2.cells.size = s.cells.size := by
    change (s.draw x y sprite).2.cells.size = _
    rw [draw_eq_flipPlaces]
    exact s.size_flipPlaces _
  refine ⟨if_pos (.inl hpixels), ⟨hsameWidth, hsameHeight, hsize⟩, ?_,
    s.draw_hit_iff hwidth hheight, s.changed_draw_iff hwidth hheight⟩
  intro column row hcolumn hrow
  exact s.pixel_draw hwidth hheight hcolumn

/-- A sprite of three rows that hangs over every edge of a grid of five columns and two rows. -/
theorem draw_by_coverage_small :
    let s := blank 5 2
    let sprite : List UInt8 := [0xFF, 0x81, 0xF0]
    (1 ≤ s.width ∧ 1 ≤ s.height) ∧
      s.coverage (-3) 7 sprite 2 1 = 3 ∧ (s.draw (-3) 7 sprite).2.pixel 2 1 = true ∧
      s.coverage (-3) 7 sprite 0 1 = 2 ∧ (s.draw (-3) 7 sprite).2.pixel 0 1 = false ∧
      (s.draw (-3) 7 sprite).1 = true := by
  intro s sprite
  have hwidth : 1 ≤ s.width := by decide
  have hheight : 1 ≤ s.height := by decide
  obtain ⟨-, -, hdrawn, hhit, -⟩ := s.draw_by_coverage hwidth hheight (-3) 7 sprite
  have hodd : s.coverage (-3) 7 sprite 2 1 = 3 := by decide +kernel
  have heven : s.coverage (-3) 7 sprite 0 1 = 2 := by decide +kernel
  have hdark : s.pixel 2 1 = false ∧ s.pixel 0 1 = false := by decide
  refine ⟨⟨hwidth, hheight⟩, hodd, ?_, heven, ?_, ?_⟩
  · rw [hdrawn 2 1 (by decide) (by decide), hodd, hdark.1]
    rfl
  · rw [hdrawn 0 1 (by decide) (by decide), heven, hdark.2]
    rfl
  · exact hhit.mpr ⟨2, 1, by decide, by decide, .inr (by omega)⟩

end Screen

end Chip8
