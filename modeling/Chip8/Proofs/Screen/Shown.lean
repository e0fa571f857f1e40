import Chip8.Device.Panel
import Chip8.Proofs.Screen.Coverage

/-!
# From the grid to the window

A picture goes two ways through a row-major order. The cells of a screen are cut into the rows of its
picture, and the rows are strung together again as the bytes of an image, three for each pixel. The two
agree: a pixel that is held in place `row * width + column` has its three bytes from three times that place
on (`Screen.bytes_picture_pixel`), whatever the shape of the grid. Each of the two orders is a list of
blocks of one length, and `take_drop_flatMap` finds a block in such a list.

So an image shows every pixel where it is, in the colour that it should have; and with two different
colours it shows nothing less than the whole grid (`Screen.shown_in_place`).
-/

namespace Chip8

/-- In a list of blocks of one length, the block with a number is what stands from that number of lengths
on. -/
theorem take_drop_flatMap {α β : Type} {f : α → List β} {n : Nat} {l : List α}
    (hlength : ∀ a ∈ l, (f a).length = n) {i : Nat} {a : α} (h : l[i]? = some a) :
    ((l.flatMap f).drop (n * i)).take n = f a := by
  induction l generalizing i with
  | nil => cases h
  | cons first rest ih =>
    obtain ⟨hfirst, hrest⟩ := List.forall_mem_cons.mp hlength
    rw [List.flatMap_cons]
    -- The first block stands at the front, and any other in the list behind it.
    cases i with
    | zero =>
      obtain rfl : first = a := Option.some.inj h
      rw [Nat.mul_zero, List.drop_zero, List.take_left' hfirst]
    | succ i =>
      rw [Nat.mul_succ, Nat.add_comm, ← List.drop_drop, List.drop_left' hfirst]
      exact ih hrest h

/-- Colours with the same three bytes are the same. -/
theorem Colour.bytes_injective {c d : Colour} (h : c.bytes = d.bytes) : c = d := by
  cases c
  cases d
  simpa [Colour.bytes] using h

namespace Palette

/-- Two different colours tell lit pixels from unlit ones. -/
theorem colour_injective {p : Palette} (h : p.background ≠ p.foreground) :
    Function.Injective p.colour := by
  intro lit other hsame
  cases lit <;> cases other
  case false.true => exact absurd hsame h
  case true.false => exact absurd hsame.symm h
  all_goals rfl

/-- The colours of a picture are those of its pixels in a row. -/
theorem bytes_eq (p : Palette) (rows : List (List Bool)) :
    p.bytes rows = rows.flatten.flatMap fun lit => (p.colour lit).bytes := by
  rw [← List.flatMap_id, List.flatMap_assoc]
  rfl

end Palette

namespace Screen

/-- What can be done to a screen from outside. -/
inductive Stroke
  | clear
  | draw (x y : Int) (sprite : List UInt8)

def paint (s : Screen) : Stroke → Screen
  | .clear => s.clear
  | .draw x y sprite => (s.draw x y sprite).2

/-- What is left on a screen when one thing after the other has been done to it. -/
def paintAll (s : Screen) (strokes : List Stroke) : Screen :=
  strokes.foldl paint s

/-- A screen keeps its size, whatever is drawn on it. -/
theorem paintAll_width (s : Screen) (strokes : List Stroke) :
    (s.paintAll strokes).width = s.width ∧ (s.paintAll strokes).height = s.height := by
  induction strokes generalizing s with
  | nil => exact ⟨rfl, rfl⟩
  | cons stroke rest ih =>
    obtain ⟨hwidth, hheight⟩ : (s.paint stroke).width = s.width ∧ (s.paint stroke).height = s.height := by
      cases stroke with
      | clear => exact ⟨rfl, rfl⟩
      | draw x y sprite => exact s.flipAll_width x y _
    exact ⟨(ih _).1.trans hwidth, (ih _).2.trans hheight⟩

section Picture

variable {s : Screen} {width height column row : Nat}

/-- A picture has as many rows as the screen. -/
theorem length_picture (hheight : s.height = height) : s.picture.length = height := by
  rw [picture, List.length_map, List.length_range, hheight, Int.toNat_natCast]

/-- Each row of a picture has as many pixels as the screen has columns. -/
theorem length_of_mem_picture (hwidth : s.width = width) :
    ∀ pixels ∈ s.picture, pixels.length = width := by
  intro pixels hmem
  obtain ⟨row, -, rfl⟩ := List.mem_map.mp hmem
  rw [List.length_map, List.length_range, hwidth, Int.toNat_natCast]

variable (hwidth : s.width = width) (hheight : s.height = height)
include hwidth hheight

theorem size_cells_eq : s.cells.size = width * height := by
  rw [s.size_cells, hwidth, hheight, ← Int.natCast_mul, Int.toNat_natCast]

/-- Every pixel of the grid has a cell of its own. -/
theorem getElem?_cells (hcolumn : column < width) (hrow : row < height) :
    s.cells[row * width + column]? = some (s.pixel column row) := by
  have hlt : row * width + column < s.cells.size := by
    -- The cells of the rows up to this one are no more than there are.
    have hrows : (row + 1) * width ≤ height * width := Nat.mul_le_mul_right width hrow
    rw [size_cells_eq hwidth hheight, Nat.mul_comm width]
    rw [Nat.succ_mul] at hrows
    omega
  rw [pixel, hwidth, Int.toNat_natCast, Array.getD_eq_getD_getElem?, Array.getElem?_eq_getElem hlt]
  rfl

/-- The picture has every pixel in its row and column. -/
theorem picture_pixel (hcolumn : column < width) (hrow : row < height) :
    (s.picture[row]? >>= fun pixels => pixels[column]?) = some (s.pixel column row) := by
  rw [picture, List.getElem?_map, hheight, Int.toNat_natCast, List.getElem?_range hrow]
  change (List.map _ _)[column]? = _
  rw [List.getElem?_map, hwidth, Int.toNat_natCast, List.getElem?_range hcolumn, pixel, hwidth]
  rfl

/-- Strung together, the rows of the picture have every pixel in the place of its cell. -/
theorem flatten_picture_pixel (hcolumn : column < width) (hrow : row < height) :
    s.picture.flatten[row * width + column]? = some (s.pixel column row) := by
  obtain ⟨pixels, hmem, hpixel⟩ := Option.bind_eq_some_iff.mp (picture_pixel hwidth hheight hcolumn hrow)
  -- The rows are blocks of one length, so that the pixel is found at its column behind the rows before
  -- it.
  have hblock := take_drop_flatMap (f := id) (length_of_mem_picture hwidth) hmem
  rw [List.flatMap_id, id] at hblock
  rw [← hpixel, ← hblock, List.getElem?_take_of_lt hcolumn, List.getElem?_drop, Nat.mul_comm]

/-- The bytes of an image have the three of every pixel from three times its place on. -/
theorem bytes_picture_pixel (p : Palette) (hcolumn : column < width) (hrow : row < height) :
    ((p.bytes s.picture).drop (3 * (row * width + column))).take 3 =
      (p.colour (s.pixel column row)).bytes := by
  -- The colours are blocks of three, whatever the pixels are.
  have hthree : ∀ lit ∈ s.picture.flatten, (p.colour lit).bytes.length = 3 := fun _ _ => rfl
  rw [p.bytes_eq]
  exact take_drop_flatMap hthree (flatten_picture_pixel hwidth hheight hcolumn hrow)

theorem length_bytes_picture (p : Palette) : (p.bytes s.picture).length = 3 * (width * height) := by
  rw [p.length_bytes, List.length_flatten, List.map_eq_replicate_iff.mpr
    (length_of_mem_picture hwidth), List.sum_replicate_nat, length_picture hheight,
    Nat.mul_comm height]

end Picture

/-- Grids of one size that make the same image with two colours have the same cells. -/
theorem cells_eq_of_bytes {s t : Screen} {width height : Nat} (hpos : 1 ≤ width ∧ 1 ≤ height)
    (hs : s.width = width ∧ s.height = height) (ht : t.width = width ∧ t.height = height)
    {p : Palette} (hcolours : p.background ≠ p.foreground)
    (h : p.bytes t.picture = p.bytes s.picture) : t.cells = s.cells := by
  refine cells_eq_of_pixel (by omega) (by omega) (ht.1.trans hs.1.symm) (ht.2.trans hs.2.symm)
    fun column row hcolumn hrow => ?_
  have hcolumn : column < width := by omega
  have hrow : row < height := by omega
  -- The three bytes of the pixel are the same on both sides, and they tell whether it is lit.
  refine Palette.colour_injective hcolours (Colour.bytes_injective ?_)
  rw [← bytes_picture_pixel ht.1 ht.2 p hcolumn hrow, h, bytes_picture_pixel hs.1 hs.2 p hcolumn hrow]

/-- **Every pixel is shown in its place.** Take a screen with at least one row and one column, of whatever
size, new (`eq_blank_of_ofSize`) or with anything drawn on it and cleared in between. Its picture has as many
rows as the screen, each as wide as the screen, and in every row and column the pixel that the screen has
there. A panel with a window keeps this very picture, and makes an image of the size of the screen, with three
bytes for every pixel: they stand from three times the place of the pixel on, and are those of the foreground
if it is lit and those of the background if it is not. If the two colours differ, no other grid of that size
makes the same image. -/
theorem shown_in_place {width height : Nat} (hwidth : 1 ≤ width) (hheight : 1 ≤ height)
    (strokes : List Stroke) (panel : Panel) {window : Window} (hwindow : panel.window = some window) :
    let s := (blank width height).paintAll strokes
    let palette := window.palette
    let bytes := palette.bytes s.picture
    (s.tryPicture = .ok s.picture ∧ s.picture.length = height ∧
      (∀ pixels ∈ s.picture, pixels.length = width)) ∧
    (panel.display s.picture).value = { panel with frame := some s.picture } ∧
    (panel.display s.picture).calls =
      [.makeImage bytes width height, .stretch window.width window.height, .blit 0 0, .present] ∧
    bytes.length = 3 * (width * height) ∧
    (∀ column < width, ∀ row < height, ∃ lit,
      s.cells[row * width + column]? = some lit ∧
      (s.picture[row]? >>= fun pixels => pixels[column]?) = some lit ∧
      (bytes.drop (3 * (row * width + column))).take 3 =
        if lit then palette.foreground.bytes else palette.background.bytes) ∧
    (palette.background ≠ palette.foreground →
      ∀ t : Screen, t.width = width → t.height = height →
        palette.bytes t.picture = bytes → t.cells = s.cells) := by
  intro s palette bytes
  obtain ⟨hw, hh⟩ : s.width = width ∧ s.height = height := paintAll_width _ strokes
  refine ⟨⟨if_neg (by omega), length_picture hh, length_of_mem_picture hw⟩, rfl, ?_,
    length_bytes_picture hw hh palette, fun column hcolumn row hrow => ?_,
    fun hcolours t htw hth => cells_eq_of_bytes ⟨hwidth, hheight⟩ ⟨hw, hh⟩ ⟨htw, hth⟩ hcolours⟩
  · -- The width of the image is that of the first row, and there is one.
    obtain ⟨first, rest, hpicture⟩ : ∃ first rest, s.picture = first :: rest := by
      refine List.exists_cons_of_length_pos ?_
      rw [length_picture hh]
      exact hheight
    have hfirst : first.length = width :=
      length_of_mem_picture hw first (hpicture ▸ List.mem_cons_self)
    have hhead : (s.picture.headD []).length = width := by rw [hpicture, List.headD_cons, hfirst]
    simp only [Panel.display, hwindow, Panel.Window.displayCalls, hhead, length_picture hh]
    rfl
  · -- One and the same pixel is found in the cells, in the picture and in the bytes.
    refine ⟨s.pixel column row, getElem?_cells hw hh hcolumn hrow, picture_pixel hw hh hcolumn hrow, ?_⟩
    rw [bytes_picture_pixel hw hh palette hcolumn hrow]
    cases s.pixel column row <;> rfl

/-- On a grid of three columns and two rows, a sprite that hangs over the right edge: the pixel at the left
end of the second row has its bytes from the ninth one on. -/
theorem shown_in_place_narrow :
    let s := (blank 3 2).paintAll [.draw 0 0 [0xFF], .clear, .draw 2 1 [0xC0]]
    let bytes := Palette.bytes ⟨⟨0, 0, 0⟩, ⟨1, 2, 3⟩⟩ s.picture
    s.picture = [[false, false, false], [true, false, true]] ∧ bytes.length = 18 ∧
      (bytes.drop 9).take 3 = [1, 2, 3] := by
  intro s bytes
  let window : Window := ⟨6, 3, ⟨⟨0, 0, 0⟩, ⟨1, 2, 3⟩⟩⟩
  have hpicture : s.picture = [[false, false, false], [true, false, true]] := by decide
  obtain ⟨-, -, -, hlength, hpixels, -⟩ :=
    @shown_in_place 3 2 (by decide) (by decide) [.draw 0 0 [0xFF], .clear, .draw 2 1 [0xC0]]
      { window := some window, scale := 6 } window rfl
  obtain ⟨lit, hcell, -, hbytes⟩ := hpixels 0 (by decide) 1 (by decide)
  have hlit : lit = true := by
    have hlast : s.cells[1 * 3 + 0]? = some true := by decide
    exact Option.some.inj (hcell.symm.trans hlast)
  rw [hlit] at hbytes
  exact ⟨hpicture, hlength, hbytes⟩

end Screen

end Chip8
