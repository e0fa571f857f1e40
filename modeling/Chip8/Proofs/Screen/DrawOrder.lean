import Chip8.Proofs.Screen.Flips
import Mathlib.Algebra.BigOperators.Group.Finset.Basic
import Mathlib.Algebra.BigOperators.Ring.Finset
import Mathlib.Algebra.Ring.Parity

/-!
# The order of drawings

What a list of sprites, drawn one after the other, leaves on a screen, and which of them collide. All
of them together are one run of flips (`Screen.drawAll_eq_flipPlaces`), over the places of all their
pixels (`Screen.footprints`), and of such a run only the number of turns of each place counts. So neither
the picture in the end nor whether there was any collision depends on the order, and drawings that come
in pairs cancel out (`Screen.drawAll_order`).

Which of the sprites it is that collides does depend on the order: of two sprites on the same pixel the
first one lights it and the second one puts it out, whichever comes first.
-/

namespace Chip8.Screen

/-- A sprite and the position of its top left corner. -/
structure Drawing where
  x : Int
  y : Int
  sprite : List UInt8
  deriving DecidableEq

/-- Draws sprites one after the other. The answers say which of them collided. -/
def drawAll (s : Screen) : List Drawing → List Bool × Screen
  | [] => ([], s)
  | d :: rest =>
    let (hit, s) := s.draw d.x d.y d.sprite
    let (hits, s) := s.drawAll rest
    (hit :: hits, s)

/-- The places of the pixels of a drawing. -/
def footprint (s : Screen) (d : Drawing) : List Nat :=
  s.places d.x d.y (Sprite.pixels d.sprite)

/-- The places of the pixels of all drawings of a list. -/
def footprints (s : Screen) (drawings : List Drawing) : List Nat :=
  drawings.flatMap s.footprint

variable (s : Screen)

theorem drawAll_cons (d : Drawing) (rest : List Drawing) :
    s.drawAll (d :: rest) =
      ((s.draw d.x d.y d.sprite).1 :: ((s.draw d.x d.y d.sprite).2.drawAll rest).1,
        ((s.draw d.x d.y d.sprite).2.drawAll rest).2) := rfl

/-- Where pixels are held is a matter of the size of the screen alone. -/
theorem footprints_congr {s t : Screen} (hwidth : t.width = s.width) (hheight : t.height = s.height)
    (drawings : List Drawing) : t.footprints drawings = s.footprints drawings :=
  congrArg drawings.flatMap (funext fun d => places_congr hwidth hheight d.x d.y _)

/-- Drawings are one run of flips. -/
theorem drawAll_eq_flipPlaces (drawings : List Drawing) :
    ((s.drawAll drawings).1.any id, (s.drawAll drawings).2) =
      s.flipPlaces (s.footprints drawings) := by
  -- A drawing does not change the size of the screen, and so the footprints of the rest can be taken
  -- before it as well as after it.
  induction drawings generalizing s with
  | nil => rfl
  | cons d rest ih =>
    have hdraw := s.draw_eq_flipPlaces d.x d.y d.sprite
    obtain ⟨hwidth, hheight⟩ := s.flipPlaces_width (s.footprint d)
    rw [footprints, List.flatMap_cons, flipPlaces_append, drawAll_cons, hdraw]
    have hrest := ih (s.flipPlaces (s.footprint d)).2
    rw [footprints_congr hwidth hheight] at hrest
    rw [← footprints, ← hrest]
    rfl

/-- The footprints lie on the screen. -/
theorem lt_of_mem_footprints (hwidth : 1 ≤ s.width) (hheight : 1 ≤ s.height)
    (drawings : List Drawing) : ∀ p ∈ s.footprints drawings, p < s.cells.size := by
  intro p hp
  obtain ⟨d, -, hd⟩ := List.mem_flatMap.mp hp
  exact s.lt_of_mem_places hwidth hheight hd

/-! ### What a list of drawings comes to -/

section Pixels

variable (hwidth : 1 ≤ s.width) (hheight : 1 ≤ s.height) (drawings : List Drawing)
include hwidth hheight

/-- What is left in a place is a matter of how many of the pixels of all drawings fall on it. -/
theorem cellAt_drawAll (q : Nat) :
    (s.drawAll drawings).2.cellAt q =
      (s.cellAt q ^^ decide ((s.footprints drawings).count q % 2 = 1)) := by
  have hrun := congrArg Prod.snd (s.drawAll_eq_flipPlaces drawings)
  change (s.drawAll drawings).2 = _ at hrun
  rw [hrun]
  exact s.cellAt_flipPlaces (s.lt_of_mem_footprints hwidth hheight drawings) q

/-- Some drawing collides if one of the pixels falls on a lit cell or two of them fall on the same one. -/
theorem drawAll_hit_iff :
    (s.drawAll drawings).1.any id = true ↔
      ∃ p ∈ s.footprints drawings, s.cellAt p = true ∨ 2 ≤ (s.footprints drawings).count p := by
  have hrun := congrArg Prod.fst (s.drawAll_eq_flipPlaces drawings)
  change (s.drawAll drawings).1.any id = _ at hrun
  rw [hrun]
  exact s.flipPlaces_hit_iff (s.lt_of_mem_footprints hwidth hheight drawings)

end Pixels

theorem size_drawAll (drawings : List Drawing) :
    (s.drawAll drawings).2.cells.size = s.cells.size := by
  have hrun := congrArg Prod.snd (s.drawAll_eq_flipPlaces drawings)
  change (s.drawAll drawings).2 = _ at hrun
  rw [hrun]
  exact s.size_flipPlaces _

/-- Items that come in pairs contribute in pairs. -/
theorem even_count_flatMap {α β : Type} [DecidableEq α] [DecidableEq β] {l : List α}
    (h : ∀ a ∈ l, Even (l.count a)) (f : α → List β) (b : β) : Even ((l.flatMap f).count b) := by
  -- The number is a sum over the different items, each counted as often as it comes.
  rw [List.count_flatMap, Finset.sum_list_map_count, even_iff_two_dvd]
  refine Finset.dvd_sum fun a ha => ?_
  have heven := h a (List.mem_toFinset.mp ha)
  exact (even_iff_two_dvd.mp heven).mul_right _

/-! ### Two pixels in one place -/

/-- A sprite of one pixel turns that pixel over. -/
theorem draw_pixel (x y : Int) : s.draw x y [0x80] = s.flip x y := by
  have hpixels : Sprite.pixels [0x80] = [(0, 0)] := by decide
  rw [draw, hpixels, flipAll_cons]
  change ((s.flip (x + 0) (y + 0)).1 || false, (s.flip (x + 0) (y + 0)).2) = _
  rw [Bool.or_false, Int.add_zero, Int.add_zero]

/-- A column further on by the width is the same one. -/
theorem place_add_width (x y : Int) : s.place (x + s.width) y = s.place x y := by
  unfold place
  rw [Int.add_fmod_right]

/-- Of two drawings of a pixel in one place exactly one collides. -/
theorem drawAll_pixels (hwidth : 1 ≤ s.width) (hheight : 1 ≤ s.height) {x y x' y' : Int}
    (hplace : s.place x' y' = s.place x y) :
    (s.drawAll [⟨x, y, [0x80]⟩, ⟨x', y', [0x80]⟩]).1 = [s.isLit x y, !s.isLit x y] := by
  have hplace' : (s.flip x y).2.place x' y' = s.place x y := by
    rw [place_congr (s.width_flip x y) (s.height_flip x y), hplace]
  have hsecond : ((s.flip x y).2.flip x' y').1 = !s.isLit x y := by
    change (s.flip x y).2.cellAt ((s.flip x y).2.place x' y') = _
    rw [hplace', flip_eq_flipPlace, cellAt_flipPlace s (s.place_lt hwidth hheight x y),
      decide_eq_true rfl, Bool.xor_true]
    rfl
  rw [drawAll_cons, drawAll_cons, draw_pixel, draw_pixel, hsecond]
  rfl

/-- **The order of drawings does not matter.** Take any order of any list of drawings. The cells end up
the same, and there is a collision in both orders or in neither; and if every drawing comes an even
number of times, the cells end up as they were. What does depend on the order is which of the drawings
collide. -/
theorem drawAll_order (hwidth : 1 ≤ s.width) (hheight : 1 ≤ s.height) :
    (∀ first second : List Drawing, first.Perm second →
        (s.drawAll first).2.cells = (s.drawAll second).2.cells ∧
          (s.drawAll first).1.any id = (s.drawAll second).1.any id) ∧
      (∀ drawings : List Drawing, (∀ d ∈ drawings, Even (drawings.count d)) →
        (s.drawAll drawings).2.cells = s.cells) ∧
      ∃ (d e : Drawing) (hit : Bool), d ≠ e ∧
        (s.drawAll [d, e]).1 = [hit, !hit] ∧ (s.drawAll [e, d]).1 = [hit, !hit] := by
  have hplace : s.place s.width 0 = s.place 0 0 := by
    rw [← s.place_add_width 0 0, Int.zero_add]
  refine ⟨fun first second hperm => ⟨?_, ?_⟩, fun drawings heven => ?_, ?_⟩
  · -- The same places are turned over as many times.
    refine cells_ext ?_ fun q => ?_
    · rw [size_drawAll, size_drawAll]
    · have hcount : (s.footprints first).count q = (s.footprints second).count q :=
        (hperm.flatMap_right s.footprint).count_eq q
      rw [cellAt_drawAll s hwidth hheight, cellAt_drawAll s hwidth hheight, hcount]
  · -- A collision is a matter of what is lit at first and of these numbers.
    have hfootprints : (s.footprints first).Perm (s.footprints second) :=
      hperm.flatMap_right s.footprint
    rw [Bool.eq_iff_iff, drawAll_hit_iff s hwidth hheight, drawAll_hit_iff s hwidth hheight]
    refine exists_congr fun p => ?_
    rw [hfootprints.mem_iff, hfootprints.count_eq]
  · -- All numbers of turns are even, as each is a sum of even ones.
    refine cells_ext (s.size_drawAll drawings) fun q => ?_
    have hcount := Nat.even_iff.mp (even_count_flatMap heven s.footprint q)
    rw [cellAt_drawAll s hwidth hheight, footprints, hcount]
    exact Bool.xor_false _
  · -- One pixel, named by two columns.
    refine ⟨⟨0, 0, [0x80]⟩, ⟨s.width, 0, [0x80]⟩, s.isLit 0 0, ?_, ?_, ?_⟩
    · intro heq
      have hx : 0 = s.width := congrArg Drawing.x heq
      omega
    · exact s.drawAll_pixels hwidth hheight hplace
    · have hlit : s.isLit s.width 0 = s.isLit 0 0 := congrArg s.cellAt hplace
      rw [s.drawAll_pixels hwidth hheight hplace.symm, hlit]

/-- On a blank screen, two drawings of a sprite that wraps around the corner, with one or two of a digit
between them. -/
theorem drawAll_order_blank :
    let s := blank 64 32
    let corner : Drawing := ⟨63, -1, [0xFF, 0x81]⟩
    let digit : Drawing := ⟨2, 96, [0xF0, 0x90]⟩
    (1 ≤ s.width ∧ 1 ≤ s.height) ∧
      (s.drawAll [corner, digit, corner]).2.cells = (s.drawAll [digit, corner, corner]).2.cells ∧
      (s.drawAll [corner, digit, digit, corner]).2.cells = s.cells := by
  intro s corner digit
  have hwidth : 1 ≤ s.width := by decide
  have hheight : 1 ≤ s.height := by decide
  obtain ⟨horder, heven, -⟩ := s.drawAll_order hwidth hheight
  have hperm : [corner, digit, corner].Perm [digit, corner, corner] := by decide
  exact ⟨⟨hwidth, hheight⟩, (horder _ _ hperm).1, heven _ (by decide)⟩

end Chip8.Screen
