import Chip8.Screen

/-!
# Runs of flips

What is left of a screen when a list of its places has been turned over, one after the other. Nothing
but the number of turns counts: a cell has changed if its place is in the list an odd number of times
(`Screen.cellAt_flipPlaces`), and some turn has put out a lit cell if one of the places was lit before or
is in the list twice (`Screen.flipPlaces_hit_iff`). The order of the list enters in neither.

A sprite is such a list (`Screen.draw_eq_flipPlaces`), the places being those of its pixels. On a screen
with at least one row and one column all of them are places of cells (`Screen.place_lt`).
-/

namespace Chip8.Screen

/-- Whether the cell in a place is lit. Behind the last place there is none that could be. -/
def cellAt (s : Screen) (p : Nat) : Bool :=
  s.cells.getD p false

/-- Turns over the cell in a place, and says whether it was lit before. -/
def flipPlace (s : Screen) (p : Nat) : Bool × Screen :=
  (s.cellAt p, { s with
    cells := s.cells.setIfInBounds p !s.cellAt p
    changed := true
    size_cells := by simpa using s.size_cells })

/-- Turns over the cells in a list of places. The answer says whether any of them was lit when its turn
came. -/
def flipPlaces (s : Screen) : List Nat → Bool × Screen
  | [] => (false, s)
  | p :: rest =>
    let (hit, s) := s.flipPlace p
    let (more, s) := s.flipPlaces rest
    (hit || more, s)

variable (s : Screen)

/-- A pixel is turned over in the place where it is held. -/
theorem flip_eq_flipPlace (x y : Int) : s.flip x y = s.flipPlace (s.place x y) := rfl

/-- The first place is turned over on the screen as it is, and the others on what that has left. -/
theorem flipPlaces_cons (p : Nat) (rest : List Nat) :
    s.flipPlaces (p :: rest) =
      ((s.flipPlace p).1 || ((s.flipPlace p).2.flipPlaces rest).1,
        ((s.flipPlace p).2.flipPlaces rest).2) := rfl

/-- The pixels of a sprite are turned over one after the other as well. -/
theorem flipAll_cons (x y : Int) (offset : Nat × Nat) (rest : List (Nat × Nat)) :
    s.flipAll x y (offset :: rest) =
      ((s.flip (x + offset.2) (y + offset.1)).1 ||
          ((s.flip (x + offset.2) (y + offset.1)).2.flipAll x y rest).1,
        ((s.flip (x + offset.2) (y + offset.1)).2.flipAll x y rest).2) := rfl

/-- Two pictures of one size are the same if no place tells them apart. -/
theorem cells_ext {s t : Screen} (hsize : s.cells.size = t.cells.size)
    (h : ∀ p, s.cellAt p = t.cellAt p) : s.cells = t.cells := by
  refine Array.ext hsize fun p hs ht => ?_
  have hp := h p
  simp only [cellAt, Array.getD_eq_getD_getElem?] at hp
  rwa [Array.getElem?_eq_getElem hs, Array.getElem?_eq_getElem ht] at hp

/-! ### Numbers of turns -/

theorem size_flipPlace (p : Nat) : (s.flipPlace p).2.cells.size = s.cells.size :=
  Array.size_setIfInBounds

/-- One turn changes the cell in its place and no other. -/
theorem cellAt_flipPlace {p : Nat} (hp : p < s.cells.size) (q : Nat) :
    (s.flipPlace p).2.cellAt q = (s.cellAt q ^^ decide (p = q)) := by
  change (s.cells.setIfInBounds p !s.cellAt p).getD q false = _
  rw [Array.getD_eq_getD_getElem?, Array.getElem?_setIfInBounds]
  -- The place itself is overwritten with the opposite, and any other is read as it was.
  by_cases hpq : p = q
  · subst hpq
    simp [hp]
  · rw [if_neg hpq, ← Array.getD_eq_getD_getElem?, decide_eq_false hpq, Bool.xor_false]
    rfl

theorem size_flipPlaces (places : List Nat) :
    (s.flipPlaces places).2.cells.size = s.cells.size := by
  induction places generalizing s with
  | nil => rfl
  | cons p rest ih => exact (ih _).trans (s.size_flipPlace p)

/-- A cell changes with every turn, so it has changed if there was an odd number of them. -/
theorem cellAt_flipPlaces {places : List Nat} (h : ∀ p ∈ places, p < s.cells.size) (q : Nat) :
    (s.flipPlaces places).2.cellAt q = (s.cellAt q ^^ decide (places.count q % 2 = 1)) := by
  -- The screen changes from turn to turn, but not its size, so that all places stay places of it.
  induction places generalizing s with
  | nil => simp [flipPlaces]
  | cons p rest ih =>
    obtain ⟨hp, hrest⟩ := List.forall_mem_cons.mp h
    have hrest' : ∀ p' ∈ rest, p' < (s.flipPlace p).2.cells.size := by
      rw [s.size_flipPlace p]
      exact hrest
    rw [flipPlaces_cons, ih _ hrest', cellAt_flipPlace s hp, Bool.xor_assoc]
    congr 1
    by_cases hpq : p = q
    · -- One turn more makes odd of even and even of odd.
      subst hpq
      rw [List.count_cons_self]
      rcases Nat.mod_two_eq_zero_or_one (rest.count p) with heven | hodd
      · have hsucc : (rest.count p + 1) % 2 = 1 := by omega
        simp [heven, hsucc]
      · have hsucc : (rest.count p + 1) % 2 = 0 := by omega
        simp [hodd, hsucc]
    · rw [List.count_cons_of_ne hpq, decide_eq_false hpq, Bool.false_xor]

/-- A lit cell is put out by its first turn, and a dark one by its second. -/
theorem flipPlaces_hit_iff {places : List Nat} (h : ∀ p ∈ places, p < s.cells.size) :
    (s.flipPlaces places).1 = true ↔
      ∃ p ∈ places, s.cellAt p = true ∨ 2 ≤ places.count p := by
  induction places generalizing s with
  | nil => simp [flipPlaces]
  | cons p rest ih =>
    obtain ⟨hp, hrest⟩ := List.forall_mem_cons.mp h
    have hrest' : ∀ p' ∈ rest, p' < (s.flipPlace p).2.cells.size := by
      rw [s.size_flipPlace p]
      exact hrest
    have hcons : (s.flipPlaces (p :: rest)).1 = true ↔
        s.cellAt p = true ∨ ((s.flipPlace p).2.flipPlaces rest).1 = true := by
      rw [flipPlaces_cons]
      exact Bool.or_eq_true_iff
    -- What the first turn does to its own cell and to every other one is all that the rest of the list
    -- sees of it.
    have hself : (s.flipPlace p).2.cellAt p = !s.cellAt p := by
      rw [cellAt_flipPlace s hp, decide_eq_true rfl, Bool.xor_true]
    have hother : ∀ q, p ≠ q → (s.flipPlace p).2.cellAt q = s.cellAt q := by
      intro q hpq
      rw [cellAt_flipPlace s hp, decide_eq_false hpq, Bool.xor_false]
    rw [hcons, ih _ hrest']
    constructor
    · -- From a collision to its cause: it is one of the first turn, or one among the rest.
      rintro (hlit | ⟨q, hq, hcause⟩)
      · exact ⟨p, List.mem_cons_self, .inl hlit⟩
      · refine ⟨q, List.mem_cons_of_mem _ hq, ?_⟩
        by_cases hpq : p = q
        · -- The place is in the list before and in the rest again.
          subst hpq
          have hpos := List.count_pos_iff.mpr hq
          rw [List.count_cons_self]
          exact .inr (by omega)
        · rw [hother q hpq] at hcause
          rwa [List.count_cons_of_ne hpq]
    · -- From the cause to a collision: the place is that of the first turn, or it is left as it was by
      -- that.
      rintro ⟨q, hq, hcause⟩
      by_cases hpq : p = q
      · subst hpq
        cases hlit : s.cellAt p with
        | true => exact .inl rfl
        | false =>
          -- The first turn lights the cell, so that another one must put it out.
          rw [List.count_cons_self, hlit] at hcause
          have hagain : p ∈ rest := by
            refine List.count_pos_iff.mp ?_
            rcases hcause with hcause | hcause
            · cases hcause
            · omega
          exact .inr ⟨p, hagain, .inl (by rw [hself, hlit]; rfl)⟩
      · have hq' : q ∈ rest := (List.mem_cons.mp hq).resolve_left (Ne.symm hpq)
        rw [List.count_cons_of_ne hpq] at hcause
        rw [← hother q hpq] at hcause
        exact .inr ⟨q, hq', hcause⟩

/-! ### The places of a sprite -/

/-- The places of the pixels at the given offsets, as rows and columns, from a position. -/
def places (x y : Int) (offsets : List (Nat × Nat)) : List Nat :=
  offsets.map fun offset => s.place (x + offset.2) (y + offset.1)

/-- Where a pixel is held is a matter of the size of the screen alone. -/
theorem place_congr {s t : Screen} (hwidth : t.width = s.width) (hheight : t.height = s.height)
    (x y : Int) : t.place x y = s.place x y := by
  have hsize : t.cells.size = s.cells.size := by
    rw [t.size_cells, s.size_cells, hwidth, hheight]
  unfold place
  rw [hwidth, hheight, hsize]

/-- So are the places of a whole sprite. -/
theorem places_congr {s t : Screen} (hwidth : t.width = s.width) (hheight : t.height = s.height)
    (x y : Int) (offsets : List (Nat × Nat)) : t.places x y offsets = s.places x y offsets :=
  List.map_congr_left fun _ _ => place_congr hwidth hheight _ _

/-- A turn leaves the size of the screen alone. -/
theorem flipPlace_width (p : Nat) :
    (s.flipPlace p).2.width = s.width ∧ (s.flipPlace p).2.height = s.height :=
  ⟨rfl, rfl⟩

/-- So does any number of turns. -/
theorem flipPlaces_width (ps : List Nat) :
    (s.flipPlaces ps).2.width = s.width ∧ (s.flipPlaces ps).2.height = s.height := by
  induction ps generalizing s with
  | nil => exact ⟨rfl, rfl⟩
  | cons p rest ih => exact ih _

/-- Turning over pixels is turning over their places. These are read off the screen as it is before the first
turn, since no turn changes its size. -/
theorem flipAll_eq_flipPlaces (x y : Int) (offsets : List (Nat × Nat)) :
    s.flipAll x y offsets = s.flipPlaces (s.places x y offsets) := by
  induction offsets generalizing s with
  | nil => rfl
  | cons offset rest ih =>
    obtain ⟨hwidth, hheight⟩ := s.flipPlace_width (s.place (x + offset.2) (y + offset.1))
    rw [flipAll_cons, flip_eq_flipPlace, places, List.map_cons, flipPlaces_cons, ih,
      places_congr hwidth hheight]
    rfl

/-- **A sprite is a run of flips**, over the places of its pixels. -/
theorem draw_eq_flipPlaces (x y : Int) (sprite : List UInt8) :
    s.draw x y sprite = s.flipPlaces (s.places x y (Sprite.pixels sprite)) :=
  s.flipAll_eq_flipPlaces x y _

/-- Two runs are one run, and there is a hit in it if there is one in either of them. -/
theorem flipPlaces_append (first second : List Nat) :
    s.flipPlaces (first ++ second) =
      ((s.flipPlaces first).1 || ((s.flipPlaces first).2.flipPlaces second).1,
        ((s.flipPlaces first).2.flipPlaces second).2) := by
  induction first generalizing s with
  | nil => rfl
  | cons p rest ih =>
    rw [List.cons_append, flipPlaces_cons, flipPlaces_cons, ih, Bool.or_assoc]

/-- On a screen with rows and columns the place of any pixel, however far off, is one of its cells. -/
theorem place_lt (hwidth : 1 ≤ s.width) (hheight : 1 ≤ s.height) (x y : Int) :
    s.place x y < s.cells.size := by
  -- Column and row of the pixel, brought back to the screen.
  have hx0 : 0 ≤ x.fmod s.width := Int.fmod_nonneg_of_pos x (by omega)
  have hx1 : x.fmod s.width < s.width := Int.fmod_lt_of_pos x (by omega)
  have hy0 : 0 ≤ y.fmod s.height := Int.fmod_nonneg_of_pos y (by omega)
  have hy1 : y.fmod s.height < s.height := Int.fmod_lt_of_pos y (by omega)
  -- The row is at most the last one, and the column does not reach the next row.
  have hrow : (y.fmod s.height + 1) * s.width ≤ s.height * s.width :=
    Int.mul_le_mul_of_nonneg_right (by omega) (by omega)
  have hstart : 0 ≤ y.fmod s.height * s.width := Int.mul_nonneg hy0 (by omega)
  rw [Int.add_mul, Int.one_mul, Int.mul_comm s.height] at hrow
  rw [s.size_cells]
  simp only [place]
  rw [if_neg (by omega)]
  omega

/-- So are the places of a whole sprite. -/
theorem lt_of_mem_places (hwidth : 1 ≤ s.width) (hheight : 1 ≤ s.height) {x y : Int}
    {offsets : List (Nat × Nat)} {p : Nat} (hp : p ∈ s.places x y offsets) :
    p < s.cells.size := by
  obtain ⟨offset, -, rfl⟩ := List.mem_map.mp hp
  exact s.place_lt hwidth hheight _ _

/-- Turning over any pixel at all marks the screen as changed, and no mark is ever taken away. -/
theorem changed_flipAll (x y : Int) (offsets : List (Nat × Nat)) :
    (s.flipAll x y offsets).2.changed = (s.changed || !offsets.isEmpty) := by
  induction offsets generalizing s with
  | nil => exact (Bool.or_false _).symm
  | cons offset rest ih =>
    -- The first pixel marks the screen, and the others keep the mark.
    have hrest := ih (s.flip (x + offset.2) (y + offset.1)).2
    have hmarked : (s.flip (x + offset.2) (y + offset.1)).2.changed = true := rfl
    rw [hmarked, Bool.true_or] at hrest
    rw [List.isEmpty_cons, Bool.not_false, Bool.or_true]
    exact hrest

end Chip8.Screen
