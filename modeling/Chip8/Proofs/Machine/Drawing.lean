import Chip8.Proofs.Machine.Faults
import Chip8.Proofs.Screen.Coverage

/-!
# The instruction that draws

Drawing takes a sprite from memory, where the index points, and a position from two registers, and it
leaves its answer in the flag register. `Machine.Inverts` says which pixels that concerns, in terms of
memory and registers alone, and `Machine.Drawn` what becomes of the display and of the registers.

On a screen of 64 columns and 32 rows a sprite of at most fifteen rows never meets itself. So every pixel
beneath it is inverted once, and the flag tells whether one of them was lit (`Machine.perform_drawn`). A
cycle performs the word that it has fetched, wherever the two operands are, and the flag is written last.

What is drawn twice is as if it had not been drawn at all: a pixel that the first drawing puts out is lit
again by the second (`Machine.Drawn.undone`). Both must be at one position, which is why neither of the two
registers may be the one that takes the flag.
-/

namespace Chip8

namespace Machine

/-- The pixel in a column and a row of the screen lies beneath a set bit of the sprite that the index
points to, when it is drawn at the position that the registers give. -/
def Inverts (m : Machine) (o : Operands) (column row : Nat) : Prop :=
  ∃ r < o.n.val, ∃ c < 8, (m.memory.byteAt (m.index.toNat + r)).toNat &&& (0x80 >>> c) ≠ 0 ∧
    ((m.register o.x).toNat + c) % 64 = column ∧ ((m.register o.y).toNat + r) % 32 = row

instance (m : Machine) (o : Operands) (column row : Nat) : Decidable (m.Inverts o column row) :=
  inferInstanceAs (Decidable (∃ r < o.n.val, ∃ c < 8, _))

/-- Some pixel beneath the sprite is lit, or some pixel beneath it is dark. -/
def Finds (m : Machine) (o : Operands) (lit : Bool) : Prop :=
  ∃ column < 64, ∃ row < 32, m.Inverts o column row ∧ m.screen.pixel column row = lit

instance (m : Machine) (o : Operands) (lit : Bool) : Decidable (m.Finds o lit) :=
  inferInstanceAs (Decidable (∃ column < 64, ∃ row < 32, _))

/-- What a drawing leaves of a machine. -/
structure Drawn (m : Machine) (o : Operands) (after : Machine) : Prop where
  width : after.screen.width = 64
  height : after.screen.height = 32
  inverted {column row : Nat} (hcolumn : column < 64) (hrow : row < 32)
    (hbeneath : m.Inverts o column row) :
    after.screen.pixel column row = !m.screen.pixel column row
  others {column row : Nat} (hcolumn : column < 64) (hrow : row < 32)
    (hbeside : ¬ m.Inverts o column row) :
    after.screen.pixel column row = m.screen.pixel column row
  flag_one (hhit : m.Finds o true) : after.register flagRegister = 1
  flag_zero (hmiss : ¬ m.Finds o true) : after.register flagRegister = 0
  registers {r : Register} (hother : r ≠ flagRegister) : after.register r = m.register r
  index : after.index = m.index
  memory : after.memory = m.memory

/-- The machine would draw the same sprite at the same position onto the same pixels as another one. -/
structure SameDrawing (m : Machine) (o : Operands) (again : Machine) : Prop where
  memory : again.memory = m.memory
  index : again.index = m.index
  left : again.register o.x = m.register o.x
  top : again.register o.y = m.register o.y
  width : again.screen.width = m.screen.width
  height : again.screen.height = m.screen.height
  cells : again.screen.cells = m.screen.cells

/-- The display is what it was on the machine before a drawing, and the flag tells whether that drawing
has lit a pixel. -/
def Undone (m : Machine) (o : Operands) (last : Outcome) : Prop :=
  last.fault = none ∧ last.machine.screen.cells = m.screen.cells ∧
    (m.Finds o false → last.machine.register flagRegister = 1) ∧
    (¬ m.Finds o false → last.machine.register flagRegister = 0)

variable {m after again last : Machine} {o : Operands} {word : Int} {column row : Nat}

/-! ### One drawing -/

/-- A byte of a slice of memory is one of memory. -/
theorem getD_slice (memory : Memory) (address : Nat) {count r : Nat} (h : r < count) :
    (memory.slice address count).getD r 0 = memory.byteAt (address + r) := by
  rw [Memory.slice, List.getD_eq_getElem?_getD, List.getElem?_map, List.getElem?_range h]
  rfl

/-- The pixels that the sprite covers, told by memory and registers. -/
theorem coverage_pos_iff_inverts (hwidth : m.screen.width = 64) (hheight : m.screen.height = 32) :
    1 ≤ m.screen.coverage (m.register o.x).toNat (m.register o.y).toNat
        (m.memory.slice m.index.toNat o.n.val) column row ↔ m.Inverts o column row := by
  rw [Screen.coverage_pos_iff, hwidth, hheight, Memory.length_slice]
  refine exists_congr fun r => and_congr_right fun hr => exists_congr fun c =>
    and_congr_right fun _ => ?_
  rw [getD_slice _ _ hr]
  refine and_congr_right fun _ => ?_
  omega

/-- Drawing inverts the pixels beneath the sprite, and the flag tells whether one of them was lit. -/
theorem drawn_of_draw (hwidth : m.screen.width = 64) (hheight : m.screen.height = 32)
    (o : Operands) :
    let drawn := m.screen.draw (m.register o.x).toNat (m.register o.y).toNat
      (m.memory.slice m.index.toNat o.n.val)
    m.Drawn o ({ m with screen := drawn.2 }.setFlag drawn.1) := by
  intro drawn
  have hwide : 8 ≤ m.screen.width := by omega
  have hlow : 1 ≤ m.screen.height := by omega
  -- A nibble of rows fits into thirty-two of them.
  have htall : ((m.memory.slice m.index.toNat o.n.val).length : Int) ≤ m.screen.height := by
    rw [Memory.length_slice]
    omega
  have hpixel : ∀ {column row : Nat}, column < 64 →
      drawn.2.pixel column row =
        (m.screen.pixel column row ^^ decide (m.Inverts o column row)) := by
    intro column row hcolumn
    rw [← decide_eq_decide.mpr (coverage_pos_iff_inverts hwidth hheight)]
    exact m.screen.pixel_draw_of_fits hwide hlow htall (by omega)
  -- The answer of the drawing is about covered pixels, and these are the ones beneath the sprite.
  have hhit : drawn.1 = true ↔ m.Finds o true := by
    refine (m.screen.draw_hit_iff_of_fits hwide hlow htall).trans ?_
    rw [hwidth, hheight]
    constructor
    · rintro ⟨column, row, hcolumn, hrow, hcovered, hlit⟩
      exact ⟨column, by omega, row, by omega,
        (coverage_pos_iff_inverts hwidth hheight).mp hcovered, hlit⟩
    · rintro ⟨column, hcolumn, row, hrow, hbeneath, hlit⟩
      exact ⟨column, row, by omega, by omega,
        (coverage_pos_iff_inverts hwidth hheight).mpr hbeneath, hlit⟩
  obtain ⟨hsameWidth, hsameHeight⟩ := m.screen.flipAll_width (m.register o.x).toNat
    (m.register o.y).toNat (Sprite.pixels (m.memory.slice m.index.toNat o.n.val))
  -- The answer goes to the flag register, as one or zero.
  have hflag : ({ m with screen := drawn.2 }.setFlag drawn.1).register flagRegister =
      if drawn.1 then 1 else 0 := by
    rw [setFlag, register_setRegister, if_pos rfl]
  refine
    { width := hsameWidth.trans hwidth
      height := hsameHeight.trans hheight
      inverted := fun hcolumn hrow hbeneath => ?_
      others := fun hcolumn hrow hbeside => ?_
      flag_one := fun hfinds => ?_
      flag_zero := fun hmiss => ?_
      registers := fun hother => ?_
      index := rfl
      memory := rfl }
  · show drawn.2.pixel _ _ = _
    rw [hpixel hcolumn, decide_eq_true hbeneath, Bool.xor_true]
  · show drawn.2.pixel _ _ = _
    rw [hpixel hcolumn, decide_eq_false hbeside, Bool.xor_false]
  · rw [hflag, if_pos (hhit.mpr hfinds)]
  · rw [hflag, if_neg fun htrue => hmiss (hhit.mp htrue)]
  · rw [setFlag, register_setRegister, if_neg hother]
    rfl

/-- A word that draws, and is not refused, leaves a machine as a drawing does. -/
theorem perform_drawn (hform : Form.draw.Fits word) (hwidth : m.screen.width = 64)
    (hheight : m.screen.height = 32)
    (hadmitted : m.spanRefusal? (Operands.ofWord word).n.val = none) :
    (m.perform word).fault = none ∧ m.Drawn (Operands.ofWord word) (m.perform word).machine := by
  have hexecute := execute_draw_of_no_refusal (m := { m with opcode := word })
    (Operands.ofWord word) hadmitted
  rw [perform_of_execute (Instruction.ofWord?_of_fits hform) hexecute]
  -- What is drawn does not depend on the word that is noted.
  have hdrawn := m.drawn_of_draw hwidth hheight (Operands.ofWord word)
  exact ⟨rfl, { hdrawn with }⟩

/-! ### The same drawing once more -/

/-- A machine that would draw the same inverts the same pixels. -/
theorem SameDrawing.inverts_iff (h : m.SameDrawing o again) :
    again.Inverts o column row ↔ m.Inverts o column row := by
  rw [Inverts, Inverts, h.memory, h.index, h.left, h.top]

/-- It finds each pixel as the first machine has it. -/
theorem SameDrawing.pixel_eq (h : m.SameDrawing o again) (column row : Nat) :
    again.screen.pixel column row = m.screen.pixel column row := by
  rw [Screen.pixel, Screen.pixel, h.cells, h.width]

/-- A drawing leaves the same sprite and the same position, unless the flag is one of its coordinates. -/
theorem Drawn.inverts_iff (h : m.Drawn o after) (hx : o.x ≠ flagRegister)
    (hy : o.y ≠ flagRegister) : after.Inverts o column row ↔ m.Inverts o column row := by
  rw [Inverts, Inverts, h.memory, h.index, h.registers hx, h.registers hy]

/-- Drawing the same once more takes the drawing back. -/
theorem Drawn.undone (hwidth : m.screen.width = 64) (hheight : m.screen.height = 32)
    (h : m.Drawn o after) (hx : o.x ≠ flagRegister) (hy : o.y ≠ flagRegister)
    (hsame : after.SameDrawing o again) (hlast : again.Drawn o last) :
    last.screen.cells = m.screen.cells ∧
      (m.Finds o false → last.register flagRegister = 1) ∧
      (¬ m.Finds o false → last.register flagRegister = 0) := by
  -- Both drawings are over the same pixels, since the first one leaves the position alone.
  have hinverts : ∀ {column row : Nat}, again.Inverts o column row ↔ m.Inverts o column row :=
    hsame.inverts_iff.trans (h.inverts_iff hx hy)
  have hpixel : ∀ column row : Nat, column < 64 → row < 32 →
      last.screen.pixel column row = m.screen.pixel column row := by
    intro column row hcolumn hrow
    by_cases hbeneath : m.Inverts o column row
    · -- Inverted twice.
      rw [hlast.inverted hcolumn hrow (hinverts.mpr hbeneath), hsame.pixel_eq,
        h.inverted hcolumn hrow hbeneath, Bool.not_not]
    · rw [hlast.others hcolumn hrow fun hagain => hbeneath (hinverts.mp hagain), hsame.pixel_eq,
        h.others hcolumn hrow hbeneath]
  -- What the second drawing finds lit is what the first one has found dark.
  have hfinds : again.Finds o true ↔ m.Finds o false := by
    refine exists_congr fun column => and_congr_right fun hcolumn => exists_congr fun row =>
      and_congr_right fun hrow => ?_
    rw [hinverts, hsame.pixel_eq]
    refine and_congr_right fun hbeneath => ?_
    rw [h.inverted hcolumn hrow hbeneath, Bool.not_eq_true_eq_eq_false]
  refine ⟨?_, fun hdark => hlast.flag_one (hfinds.mpr hdark),
    fun hlit => hlast.flag_zero fun hfound => hlit (hfinds.mp hfound)⟩
  refine Screen.cells_eq_of_pixel (by omega) (by omega) (hlast.width.trans hwidth.symm)
    (hlast.height.trans hheight.symm) fun column row hcolumn hrow => ?_
  exact hpixel column row (by omega) (by omega)

/-- **The instruction that draws.** A reachable machine that meets it draws, unless the sprite has rows
behind memory. Every pixel beneath the sprite is inverted and no other, the flag tells whether one of them
was lit, and nothing else changes but what the fetch has noted. If the flag register gives none of the two
coordinates, drawing the same once more takes the drawing back, and the flag then tells whether a pixel
beneath the sprite was dark before. The word can be performed once more on the spot, or be met by a later
cycle. -/
theorem Reachable.draw_inverts (hm : m.Reachable) (hword : m.Meets word)
    (hform : Form.draw.Fits word)
    (hrows : word % 0x10 = 0 ∨ m.index + word % 0x10 - 1 ≤ 0xFFF) :
    let o := Operands.ofWord word
    (m.cycle.fault = none ∧ m.Drawn o m.cycle.machine ∧
      m.cycle.machine = { m with
        fetchedAt := m.pc
        opcode := word
        pc := m.pc + 2
        screen := m.cycle.machine.screen
        registers := m.cycle.machine.registers }) ∧
    (o.x ≠ flagRegister → o.y ≠ flagRegister → ∀ again, m.cycle.machine.SameDrawing o again →
      m.Undone o (again.perform word) ∧
        (again.Reachable → again.Meets word → m.Undone o again.cycle)) := by
  intro o
  have hinv := hm.invariant
  obtain ⟨hphase, hfetch⟩ := hinv.meets_iff.mp hword
  have hrowsLength : (o.n.val : Int) = word % 0x10 := Operands.n_ofWord word
  -- A sprite that ends within memory is not refused, and neither is one of no rows.
  have hadmitted : m.spanRefusal? o.n.val = none := by
    rw [Option.eq_none_iff_forall_ne_some]
    intro fault hrefusal
    obtain ⟨hsome, hbehind, -⟩ := hinv.spanRefusal?_eq_some_iff.mp hrefusal
    omega
  -- The machine that performs the word is the one that has fetched it.
  have hcycle : m.cycle = (m.fetched word).perform word := cycle_eq_perform hphase hfetch
  obtain ⟨hfault, hfetched⟩ :=
    perform_drawn (m := m.fetched word) hform hinv.width hinv.height hadmitted
  rw [← hcycle] at hfault hfetched
  have hdrawn : m.Drawn o m.cycle.machine := { hfetched with }
  have hrest : m.cycle.machine = { m with
      fetchedAt := m.pc
      opcode := word
      pc := m.pc + 2
      screen := m.cycle.machine.screen
      registers := m.cycle.machine.registers } := by
    rw [hword.cycle_of_execute hinv hform (execute_draw_of_no_refusal o hadmitted),
      hinv.fetched_eq hfetch]
    rfl
  refine ⟨⟨hfault, hdrawn, hrest⟩, fun hx hy again hsame => ?_⟩
  -- The second drawing may be performed on the spot or by a later cycle, and both perform the word.
  have hperform : ∀ here : Machine, m.cycle.machine.SameDrawing o here →
      m.Undone o (here.perform word) := by
    intro here hhere
    have hadmittedAgain : here.spanRefusal? o.n.val = none := by
      rw [spanRefusal?, hhere.memory, hhere.index, hdrawn.memory, hdrawn.index]
      exact hadmitted
    obtain ⟨hended, hlast⟩ := perform_drawn hform (hhere.width.trans hdrawn.width)
      (hhere.height.trans hdrawn.height) hadmittedAgain
    exact ⟨hended, hdrawn.undone hinv.width hinv.height hx hy hhere hlast⟩
  refine ⟨hperform again hsame, fun hagain hmet => ?_⟩
  obtain ⟨hrunning, hfound⟩ := hagain.invariant.meets_iff.mp hmet
  rw [cycle_eq_perform hrunning hfound]
  exact hperform _ { hsame with }

/-- A machine about to draw a glyph over the lower right corner of the screen, in a loop. -/
def cornered : Machine :=
  (boot {} (Noise.cycling [])).after
    [.loadRom [0x60, 0x3E, 0x61, 0x1E, 0xD0, 0x15, 0x12, 0x04], .cycle, .cycle]

theorem cornered_reachable : cornered.Reachable := by
  unfold cornered
  exact (Reachable.boot _ _).after _

/-- What happens to it between two drawings. -/
def corneredRun : List Event :=
  [.consumeChanged, .tick, .cycle]

/-- The glyph wraps around the corner. It is drawn, and drawn once more by the loop, and then the screen is as
before and the flag is set. -/
theorem draw_inverts_cornered :
    let again := cornered.cycle.machine.after corneredRun
    cornered.Meets 0xD015 ∧ cornered.cycle.machine.screen.pixel 1 31 = true ∧
      cornered.cycle.machine.screen.pixel 0 31 = false ∧
      again.Meets 0xD015 ∧ again.cycle.machine.screen.cells = cornered.screen.cells ∧
      again.cycle.machine.register flagRegister = 1 := by
  intro again
  have hword : cornered.Meets 0xD015 := by decide +kernel
  have hform : Form.draw.Fits 0xD015 := by decide
  have hindex : cornered.index = 0 := by decide +kernel
  obtain ⟨⟨-, hdrawn, -⟩, htwice⟩ :=
    cornered_reachable.draw_inverts hword hform (.inr (by rw [hindex]; decide))
  -- The second row of the glyph has its middle bits clear.
  obtain ⟨hbeneath, hbeside, hdark, hdark'⟩ :
      cornered.Inverts (Operands.ofWord 0xD015) 1 31 ∧
        ¬ cornered.Inverts (Operands.ofWord 0xD015) 0 31 ∧
        cornered.screen.pixel 1 31 = false ∧ cornered.screen.pixel 0 31 = false := by
    decide +kernel
  have hfinds : cornered.Finds (Operands.ofWord 0xD015) false :=
    ⟨1, by decide, 31, by decide, hbeneath, hdark⟩
  -- Between the two drawings there is a jump, and nothing that the drawing looks at.
  have hjumps : Form.jump.Fits 0x1204 := by decide
  have hkept : ∀ here : Machine, here.Reachable → (here.after [.consumeChanged, .tick]).Meets 0x1204 →
      here.SameDrawing (Operands.ofWord 0xD015) (here.after corneredRun) := by
    intro here hhere hjump
    have hcycle := hjump.cycle_of_execute (hhere.after _).invariant hjumps rfl
    change here.SameDrawing _ (here.after [.consumeChanged, .tick]).cycle.machine
    rw [hcycle]
    exact ⟨rfl, rfl, rfl, rfl, rfl, rfl, rfl⟩
  have hreached : cornered.cycle.machine.Reachable := cornered_reachable.step .cycle
  have hsame := hkept _ hreached (by decide +kernel)
  have hmet : again.Meets 0xD015 := by decide +kernel
  obtain ⟨-, hundone⟩ := htwice (by decide) (by decide) again hsame
  obtain ⟨-, hcells, hflag, -⟩ := hundone (hreached.after corneredRun) hmet
  refine ⟨hword, ?_, ?_, hmet, hcells, hflag hfinds⟩
  · rw [hdrawn.inverted (by decide) (by decide) hbeneath, hdark]
    rfl
  · rw [hdrawn.others (by decide) (by decide) hbeside, hdark']

end Machine

end Chip8
