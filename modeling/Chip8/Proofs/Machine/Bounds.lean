import Chip8.Proofs.Machine.Step

/-!
# Bounds that every run keeps

The index, the program counter, the word fetched last and the return addresses are integers, and
nothing in their types keeps them small. They stay small all the same, on every machine that events
can lead to. This is `Machine.Invariant`: what holds of a machine that has just been built and is kept
by every event.

The tight bounds hang together. A fetch succeeds only up to `0xFFE`, so the program counter of an
instruction that is being run lies between `2` and `0x1000` (`Machine.Invariant.fetched`), and this is
what a call puts on the stack. From there an instruction leaves the program counter alone, skips to
`0x1002` at most, jumps below `0x1000`, returns to an address between `2` and `0x1000`, or jumps by the
first register to `0xFFF + 0xFF` at most, which is the bound `0x10FE`.

* `Machine.Invariant.execute`: an instruction keeps the invariant;
* `Machine.Invariant.react`: an event keeps it, be it a faulty one;
* `Machine.Reachable.invariant`: every reachable machine has it.
-/

namespace Chip8

/-- The register that a key is awaited for, if one is. -/
def Phase.awaited? : Phase → Option Register
  | .running => none
  | .awaitingKey r => some r

namespace Machine

/-- The bounds that every run keeps. -/
structure Invariant (m : Machine) : Prop where
  index_nonneg : 0 ≤ m.index
  index_le : m.index ≤ 0xFFFF
  pc_nonneg : 0 ≤ m.pc
  pc_le : m.pc ≤ 0x10FE
  fetchedAt_nonneg : 0 ≤ m.fetchedAt
  fetchedAt_le : m.fetchedAt ≤ 0x10FE
  opcode_nonneg : 0 ≤ m.opcode
  opcode_le : m.opcode ≤ 0xFFFF
  capacity : m.stack.capacity = 16
  depth_le : m.stack.depth ≤ 16
  /-- A return address lies behind a call. -/
  items_le : ∀ address ∈ m.stack.items, 2 ≤ address ∧ address ≤ 0x1000
  size_memory : m.memory.size = 0x1000
  width : m.screen.width = 64
  height : m.screen.height = 32

variable {m : Machine}

/-- A machine that has just been built is within the bounds. -/
theorem Invariant.boot (monitor : Monitor) (noise : Noise) : (boot monitor noise).Invariant where
  index_nonneg := show (0 : Int) ≤ 0 by decide
  index_le := show (0 : Int) ≤ 0xFFFF by decide
  pc_nonneg := show (0 : Int) ≤ 0x200 by decide
  pc_le := show (0x200 : Int) ≤ 0x10FE by decide
  fetchedAt_nonneg := show (0 : Int) ≤ 0 by decide
  fetchedAt_le := show (0 : Int) ≤ 0x10FE by decide
  opcode_nonneg := show (0 : Int) ≤ 0 by decide
  opcode_le := show (0 : Int) ≤ 0xFFFF by decide
  capacity := rfl
  depth_le := Nat.zero_le _
  items_le := fun _ h => absurd h List.not_mem_nil
  size_memory := by
    change ((Memory.blank Layout.memorySize).put Layout.fontStart Layout.glyphs).size = _
    rw [Memory.size_put, Memory.size, Memory.blank, Array.size_replicate]
    rfl
  width := rfl
  height := rfl

/-! ### The parts that the bounds are about -/

/-- An instruction that only moves the program counter has only that to answer for. It is the same for the
other parts. -/
theorem Invariant.withPc (hm : m.Invariant) {pc : Int} (h0 : 0 ≤ pc) (h1 : pc ≤ 0x10FE) :
    { m with pc }.Invariant :=
  { hm with pc_nonneg := h0, pc_le := h1 }

theorem Invariant.withIndex (hm : m.Invariant) {index : Int} (h0 : 0 ≤ index)
    (h1 : index ≤ 0xFFFF) : { m with index }.Invariant :=
  { hm with index_nonneg := h0, index_le := h1 }

theorem Invariant.withRegisters (hm : m.Invariant) (registers : Vector UInt8 16) :
    { m with registers }.Invariant :=
  { hm with }

theorem Invariant.withMemory (hm : m.Invariant) {memory : Memory}
    (h : memory.size = m.memory.size) : { m with memory }.Invariant :=
  { hm with size_memory := h.trans hm.size_memory }

/-- The screen may show anything, but it must keep its size. -/
theorem Invariant.withScreen (hm : m.Invariant) {screen : Screen}
    (hwidth : screen.width = m.screen.width) (hheight : screen.height = m.screen.height) :
    { m with screen }.Invariant :=
  { hm with width := hwidth.trans hm.width, height := hheight.trans hm.height }

/-- A call with room on the stack puts an address there, and the machine stays within the bounds. -/
theorem Invariant.push (hm : m.Invariant) {address : Int} (h0 : 2 ≤ address)
    (h1 : address ≤ 0x1000) (hroom : ¬ m.stack.capacity ≤ m.stack.depth) :
    { m with stack := { m.stack with items := address :: m.stack.items } }.Invariant :=
  { hm with
    depth_le := by
      -- Room there is for sixteen, and so the depth is below that before the call.
      have hcapacity := hm.capacity
      change m.stack.items.length + 1 ≤ 16
      unfold CallStack.depth at hroom
      omega
    items_le := by
      intro a ha
      rcases List.mem_cons.mp ha with rfl | ha
      · exact ⟨h0, h1⟩
      · exact hm.items_le a ha }

/-- Without its last item a call stack is within the bounds as well. -/
theorem Invariant.pop (hm : m.Invariant) {address : Int} {rest : List Int}
    (hitems : m.stack.items = address :: rest) :
    { m with stack := { m.stack with items := rest } }.Invariant :=
  { hm with
    depth_le := by
      have hdepth := hm.depth_le
      rw [CallStack.depth, hitems, List.length_cons] at hdepth
      exact Nat.le_of_succ_le hdepth
    items_le := fun a ha => hm.items_le a (hitems ▸ List.mem_cons_of_mem _ ha) }

/-- A skip moves the program counter by two and no further. -/
theorem Invariant.skipIf (hm : m.Invariant) (hpc : m.pc ≤ 0x1000) (condition : Bool) :
    (m.skipIf condition).Invariant := by
  have h0 := hm.pc_nonneg
  cases condition with
  | false => exact hm
  | true => exact hm.withPc (by omega) (by omega)

/-! ### One event -/

/-- A fetch that succeeds moves the program counter on by two, and no further than to `0x1000`. -/
theorem Invariant.fetched (hm : m.Invariant) {word : Int} (hfetch : m.fetch = .ok word) :
    (m.fetched word).Invariant ∧ (m.fetched word).pc = m.pc + 2 ∧ m.pc ≤ 0xFFE ∧
      word = m.wordAt m.pc := by
  have h0 := hm.pc_nonneg
  have hsize := hm.size_memory
  rw [fetch_eq] at hfetch
  split at hfetch
  · rename_i hin
    -- Both bytes of the word are in memory, which is all that keeps the program counter low.
    obtain ⟨-, hlast⟩ := hin
    have hle : m.pc ≤ 0xFFE := by omega
    obtain rfl := Except.ok.inj hfetch
    obtain ⟨hword0, hword1⟩ := m.wordAt_bounds m.pc
    have hpc : (m.fetched (m.wordAt m.pc)).pc = m.pc + 2 := by
      change (m.pc + 2) % 0x10000 = m.pc + 2
      omega
    refine ⟨?_, hpc, hle, rfl⟩
    exact { hm with
      pc_nonneg := by omega
      pc_le := by omega
      fetchedAt_nonneg := h0
      fetchedAt_le := hm.pc_le
      opcode_nonneg := hword0
      opcode_le := Int.lt_add_one_iff.mp hword1 }
  · cases hfetch

/-- An instruction keeps the invariant, wherever the program counter can be when it is run. -/
theorem Invariant.execute {i : Instruction} {after : Machine} (hm : m.Invariant)
    (hlow : 2 ≤ m.pc) (hhigh : m.pc ≤ 0x1000) (hrefusal : m.refusal? i = none)
    (h : execute i m = .ok () after) : after.Invariant := by
  obtain ⟨form, o⟩ := i
  -- The instruction is any of those that there are, and its address has twelve bits.
  have haddress := o.nnn.isLt
  cases form with
  | clear =>
    cases h
    exact hm.withScreen rfl rfl
  | ret =>
    obtain ⟨address, rest, hitems⟩ := items_of_ret_admitted hrefusal
    rw [execute_ret_of_cons o hitems] at h
    cases h
    -- Back behind a call, where the item came from.
    have hbounds := hm.items_le address (hitems ▸ List.mem_cons_self)
    exact (hm.pop hitems).withPc (by omega) (by omega)
  | call =>
    have hroom := room_of_call_admitted hrefusal
    rw [execute_call_of_room o hroom] at h
    cases h
    -- The program counter is behind the call already, and that is the new item.
    exact (hm.push hlow hhigh hroom).withPc (by omega) (by omega)
  | jump =>
    cases h
    exact hm.withPc (by omega) (by omega)
  | jumpFrom =>
    cases h
    -- The address has twelve bits and the register eight, and their sum is not reduced.
    have hfirst := (m.register firstRegister).toNat_lt
    exact hm.withPc (by omega) (by omega)
  | skipIfByte | skipUnlessByte | skipIfEqual | skipUnlessEqual | skipIfHeld | skipUnlessHeld =>
    cases h
    exact hm.skipIf hhigh _
  | setIndex =>
    cases h
    exact hm.withIndex (by omega) (by omega)
  | addIndex =>
    cases h
    exact hm.withIndex (by omega) (by omega)
  | glyph =>
    cases h
    have hdigit := (m.register o.x).toNat_lt
    refine hm.withIndex ?_ ?_
    · simp only [Layout.fontStart, Layout.glyphHeight]
      omega
    · simp only [Layout.fontStart, Layout.glyphHeight]
      omega
  | draw =>
    rw [execute_draw_of_no_refusal o hrefusal] at h
    cases h
    obtain ⟨hwidth, hheight⟩ := Screen.flipAll_width m.screen (m.register o.x).toNat
      (m.register o.y).toNat (Sprite.pixels (m.memory.slice m.index.toNat o.n.val))
    exact (hm.withScreen hwidth hheight).withRegisters _
  | decimal =>
    rw [execute_decimal_of_no_refusal o hrefusal] at h
    cases h
    exact hm.withMemory (Memory.size_put ..)
  | store =>
    rw [execute_store_of_no_refusal o hrefusal] at h
    cases h
    exact hm.withMemory (Memory.size_put ..)
  | load =>
    rw [execute_load_of_no_refusal o hrefusal] at h
    cases h
    exact hm.withRegisters _
  | awaitKey | setDelay | setSound | random =>
    -- The phase, the timers and the noise are free.
    cases h
    exact { hm with }
  | _ =>
    -- What is left sets registers only.
    cases h
    exact hm.withRegisters _

/-- A look for a key touches a register and the phase, which are free. -/
theorem Invariant.pollKeypad (hm : m.Invariant) (r : Register) : (m.pollKeypad r).Invariant := by
  unfold Machine.pollKeypad
  split
  · exact hm
  · exact { hm with }

/-- A cycle keeps the invariant, also one that raises a fault. -/
theorem Invariant.cycle (hm : m.Invariant) : m.cycle.machine.Invariant := by
  have hstep := m.step_cycle
  generalize m.cycle = o at hstep ⊢
  cases hstep with
  | poll r => exact hm.pollKeypad r
  | unfetched fault hphase hfetch =>
    exact { hm with fetchedAt_nonneg := hm.pc_nonneg, fetchedAt_le := hm.pc_le }
  | unrecognized word hphase hfetch hword => exact (hm.fetched hfetch).1
  | refused word i fault hphase hfetch hword hrefusal => exact (hm.fetched hfetch).1
  | obeyed word i after hphase hfetch hword hrefusal hexecute =>
    -- The fetch has put the program counter between `2` and `0x1000`.
    obtain ⟨hfetched, hpc, hle, -⟩ := hm.fetched hfetch
    have h0 := hm.pc_nonneg
    exact hfetched.execute (by omega) (by omega) hrefusal hexecute

/-- A program is loaded into memory, which keeps its size, or is too large and not loaded. -/
theorem Invariant.loadRom (hm : m.Invariant) (rom : List UInt8) :
    (m.react (.loadRom rom)).machine.Invariant := by
  simp only [react, Machine.loadRom]
  cases hload : m.memory.loadRom rom with
  | error fault => exact hm
  | ok memory => exact hm.withMemory (Memory.size_of_loadRom hload)

/-- Every event keeps the invariant. -/
theorem Invariant.react (hm : m.Invariant) (event : Event) : (m.react event).machine.Invariant := by
  cases event with
  | loadRom rom => exact hm.loadRom rom
  | cycle => exact hm.cycle
  | consumeChanged => exact hm.withScreen rfl rfl
  | _ => exact { hm with }

/-- Every reachable machine is within the bounds. -/
theorem Reachable.invariant (hm : m.Reachable) : m.Invariant := by
  induction hm with
  | boot monitor noise => exact .boot monitor noise
  | step event _ ih => exact ih.react event

/-- A machine within the bounds moves on without its program counter wrapping round, once to pass an
instruction and once more to skip one. -/
theorem Invariant.pc_advance (hm : m.Invariant) :
    m.advance.pc = m.pc + 2 ∧ m.advance.advance.pc = m.pc + 4 := by
  have h0 := hm.pc_nonneg
  have h1 := hm.pc_le
  change (m.pc + 2) % 0x10000 = m.pc + 2 ∧ ((m.pc + 2) % 0x10000 + 2) % 0x10000 = m.pc + 4
  omega

/-- **The bounds of every run.** Whatever happens to a machine from the moment it is built, and
whichever faults that raises on the way: registers and timers hold bytes, the index and the word
fetched last have sixteen bits, the program counter never wraps round and stays below `0x10FF`, there
are at most sixteen return addresses, memory and screen keep their sizes, and a key is awaited for a
register exactly as long as the machine does not run. -/
theorem bounds_after (monitor : Monitor) (noise : Noise) (events : List Event) :
    let m := (boot monitor noise).after events
    (∀ r, (m.register r).toNat ≤ 0xFF) ∧
      (0 ≤ m.index ∧ m.index ≤ 0xFFFF) ∧
      (0 ≤ m.pc ∧ m.pc ≤ 0x10FE) ∧ (0 ≤ m.fetchedAt ∧ m.fetchedAt ≤ 0x10FE) ∧
      (m.advance.pc = m.pc + 2 ∧ m.advance.advance.pc = m.pc + 4) ∧
      (0 ≤ m.opcode ∧ m.opcode ≤ 0xFFFF) ∧
      (m.stack.depth ≤ 16 ∧ ∀ address ∈ m.stack.items, 2 ≤ address ∧ address ≤ 0x1000) ∧
      (m.timers.delay.toNat ≤ 0xFF ∧ m.timers.sound.toNat ≤ 0xFF) ∧
      m.memory.size = 4096 ∧
      (m.screen.cells.size = 2048 ∧ m.screen.width = 64 ∧ m.screen.height = 32) ∧
      (m.phase = .running ↔ m.phase.awaited? = none) ∧
      (m.isAwaitingKey = true ↔ ∃ r : Register, r.val ≤ 15 ∧ m.phase.awaited? = some r) := by
  intro m
  have hm : m.Invariant := ((Reachable.boot monitor noise).after events).invariant
  -- The number of cells comes of the size of the screen, which its type keeps in step with them.
  have hcells : m.screen.cells.size = 2048 := by
    rw [m.screen.size_cells, hm.width, hm.height]
    rfl
  refine ⟨fun r => Nat.lt_succ_iff.mp (m.register r).toNat_lt, ⟨hm.index_nonneg, hm.index_le⟩,
    ⟨hm.pc_nonneg, hm.pc_le⟩, ⟨hm.fetchedAt_nonneg, hm.fetchedAt_le⟩, hm.pc_advance,
    ⟨hm.opcode_nonneg, hm.opcode_le⟩, ⟨hm.depth_le, hm.items_le⟩,
    ⟨Nat.lt_succ_iff.mp m.timers.delay.toNat_lt, Nat.lt_succ_iff.mp m.timers.sound.toNat_lt⟩,
    hm.size_memory, ⟨hcells, hm.width, hm.height⟩, ?_, ?_⟩
  · -- To await a key is the one phase other than running, and it names its register.
    cases m.phase with
    | running => simp [Phase.awaited?]
    | awaitingKey r => simp [Phase.awaited?]
  · unfold isAwaitingKey
    cases m.phase with
    | running => simp [Phase.awaited?]
    | awaitingKey r => simp [Phase.awaited?, Nat.le_of_lt_succ r.isLt]

end Machine

end Chip8
