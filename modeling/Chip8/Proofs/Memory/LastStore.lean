import Chip8.Proofs.Memory.Block

/-!
# What memory holds after any accesses

A memory of any size is asked in turn to store bytes and to give them back, at addresses that may be
anything at all. Only the two ends of a run are ever checked, and yet nothing more is needed: a run is
admitted exactly if it lies in memory as a whole, and where it is refused nothing changes. An address
that lies in memory holds what was stored there last, by an access that was admitted and covered it; if
there was none it holds what it held at the beginning.

One access is followed at one address (`Memory.byteAt_serve`), and what a sequence leaves there is by
induction what the last of its stores has left (`Memory.byteAt_serveAll`). Reading gives back nothing
else (`Memory.readBlock_serveAll`).

* `Memory.last_stored_is_read`: which accesses are admitted after any others, and what is read.
-/

namespace Chip8

/-- What memory is asked for. -/
inductive Access
  | write (address : Int) (byte : UInt8)
  | writeBlock (address : Int) (block : List UInt8)
  | read (address : Int)
  | readBlock (address count : Int)

namespace Access

/-- Where the access begins. -/
def address : Access → Int
  | .write address _ | .writeBlock address _ | .read address | .readBlock address _ => address

/-- The bytes that the access is to store. -/
def block : Access → List UInt8
  | .write _ byte => [byte]
  | .writeBlock _ block => block
  | .read _ | .readBlock .. => []

/-- The byte that the access leaves at a place of a memory of the given size. There is one if the access
stores bytes, if all of them lie in memory and if the place is among theirs. -/
def stored? (size place : Nat) (access : Access) : Option UInt8 :=
  if 0 ≤ access.address ∧ access.address + access.block.length ≤ size ∧ access.address ≤ place then
    access.block[place - access.address.toNat]?
  else none

/-- The byte that was left last at a place, if any of the accesses has left one. -/
def lastStored? (size place : Nat) (accesses : List Access) : Option UInt8 :=
  accesses.reverse.findSome? (stored? size place)

/-- A byte that a later access has left counts before the one of the first. -/
theorem lastStored?_cons (size place : Nat) (access : Access) (accesses : List Access) :
    lastStored? size place (access :: accesses) =
      (lastStored? size place accesses).or (access.stored? size place) := by
  rw [lastStored?, List.reverse_cons, List.findSome?_append, List.findSome?_singleton]
  rfl

end Access

namespace Memory

variable {m : Memory}

/-- The memory after an access. Reading gives no other memory, and neither does what is refused. -/
def serve (m : Memory) : Access → Memory
  | .write address byte => (m.write address byte.toNat).toOption.getD m
  | .writeBlock address block => (m.writeBlock address block).toOption.getD m
  | .read _ | .readBlock .. => m

/-- The memory after accesses in turn. -/
def serveAll (m : Memory) (accesses : List Access) : Memory :=
  accesses.foldl serve m

/-- The byte that a place holds after accesses: the last that was left there, or the one that it held
before all of them. -/
def lastByte (m : Memory) (accesses : List Access) (place : Nat) : UInt8 :=
  (Access.lastStored? m.size place accesses).getD (m.byteAt place)

/-! ### One access -/

/-- Storing a byte is storing a block of one. -/
theorem write_eq_writeBlock (m : Memory) (address : Int) (byte : UInt8) :
    m.write address byte.toNat = (m.writeBlock address [byte]).mapError .fault := by
  have hbyte : byteOf byte.toNat = .ok byte := by
    have hlt := byte.toNat_lt
    rw [byteOf, if_pos (by omega), Int.toNat_natCast, UInt8.ofNat_toNat]
  -- For one byte the block lies in memory if its address does.
  have hholds : m.Holds address (1 : Nat) ↔ 0 ≤ address ∧ address < m.size :=
    and_congr_right fun _ => Int.add_one_le_iff
  rw [write, hbyte, writeBlock_of_ne_nil _ _ (List.cons_ne_nil _ _), List.length_singleton, check_eq]
  by_cases hin : 0 ≤ address ∧ address < m.size
  · rw [if_pos hin, if_pos (hholds.mpr hin)]
    rfl
  · -- The address is the first of the run, and it is the one that is outside.
    rw [if_neg hin, if_neg (mt hholds.mp hin), firstOutside, if_neg hin]
    rfl

/-- Reading a byte is reading a block of one. -/
theorem readBlock_one (m : Memory) (address : Int) :
    m.readBlock address 1 = (m.read address).map ([·]) := by
  have hholds : m.Holds address 1 ↔ 0 ≤ address ∧ address < m.size :=
    and_congr_right fun _ => Int.add_one_le_iff
  rw [readBlock_of_pos _ _ Int.one_pos, read, check_eq]
  by_cases hin : 0 ≤ address ∧ address < m.size
  · rw [if_pos hin, if_pos (hholds.mpr hin)]
    rfl
  · rw [if_neg hin, if_neg (mt hholds.mp hin), firstOutside, if_neg hin]
    rfl

/-- So a memory serves both in the same way. -/
theorem serve_write (m : Memory) (address : Int) (byte : UInt8) :
    m.serve (.write address byte) = m.serve (.writeBlock address [byte]) := by
  rw [serve, serve, write_eq_writeBlock]
  cases m.writeBlock address [byte] <;> rfl

/-- An access that is to store bytes puts them into memory if they lie there, and else does nothing. -/
theorem serve_eq (m : Memory) (access : Access) :
    m.serve access =
      if m.Holds access.address access.block.length then m.put access.address.toNat access.block
      else m := by
  have hstore : ∀ address block, m.serve (.writeBlock address block) =
      if m.Holds address block.length then m.put address.toNat block else m := by
    intro address block
    cases block with
    | nil =>
      -- An empty block can be refused, but there is nothing that it could have changed.
      rw [serve, writeBlock, check_eq, check_eq]
      split <;> split <;> split <;> rfl
    | cons byte rest =>
      rw [serve, writeBlock_of_ne_nil _ _ (List.cons_ne_nil _ _)]
      split <;> rfl
  cases access with
  | write address byte =>
    rw [serve_write]
    exact hstore address [byte]
  | writeBlock address block => exact hstore address block
  | read address => exact (ite_self m).symm
  | readBlock address count => exact (ite_self m).symm

/-- No access changes the size. -/
theorem size_serve (m : Memory) (access : Access) : (m.serve access).size = m.size := by
  rw [serve_eq]
  split
  · exact size_put ..
  · rfl

/-- What an access leaves at a place. -/
theorem byteAt_serve (m : Memory) (access : Access) (place : Nat) :
    (m.serve access).byteAt place = (access.stored? m.size place).getD (m.byteAt place) := by
  rw [serve_eq, Access.stored?]
  -- A block is admitted or refused as a whole. If it is admitted, a place is before it, in it or behind
  -- it.
  by_cases hin : m.Holds access.address access.block.length
  · obtain ⟨hlow, hhigh⟩ := hin
    have hput := m.byteAt_put access.address.toNat place access.block (by omega)
    rw [if_pos ⟨hlow, hhigh⟩, hput, List.getD_eq_getElem?_getD]
    by_cases hfrom : access.address ≤ place
    · rw [if_pos (show 0 ≤ access.address ∧ _ ∧ _ from ⟨hlow, hhigh, hfrom⟩)]
      by_cases hto : place - access.address.toNat < access.block.length
      · rw [if_pos (by omega), List.getElem?_eq_getElem hto]
        rfl
      · -- Behind the last byte of the block there is nothing to be left.
        rw [if_neg (by omega), List.getElem?_eq_none (Nat.le_of_not_lt hto)]
        rfl
    · rw [if_neg (by omega), if_neg (show ¬ (0 ≤ access.address ∧ _ ∧ _) from fun h => hfrom h.2.2)]
      rfl
  · rw [if_neg hin, if_neg fun h => hin ⟨h.1, h.2.1⟩]
    rfl

/-! ### Any number of accesses -/

/-- So no number of accesses does. -/
theorem size_serveAll (m : Memory) (accesses : List Access) :
    (m.serveAll accesses).size = m.size := by
  induction accesses generalizing m with
  | nil => rfl
  | cons access rest ih => exact (ih (m.serve access)).trans (m.size_serve access)

/-- A place holds what was stored there last. -/
theorem byteAt_serveAll (m : Memory) (accesses : List Access) (place : Nat) :
    (m.serveAll accesses).byteAt place = m.lastByte accesses place := by
  -- The induction takes the first access off, since it is the memory after it that the others find.
  induction accesses generalizing m with
  | nil => rfl
  | cons access rest ih =>
    -- What the first access leaves is what the place held before the others.
    calc (m.serveAll (access :: rest)).byteAt place
        = (m.serve access).lastByte rest place := ih (m.serve access)
      _ = (Access.lastStored? m.size place rest).getD
            ((access.stored? m.size place).getD (m.byteAt place)) := by
          rw [lastByte, size_serve, byteAt_serve]
      _ = m.lastByte (access :: rest) place := by
          rw [lastByte, Access.lastStored?_cons]
          cases Access.lastStored? m.size place rest <;> rfl

theorem holds_serveAll (m : Memory) (accesses : List Access) (address count : Int) :
    (m.serveAll accesses).Holds address count ↔ m.Holds address count := by
  rw [Holds, Holds, size_serveAll]

theorem firstOutside_serveAll (m : Memory) (accesses : List Access) (address count : Int) :
    (m.serveAll accesses).firstOutside address count = m.firstOutside address count := by
  rw [firstOutside, firstOutside, size_serveAll]

/-- What is read after accesses, where it lies in memory. -/
theorem readBlock_serveAll (m : Memory) (accesses : List Access) (address : Int) {count : Int}
    (hpos : 0 < count) :
    (m.serveAll accesses).readBlock address count =
      if m.Holds address count then
        .ok ((List.range count.toNat).map fun k => m.lastByte accesses (address.toNat + k))
      else .error (.addressOutOfRange (m.firstOutside address count)) := by
  -- Byte by byte the block is what was left there last.
  have hslice : (m.serveAll accesses).slice address.toNat count.toNat =
      (List.range count.toNat).map fun k => m.lastByte accesses (address.toNat + k) := by
    rw [slice]
    exact List.map_congr_left fun k _ => m.byteAt_serveAll accesses _
  rw [readBlock_of_pos _ _ hpos, firstOutside_serveAll, hslice]
  simp only [holds_serveAll]

/-- Storing a block after accesses: it is admitted where it lies in memory. -/
theorem writeBlock_serveAll (m : Memory) (accesses : List Access) (address : Int)
    {block : List UInt8} (hne : block ≠ []) :
    (m.serveAll accesses).writeBlock address block =
      if m.Holds address block.length then .ok ((m.serveAll accesses).serve (.writeBlock address block))
      else .error (.addressOutOfRange (m.firstOutside address block.length)) := by
  have hholds := m.holds_serveAll accesses address block.length
  rw [writeBlock_of_ne_nil _ _ hne, firstOutside_serveAll]
  by_cases hin : m.Holds address block.length
  · rw [if_pos hin, if_pos (hholds.mpr hin), serve_eq]
    exact congrArg Except.ok (if_pos (hholds.mpr hin)).symm
  · rw [if_neg hin, if_neg (mt hholds.mp hin)]

/-- **Memory holds what was stored last.** Whatever a memory has been asked for, it has kept its size. A
block of at least one byte is stored exactly if all of it lies in memory; otherwise it is refused, for
its first address if that is outside and for its last one if not, and nothing changes. A single byte is
stored as a block of one. Blocks are read under the same condition, single bytes again as blocks of one,
and a block of no bytes is empty wherever it begins; nothing changes by reading. What is read is, at each
address, the byte that the last admitted store has left there, or else the byte of the beginning. -/
theorem last_stored_is_read (m : Memory) (accesses : List Access) :
    let now := m.serveAll accesses
    now.size = m.size ∧
    (∀ address block, block ≠ [] →
      now.writeBlock address block =
        if m.Holds address block.length then .ok (now.serve (.writeBlock address block))
        else .error (.addressOutOfRange (m.firstOutside address block.length))) ∧
    (∀ address block, ¬ m.Holds address (block : List UInt8).length →
      now.serve (.writeBlock address block) = now) ∧
    (∀ address byte,
      now.write address (byte : UInt8).toNat = (now.writeBlock address [byte]).mapError .fault ∧
        now.serve (.write address byte) = now.serve (.writeBlock address [byte])) ∧
    (∀ address count, 1 ≤ count →
      now.readBlock address count =
        if m.Holds address count then
          .ok ((List.range count.toNat).map fun k => m.lastByte accesses (address.toNat + k))
        else .error (.addressOutOfRange (m.firstOutside address count))) ∧
    (∀ address count, count ≤ 0 → now.readBlock address count = .ok []) ∧
    (∀ address, now.readBlock address 1 = (now.read address).map ([·])) ∧
    (∀ access : Access, access.block = [] → now.serve access = now) := by
  intro now
  -- Each part is one of the laws above, for the memory as the accesses have left it.
  refine ⟨m.size_serveAll accesses, fun address block hne => m.writeBlock_serveAll accesses address hne,
    ?_, fun address byte => ⟨now.write_eq_writeBlock address byte, now.serve_write address byte⟩,
    fun address count hpos => m.readBlock_serveAll accesses address hpos,
    fun address count hnone => now.readBlock_of_nonpos address hnone,
    now.readBlock_one, ?_⟩
  · intro address block hout
    rw [serve_eq]
    exact if_neg (mt (m.holds_serveAll accesses address block.length).mp hout)
  · intro access hnone
    rw [serve_eq, hnone]
    exact ite_self now

/-- A memory of six bytes. -/
def sixBytes : Memory :=
  ⟨#[10, 11, 12, 13, 14, 15]⟩

/-- A block with a byte stored into its middle, and then two that are refused for one of their ends. -/
def overlapping : List Access :=
  [.writeBlock 1 [1, 2, 3], .write 2 9, .readBlock 3 100, .writeBlock 4 [7, 8, 9], .writeBlock (-1) [5, 5]]

/-- A byte in the middle of a block is stored over, and of the blocks that are refused nothing is found. -/
theorem last_stored_is_read_overlapping :
    let now := sixBytes.serveAll overlapping
    now.readBlock 0 6 = .ok [10, 1, 9, 3, 14, 15] ∧
      now.writeBlock 4 [7, 8, 9] = .error (.addressOutOfRange 6) ∧
      now.serve (.writeBlock 4 [7, 8, 9]) = now ∧
      now.readBlock (-1) 2 = .error (.addressOutOfRange (-1)) ∧
      now.readBlock 99 0 = .ok [] := by
  intro now
  obtain ⟨-, hstore, hrefused, -, hread, hempty, -⟩ := last_stored_is_read sixBytes overlapping
  refine ⟨?_, ?_, hrefused 4 [7, 8, 9] (by decide), ?_, hempty 99 0 (by decide)⟩
  · exact (hread 0 6 (by decide)).trans ((if_pos (by decide)).trans (congrArg Except.ok (by decide)))
  · exact (hstore 4 [7, 8, 9] (by decide)).trans (if_neg (by decide))
  · exact (hread (-1) 2 (by decide)).trans (if_neg (by decide))

end Memory

end Chip8
