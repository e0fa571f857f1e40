import Chip8.Memory

/-!
# Blocks of memory

Access to a run of bytes checks the first and the last address of the run and nothing in between.
That is enough: a run of at least one byte is admitted exactly if all of it lies in memory
(`Memory.checkEnds_of_pos`), and the address that a refused run is refused for is its first one if
that lies outside, and its last one if not (`Memory.firstOutside`).

* `Memory.readBlock_of_pos`, `Memory.readBlock_of_nonpos`: reading, which of no bytes is never refused;
* `Memory.writeBlock_of_ne_nil`: storing;
* `Memory.slice_put`, `Memory.put_slice`: a run that was stored is read, and to store what is there
  already changes nothing.
-/

namespace Chip8

namespace Memory

/-- The `count` addresses from `address` on lie in memory. -/
def Holds (m : Memory) (address count : Int) : Prop :=
  0 ≤ address ∧ address + count ≤ m.size

instance (m : Memory) (address count : Int) : Decidable (m.Holds address count) :=
  inferInstanceAs (Decidable (_ ∧ _))

/-- The address that a run of bytes is refused for: its first one if no byte has that address, its
last one otherwise. -/
def firstOutside (m : Memory) (address count : Int) : Int :=
  if 0 ≤ address ∧ address < m.size then address + count - 1 else address

/-- An address is admitted if it lies in memory. -/
theorem check_eq (m : Memory) (address : Int) :
    m.check address =
      if 0 ≤ address ∧ address < m.size then .ok () else .error (.addressOutOfRange address) := by
  unfold check top
  by_cases h : 0 ≤ address ∧ address < m.size
  · rw [if_neg (by omega), if_pos h]
  · rw [if_pos (by omega), if_neg h]

/-- The two checks of a block admit exactly what lies in memory. -/
theorem checkEnds_of_pos (m : Memory) (address : Int) {count : Int} (hpos : 0 < count) :
    (do m.check address; m.check (address + count - 1) : Except Fault Unit) =
      if m.Holds address count then .ok ()
      else .error (.addressOutOfRange (m.firstOutside address count)) := by
  rw [check_eq, check_eq]
  by_cases hfirst : 0 ≤ address ∧ address < m.size
  · -- The first address is admitted, so the last one decides.
    rw [if_pos hfirst, firstOutside, if_pos hfirst]
    by_cases hlast : m.Holds address count
    · have h : 0 ≤ address + count - 1 ∧ address + count - 1 < m.size := by
        unfold Holds at hlast
        omega
      rw [if_pos hlast]
      exact if_pos h
    · have h : ¬ (0 ≤ address + count - 1 ∧ address + count - 1 < m.size) := by
        unfold Holds at hlast
        omega
      rw [if_neg hlast]
      exact if_neg h
  · have hout : ¬ m.Holds address count := by
      unfold Holds
      omega
    rw [if_neg hfirst, if_neg hout, firstOutside, if_neg hfirst]
    rfl

/-- Reading no bytes gives none, wherever that is. -/
theorem readBlock_of_nonpos (m : Memory) (address : Int) {count : Int} (h : count ≤ 0) :
    m.readBlock address count = .ok [] := by
  rw [readBlock, if_pos h]
  rfl

/-- Reading some bytes gives them if all of them exist. -/
theorem readBlock_of_pos (m : Memory) (address : Int) {count : Int} (hpos : 0 < count) :
    m.readBlock address count =
      if m.Holds address count then .ok (m.slice address.toNat count.toNat)
      else .error (.addressOutOfRange (m.firstOutside address count)) := by
  rw [readBlock, if_neg (by omega), ← bind_assoc, checkEnds_of_pos m address hpos]
  split <;> rfl

/-- Storing some bytes puts them in place if there is room for all of them. -/
theorem writeBlock_of_ne_nil (m : Memory) (address : Int) {block : List UInt8} (h : block ≠ []) :
    m.writeBlock address block =
      if m.Holds address block.length then .ok (m.put address.toNat block)
      else .error (.addressOutOfRange (m.firstOutside address block.length)) := by
  have hpos : (0 : Int) < block.length := by
    have := List.length_pos_iff.mpr h
    omega
  rw [writeBlock, ← bind_assoc, checkEnds_of_pos m address hpos]
  split <;> rfl

/-- Storing a block, where it is not refused, puts its bytes in place. -/
theorem eq_put_of_writeBlock {m after : Memory} {address : Int} {block : List UInt8}
    (h : m.writeBlock address block = .ok after) : after = m.put address.toNat block := by
  -- Nothing is said about blocks of no bytes, so this goes back to the two checks.
  rw [writeBlock, check_eq, check_eq] at h
  split at h
  · split at h
    · exact (Except.ok.inj h).symm
    · cases h
  · cases h

theorem size_of_writeBlock {m after : Memory} {address : Int} {block : List UInt8}
    (h : m.writeBlock address block = .ok after) : after.size = m.size := by
  rw [eq_put_of_writeBlock h, size_put]

theorem size_of_loadRom {m after : Memory} {rom : List UInt8} (h : m.loadRom rom = .ok after) :
    after.size = m.size := by
  unfold loadRom at h
  split at h
  · cases h
  · exact size_of_writeBlock h

/-! ### Runs that are stored and read -/

/-- Two memories of one size with the same bytes are the same. -/
theorem ext_byteAt {m other : Memory} (hsize : other.size = m.size)
    (h : ∀ address < m.size, other.byteAt address = m.byteAt address) : other = m := by
  obtain ⟨cells⟩ := m
  obtain ⟨cells'⟩ := other
  congr 1
  refine Array.ext hsize fun address hlt hlt' => ?_
  have hbyte := h address hlt'
  rw [byteAt, byteAt, Array.getD_eq_getD_getElem?, Array.getD_eq_getD_getElem?,
    Array.getElem?_eq_getElem hlt, Array.getElem?_eq_getElem hlt'] at hbyte
  exact hbyte

/-- A run that was stored is read. -/
theorem slice_put (m : Memory) (address : Nat) (bytes : List UInt8)
    (h : address + bytes.length ≤ m.size) :
    (m.put address bytes).slice address bytes.length = bytes := by
  refine List.ext_getElem (length_slice ..) fun k _ hk => ?_
  have hin : address ≤ address + k ∧ address + k < address + bytes.length := by omega
  simp only [slice, List.getElem_map, List.getElem_range]
  rw [byteAt_put _ _ _ _ h, if_pos hin, Nat.add_sub_cancel_left, List.getD_eq_getElem?_getD,
    List.getElem?_eq_getElem hk]
  rfl

/-- To store what is there already changes nothing. -/
theorem put_slice (m : Memory) (address count : Nat) (h : address + count ≤ m.size) :
    m.put address (m.slice address count) = m := by
  refine ext_byteAt (size_put ..) fun a _ => ?_
  have hlength := m.length_slice address count
  rw [byteAt_put _ _ _ _ (by omega), hlength]
  split
  · rename_i hin
    have hplace : a - address < (m.slice address count).length := by omega
    rw [List.getD_eq_getElem?_getD, List.getElem?_eq_getElem hplace]
    simp only [slice, List.getElem_map, List.getElem_range, Option.getD_some]
    rw [Nat.add_sub_cancel' hin.1]
  · rfl

end Memory

end Chip8
