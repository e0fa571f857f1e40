import Chip8.Fault
import Chip8.Layout

/-!
# Memory

A row of bytes with addresses from zero. Every access is checked, because an address that a program
has computed can point past the end. A block is checked at its first and its last byte before
anything is read or written, so that a refused access changes nothing.

* `Memory.check` — whether there is a byte at an address;
* `Memory.readBlock`, `Memory.writeBlock` — access to a run of bytes;
* `Memory.loadRom` — a program is stored whole or not at all;
* `Memory.byteAt` — the view in which the laws of memory are stated: the byte at an address, zero
  beyond the end;
* `Memory.byteAt_put` — after a run of bytes is stored, its addresses hold these bytes and all
  others hold what they held.
-/

namespace Chip8

/-- The bytes of memory, in the order of their addresses. -/
structure Memory where
  cells : Array UInt8
  deriving DecidableEq

namespace Memory

def size (m : Memory) : Nat :=
  m.cells.size

/-- The last address; minus one if there is none. -/
def top (m : Memory) : Int :=
  m.size - 1

/-- A memory of `size` bytes, all zero. -/
def blank (size : Nat) : Memory :=
  ⟨Array.replicate size 0⟩

/-- A memory of `size` bytes, all zero, if there can be so many. -/
def ofSize (size : Int) (hasRoom : Nat → Bool := fun _ => true) : Except Misuse Memory :=
  (cellCount size hasRoom).map blank

/-- The byte at an address, zero beyond the end. -/
def byteAt (m : Memory) (address : Nat) : UInt8 :=
  m.cells.getD address 0

/-- Stores one byte; beyond the end nothing happens. -/
def setByte (m : Memory) (address : Nat) (byte : UInt8) : Memory :=
  ⟨m.cells.setIfInBounds address byte⟩

/-- Stores a run of bytes from an address on. -/
def put (m : Memory) (address : Nat) : List UInt8 → Memory
  | [] => m
  | byte :: rest => (m.setByte address byte).put (address + 1) rest

/-- The run of `count` bytes from an address on. -/
def slice (m : Memory) (address count : Nat) : List UInt8 :=
  (List.range count).map fun k => m.byteAt (address + k)

@[simp] theorem size_setByte (m : Memory) (address : Nat) (byte : UInt8) :
    (m.setByte address byte).size = m.size := by
  simp [size, setByte]

@[simp] theorem size_put (m : Memory) (address : Nat) (bytes : List UInt8) :
    (m.put address bytes).size = m.size := by
  induction bytes generalizing m address with
  | nil => rfl
  | cons byte rest ih => simp [put, ih]

theorem byteAt_setByte (m : Memory) (address a : Nat) (byte : UInt8) :
    (m.setByte address byte).byteAt a =
      if a = address ∧ address < m.size then byte else m.byteAt a := by
  simp only [byteAt, setByte, size, Array.getD_eq_getD_getElem?, Array.getElem?_setIfInBounds]
  grind

/-- A block that fits lies where it was put, and all other bytes are as before. -/
theorem byteAt_put (m : Memory) (address a : Nat) (bytes : List UInt8)
    (h : address + bytes.length ≤ m.size) :
    (m.put address bytes).byteAt a =
      if address ≤ a ∧ a < address + bytes.length then bytes.getD (a - address) 0
      else m.byteAt a := by
  induction bytes generalizing m address with
  | nil => simp [put, show ¬ (address ≤ a ∧ a < address) by omega]
  | cons byte rest ih =>
    simp only [List.length_cons] at h
    rw [put, ih _ _ (by simp only [size_setByte]; omega), byteAt_setByte]
    by_cases ha : a = address
    · -- The first byte of the run is not touched again by the others.
      subst ha
      simp [show a < m.size by omega, show ¬ a + 1 ≤ a by omega]
    · -- Anywhere else the rest of the run decides, whose places are one lower.
      have hcons : address ≤ a ∧ a < address + (rest.length + 1) ↔
          address + 1 ≤ a ∧ a < address + 1 + rest.length := by omega
      simp only [ha, false_and, if_false, List.length_cons, hcons]
      split
      · obtain ⟨d, rfl⟩ : ∃ d, a = address + (d + 1) := ⟨a - address - 1, by omega⟩
        simp [show address + (d + 1) - (address + 1) = d by omega]
      · rfl

@[simp] theorem length_slice (m : Memory) (address count : Nat) :
    (m.slice address count).length = count := by
  simp [slice]

/-- Refuses an address at which there is no byte. -/
def check (m : Memory) (address : Int) : Except Fault Unit :=
  if address < 0 ∨ m.top < address then .error (.addressOutOfRange address) else .ok ()

def read (m : Memory) (address : Int) : Except Fault UInt8 := do
  m.check address
  return m.byteAt address.toNat

/-- The run of `count` bytes from an address on. A run of no bytes is empty wherever it starts. -/
def readBlock (m : Memory) (address count : Int) : Except Fault (List UInt8) := do
  if count ≤ 0 then
    return []
  else
    m.check address
    m.check (address + count - 1)
    return m.slice address.toNat count.toNat

/-- Stores a value at an address. That the address is in range is checked before the value is. -/
def write (m : Memory) (address value : Int) : Except Refusal Memory := do
  (m.check address).mapError .fault
  let byte ← (byteOf value).mapError .misuse
  return m.setByte address.toNat byte

/-- Stores a run of bytes from an address on. Its first and its last address are checked, also when
the run is empty and the last one lies before the first. -/
def writeBlock (m : Memory) (address : Int) (block : List UInt8) : Except Fault Memory := do
  m.check address
  m.check (address + block.length - 1)
  return m.put address.toNat block

def loadFont (m : Memory) : Except Fault Memory :=
  m.writeBlock Layout.fontStart Layout.glyphs

/-- The room for a program, which is below zero if memory ends inside the reserved area. -/
def romCapacity (m : Memory) : Int :=
  m.size - Layout.programStart

/-- Stores a program above the reserved area. Its size is checked before anything else. -/
def loadRom (m : Memory) (rom : List UInt8) : Except Fault Memory :=
  if m.romCapacity < rom.length then
    .error (.romTooLarge rom.length m.romCapacity)
  else
    m.writeBlock Layout.programStart rom

end Memory

end Chip8
