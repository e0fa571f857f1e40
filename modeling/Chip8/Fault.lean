import Chip8.Layout
import Chip8.Text.Hex

/-!
# Faults

What stops a machine, and what a caller of the library can get wrong. The two are kept apart: a
`Fault` is raised by the running program, it belongs to a family and has a message for the user; a
`Misuse` is a value that no part of the machine can hold or a place that it does not have.

* `Fault.message` — the text for the user;
* `Fault.ancestry` — the families of a fault, from its own up to the one that holds them all;
* `cellCount` — how many cells a memory or a screen of a size has, if it can have so many;
* `place?` — the place that an index names.
-/

namespace Chip8

/-- The families of faults. Every family but `machine` belongs to a larger one. -/
inductive Family
  | machine
  | memory
  | stack
  | processor
  deriving DecidableEq

namespace Family

/-- The family that this one is a part of. -/
def parent? : Family → Option Family
  | .machine => none
  | .memory | .stack | .processor => some .machine

/-- This family and those that it is a part of, the largest last. -/
def ancestry (family : Family) : List Family :=
  match family.parent? with
  | none => [family]
  | some parent => [family, parent]

end Family

/-- What stops a machine. None of these can be recovered from inside it. -/
inductive Fault
  /-- A program does not fit into the memory above the reserved area. -/
  | romTooLarge (size capacity : Int)
  | addressOutOfRange (address : Int)
  | stackOverflow
  | stackUnderflow
  /-- A word that stands for no instruction, with the report of the machine that met it; the
  report may be empty. -/
  | unrecognizedOpcode (opcode : Int) (report : String)
  /-- Any other fault of a family, which has nothing but its message. -/
  | other (family : Family) (message : String)
  deriving DecidableEq

namespace Fault

/-- The family that a fault belongs to. -/
def family : Fault → Family
  | .romTooLarge .. | .addressOutOfRange _ => .memory
  | .stackOverflow | .stackUnderflow => .stack
  | .unrecognizedOpcode .. => .processor
  | .other family _ => family

/-- The families that a fault belongs to, the largest last. -/
def ancestry (fault : Fault) : List Family :=
  fault.family.ancestry

def message : Fault → String
  | .romTooLarge size capacity =>
    "ROM is " ++ toString size ++ " bytes, but only " ++ toString capacity ++
      " bytes are available"
  | .addressOutOfRange address =>
    "Memory address 0x" ++ Text.Hex.padded 4 address ++ " is out of range"
  | .stackOverflow => "Stack overflow"
  | .stackUnderflow => "Stack underflow"
  | .unrecognizedOpcode opcode report =>
    if report.isEmpty then "Unrecognized opcode 0x" ++ Text.Hex.padded 4 opcode else report
  | .other _ message => message

end Fault

/-- What a caller of the library can get wrong. -/
inductive Misuse
  | notAByte (value : Int)
  /-- A memory or a screen with fewer than no cells. -/
  | negativeSize (size : Int)
  /-- A number of cells that is not a word. -/
  | boundlessSize (size : Int)
  /-- A memory or a screen with more cells than there is room for. -/
  | noRoom (size : Int)
  | noSuchKey (key : Int)
  | noSuchRegister (register : Int)
  /-- A pixel of a screen without width or height. -/
  | noPixels
  /-- The rows of a screen without width. -/
  | noRows
  /-- The text of a word that stands for no instruction. -/
  | noForm (word : Int)
  deriving DecidableEq

/-- A request that was refused: by the machine or on account of the caller. -/
inductive Refusal
  | fault (cause : Fault)
  | misuse (cause : Misuse)
  deriving DecidableEq

/-- The byte with the given value. -/
def byteOf (value : Int) : Except Misuse UInt8 :=
  if 0 ≤ value ∧ value ≤ 255 then .ok (UInt8.ofNat value.toNat) else .error (.notAByte value)

/-- The number of cells of a memory or a screen of the given size. That the size is a word at all is
checked before its sign is, and only then whether the host has room for so many cells, which is for the
host to say. -/
def cellCount (size : Int) (hasRoom : Nat → Bool := fun _ => true) : Except Misuse Nat :=
  if size < -Layout.countLimit ∨ Layout.countLimit ≤ size then .error (.boundlessSize size)
  else if size < 0 then .error (.negativeSize size)
  else if hasRoom size.toNat then .ok size.toNat
  else .error (.noRoom size)

/-- There can be every number of cells that is a word, if the host has room for them. -/
theorem cellCount_eq_ok_iff {size : Int} {hasRoom : Nat → Bool} {count : Nat} :
    cellCount size hasRoom = .ok count ↔
      size = count ∧ count < Layout.countLimit ∧ hasRoom count = true := by
  unfold cellCount
  constructor
  · intro h
    split at h
    · cases h
    · split at h
      · cases h
      · split at h
        · cases h
          exact ⟨by omega, by omega, ‹_›⟩
        · cases h
  · rintro ⟨rfl, hword, hroom⟩
    rw [if_neg (by omega), if_neg (by omega), Int.toNat_natCast, if_pos hroom]

/-- The place that an index names among `count` places. An index below zero counts from the end, so
that minus one names the last place; beyond `count` places in either direction there is none. -/
def place? (count : Nat) (index : Int) : Option (Fin count) :=
  if h : 0 ≤ index ∧ index < count then some ⟨index.toNat, by omega⟩
  else if h : index < 0 ∧ 0 ≤ index + count then some ⟨(index + count).toNat, by omega⟩
  else none

end Chip8
