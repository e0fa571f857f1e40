import Chip8.Proofs.Machine.Bounds
import Mathlib.Data.List.GetD

/-!
# Loading a program

A program is stored whole or not at all. On a machine within the bounds there is room for `0xE00`
bytes; up to that length nothing is refused (`Memory.loadRom_of_fits`), and beyond it nothing is stored
(`Memory.loadRom_of_too_large`). The empty program fits as well, although its last address is checked
and lies before its first one.

What is loaded is what is fetched. `bytesOfWords` lays out words the way they are fetched, and
`Machine.Reachable.loadRom_all_or_nothing` says what is fetched at every place of a program that was
laid out so, be it the start of a word or its middle.
-/

namespace Chip8

/-! ### Programs as words -/

/-- The bytes of words in turn, the high byte of each first. -/
def bytesOfWords (words : List UInt16) : List UInt8 :=
  words.flatMap fun word => [UInt8.ofNat (word.toNat / 0x100), UInt8.ofNat (word.toNat % 0x100)]

/-- Words take two bytes each. -/
theorem length_bytesOfWords (words : List UInt16) :
    (bytesOfWords words).length = 2 * words.length := by
  induction words with
  | nil => rfl
  | cons word rest ih =>
    change (bytesOfWords rest).length + 2 = 2 * (rest.length + 1)
    rw [ih]
    omega

/-- Where the two bytes of a word are. -/
theorem getD_bytesOfWords {words : List UInt16} {k : Nat} (hk : k < words.length) :
    ((bytesOfWords words).getD (2 * k) 0).toNat = words[k].toNat / 0x100 ∧
      ((bytesOfWords words).getD (2 * k + 1) 0).toNat = words[k].toNat % 0x100 := by
  induction words generalizing k with
  | nil => exact absurd hk (Nat.not_lt_zero k)
  | cons word rest ih =>
    cases k with
    | zero =>
      have hhigh : word.toNat / 0x100 < 0x100 := by
        have hword := word.toNat_lt
        omega
      exact ⟨UInt8.toNat_ofNat_of_lt' hhigh, UInt8.toNat_ofNat_of_lt' (Nat.mod_lt _ (by decide))⟩
    | succ k =>
      -- The bytes of the first word stand before those of the rest.
      exact ih (Nat.lt_of_succ_lt_succ hk)

namespace Memory

variable {m : Memory} {rom : List UInt8}

/-- Behind the start of programs there is room for `0xE00` bytes. -/
theorem romCapacity_eq (hsize : m.size = 0x1000) : m.romCapacity = 0xE00 := by
  rw [romCapacity, hsize]
  rfl

/-- A program that fits is stored, be it empty. -/
theorem loadRom_of_fits (hsize : m.size = 0x1000) (hfits : rom.length ≤ 0xE00) :
    m.loadRom rom = .ok (m.put 0x200 rom) := by
  have hroom : ¬ m.romCapacity < rom.length := by
    rw [romCapacity_eq hsize]
    omega
  -- Both ends of the program are checked on their way into memory, and both are inside.
  have hfirst : 0 ≤ (Layout.programStart : Int) ∧ (Layout.programStart : Int) < m.size := by
    rw [hsize]
    decide
  -- The last address of the empty program is the one before its first.
  have hlast : 0 ≤ (Layout.programStart : Int) + rom.length - 1 ∧
      (Layout.programStart : Int) + rom.length - 1 < m.size := by
    rw [hsize, Layout.programStart]
    omega
  rw [loadRom, if_neg hroom, writeBlock, check_eq, if_pos hfirst, check_eq, if_pos hlast]
  rfl

/-- A longer program is refused, with its length and the room there is. -/
theorem loadRom_of_too_large (hsize : m.size = 0x1000) (hlarge : 0xE00 < rom.length) :
    m.loadRom rom = .error (.romTooLarge rom.length 0xE00) := by
  have hroom : m.romCapacity < rom.length := by
    rw [romCapacity_eq hsize]
    omega
  rw [loadRom, if_pos hroom, romCapacity_eq hsize]

end Memory

namespace Machine

variable {m : Machine} {rom : List UInt8}

theorem Invariant.loadRom_of_fits (hm : m.Invariant) (hfits : rom.length ≤ 0xE00) :
    m.react (.loadRom rom) = { machine := { m with memory := m.memory.put 0x200 rom } } := by
  simp only [Machine.react, Machine.loadRom, Memory.loadRom_of_fits hm.size_memory hfits]
  rfl

theorem Invariant.loadRom_of_too_large (hm : m.Invariant) (hlarge : 0xE00 < rom.length) :
    m.react (.loadRom rom) =
      { machine := m, fault := some (.romTooLarge rom.length 0xE00) } := by
  simp only [Machine.react, Machine.loadRom, Memory.loadRom_of_too_large hm.size_memory hlarge]
  rfl

/-- What memory holds after a program has been stored. -/
theorem Invariant.byteAt_put_rom (hm : m.Invariant) (hfits : rom.length ≤ 0xE00) (address : Nat) :
    (m.memory.put 0x200 rom).byteAt address =
      if 0x200 ≤ address ∧ address < 0x200 + rom.length then rom.getD (address - 0x200) 0
      else m.memory.byteAt address := by
  refine Memory.byteAt_put _ _ _ _ ?_
  rw [hm.size_memory]
  omega

/-- What is fetched where two bytes lie in memory. -/
theorem Invariant.fetch_at (hm : m.Invariant) (address : Nat) (hin : address + 2 ≤ 0x1000) :
    { m with pc := address }.fetch =
      .ok (0x100 * (m.memory.byteAt address).toNat + (m.memory.byteAt (address + 1)).toNat) := by
  have hholds : m.memory.Holds address 2 := by
    have hsize := hm.size_memory
    unfold Memory.Holds
    omega
  rw [fetch_eq]
  exact if_pos hholds

/-- A program of words is fetched as it was written, from the start of a word as well as from its
middle. -/
theorem Invariant.fetch_loaded (hm : m.Invariant) {words : List UInt16}
    (hfits : words.length ≤ 1792) {k : Nat} (hk : k < words.length) :
    let loaded := (m.react (.loadRom (bytesOfWords words))).machine
    { loaded with pc := 0x200 + 2 * k }.fetch = .ok words[k].toNat ∧
      ∀ hnext : k + 1 < words.length, { loaded with pc := 0x200 + 2 * k + 1 }.fetch =
        .ok (0x100 * (words[k].toNat % 0x100) + words[k + 1].toNat / 0x100) := by
  have hlength := length_bytesOfWords words
  have hroom : (bytesOfWords words).length ≤ 0xE00 := by omega
  have hloaded := hm.react (.loadRom (bytesOfWords words))
  rw [hm.loadRom_of_fits hroom] at hloaded ⊢
  -- Each byte of the program is found behind the start of programs.
  have hbyte : ∀ i < (bytesOfWords words).length,
      (m.memory.put 0x200 (bytesOfWords words)).byteAt (0x200 + i) =
        (bytesOfWords words).getD i 0 := by
    intro i hi
    rw [hm.byteAt_put_rom hroom, if_pos (by omega), Nat.add_sub_cancel_left]
  obtain ⟨hhigh, hlow⟩ := getD_bytesOfWords hk
  refine ⟨?_, fun hnext => ?_⟩
  · -- At the start of a word its own two bytes are found.
    have hfetch := hloaded.fetch_at (0x200 + 2 * k) (by omega)
    rw [hbyte _ (by omega), Nat.add_assoc, hbyte _ (by omega), hhigh, hlow] at hfetch
    refine hfetch.trans (congrArg Except.ok ?_)
    omega
  · obtain ⟨hhighNext, -⟩ := getD_bytesOfWords hnext
    -- In its middle its low byte is found, and then the high byte of the next one.
    have hfetch := hloaded.fetch_at (0x200 + (2 * k + 1)) (by omega)
    rw [hbyte _ (by omega), Nat.add_assoc, hbyte _ (by omega), hlow] at hfetch
    have hplace : 2 * k + 1 + 1 = 2 * (k + 1) := by omega
    rw [hplace, hhighNext] at hfetch
    exact hfetch

/-- **A program is loaded whole or not at all.** Up to `0xE00` bytes it is stored behind the start of
programs, and nothing else of the machine changes; a longer one is refused with its length and the
room there is, and nothing changes at all. A program that was written as words is then fetched as
these words; from the middle of a word its low byte is fetched and the high byte of the next one. -/
theorem Reachable.loadRom_all_or_nothing (hm : m.Reachable) :
    (∀ rom : List UInt8, rom.length ≤ 0xE00 → ∃ memory : Memory,
      m.react (.loadRom rom) = { machine := { m with memory } } ∧ memory.size = m.memory.size ∧
      (∀ k (hk : k < rom.length), memory.byteAt (0x200 + k) = rom[k]) ∧
      ∀ address, address < 0x200 ∨ 0x200 + rom.length ≤ address →
        memory.byteAt address = m.memory.byteAt address) ∧
    (∀ rom : List UInt8, 0xE00 < rom.length → m.react (.loadRom rom) =
      { machine := m, fault := some (.romTooLarge rom.length 0xE00) }) ∧
    ∀ words : List UInt16, words.length ≤ 1792 →
      let loaded := (m.react (.loadRom (bytesOfWords words))).machine
      (∀ k (hk : k < words.length),
        { loaded with pc := 0x200 + 2 * k }.fetch = .ok words[k].toNat) ∧
      ∀ k (hk : k + 1 < words.length), { loaded with pc := 0x200 + 2 * k + 1 }.fetch =
        .ok (0x100 * (words[k].toNat % 0x100) + words[k + 1].toNat / 0x100) := by
  have hinv := hm.invariant
  refine ⟨fun rom hfits => ?_, fun rom hlarge => hinv.loadRom_of_too_large hlarge,
    fun words hfits => ⟨fun k hk => ?_, fun k hk => ?_⟩⟩
  · refine ⟨_, hinv.loadRom_of_fits hfits, Memory.size_put .., fun k hk => ?_, fun address hout => ?_⟩
    · -- Within the program its bytes are read, and outside of it what was there before.
      rw [hinv.byteAt_put_rom hfits, if_pos (by omega), Nat.add_sub_cancel_left,
        List.getD_eq_getElem _ _ hk]
    · rw [hinv.byteAt_put_rom hfits, if_neg (by omega)]
  · exact (hinv.fetch_loaded hfits hk).1
  · exact (hinv.fetch_loaded hfits (Nat.lt_of_succ_lt hk)).2 hk

/-- A machine that has run a program of five bytes for one cycle. -/
def usedOnce : Machine :=
  (boot {} (Noise.cycling [])).after [.loadRom [0x12, 0x02, 0xAB, 0xCD, 0xEF], .cycle]

theorem usedOnce_reachable : usedOnce.Reachable := by
  unfold usedOnce
  exact (Reachable.boot _ _).after _

/-- What is loaded next covers the first four bytes of the old program and leaves the fifth in place;
a program that is one byte too long leaves all of it. -/
theorem loadRom_all_or_nothing_usedOnce :
    usedOnce.Reachable ∧
      (∃ memory : Memory,
        usedOnce.react (.loadRom [0x00, 0xE0, 0x6A, 0x05]) = { machine := { usedOnce with memory } } ∧
          memory.byteAt 0x203 = 0x05 ∧ memory.byteAt 0x204 = 0xEF) ∧
      usedOnce.react (.loadRom (List.replicate 0xE01 0)) =
        { machine := usedOnce, fault := some (.romTooLarge 0xE01 0xE00) } ∧
      { (usedOnce.react (.loadRom (bytesOfWords [0x00E0, 0x6A05]))).machine with
        pc := 0x201 }.fetch = .ok 0xE06A := by
  obtain ⟨hstored, hrefused, hwords⟩ := usedOnce_reachable.loadRom_all_or_nothing
  refine ⟨usedOnce_reachable, ?_, ?_, ?_⟩
  · obtain ⟨memory, hreact, -, hbytes, hothers⟩ := hstored [0x00, 0xE0, 0x6A, 0x05] (by decide)
    refine ⟨memory, hreact, hbytes 3 (by decide), ?_⟩
    have hstale : usedOnce.memory.byteAt 0x204 = 0xEF := by decide +kernel
    rw [hothers 0x204 (.inr (by decide)), hstale]
  · have hlength : (List.replicate 0xE01 (0 : UInt8)).length = 0xE01 := List.length_replicate
    have htoo := hrefused (List.replicate 0xE01 0) (by rw [hlength]; decide)
    rw [hlength] at htoo
    exact htoo
  · exact (hwords [0x00E0, 0x6A05] (by decide)).2 0 (by decide)

end Machine

end Chip8
