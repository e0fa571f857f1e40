/-!
# Decimal digits of all scripts

Host key codes and colours may be written in the decimal digits of any script. Unicode gives each
script ten consecutive characters of general category *decimal number* (`Nd`), zero first, so the
whole class is given by the characters for zero. The table is that of Unicode 14.0.

* `zeros` — the zeros, in ascending order;
* `value?` — the value of a character as a decimal digit;
* `value?_lt` — a value is below ten.
-/

namespace Chip8.Text.DecimalDigit

/-- The code points of the zeros of all scripts; each is followed by its one to nine. -/
def zeros : List Nat :=
  [0x0030, 0x0660, 0x06F0, 0x07C0, 0x0966, 0x09E6, 0x0A66, 0x0AE6, 0x0B66, 0x0BE6, 0x0C66,
    0x0CE6, 0x0D66, 0x0DE6, 0x0E50, 0x0ED0, 0x0F20, 0x1040, 0x1090, 0x17E0, 0x1810, 0x1946,
    0x19D0, 0x1A80, 0x1A90, 0x1B50, 0x1BB0, 0x1C40, 0x1C50, 0xA620, 0xA8D0, 0xA900, 0xA9D0,
    0xA9F0, 0xAA50, 0xABF0, 0xFF10, 0x104A0, 0x10D30, 0x11066, 0x110F0, 0x11136, 0x111D0, 0x112F0,
    0x11450, 0x114D0, 0x11650, 0x116C0, 0x11730, 0x118E0, 0x11950, 0x11C50, 0x11D50, 0x11DA0,
    0x16A60, 0x16AC0, 0x16B50, 0x1D7CE, 0x1D7D8, 0x1D7E2, 0x1D7EC, 0x1D7F6, 0x1E140, 0x1E2F0,
    0x1E950, 0x1FBF0]

/-- The value of `c` as a decimal digit, if it is one in any script. -/
def value? (c : Char) : Option Nat :=
  zeros.findSome? fun z =>
    if z ≤ c.toNat ∧ c.toNat < z + 10 then some (c.toNat - z) else none

theorem value?_lt {c : Char} {d : Nat} (h : value? c = some d) : d < 10 := by
  obtain ⟨_, _, hz⟩ := List.exists_of_findSome?_eq_some h
  split at hz
  · simp only [Option.some.injEq] at hz
    omega
  · simp at hz

end Chip8.Text.DecimalDigit
