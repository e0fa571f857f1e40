/-!
# Blank characters

The characters that may surround a number: the blank and the five controls from the tabulator to the
carriage return, and beyond ASCII every character with the Unicode property `White_Space`. The four
information separators U+001C to U+001F are not blank here.

* `isBlank` — whether a character is blank;
* `trim` — a text without its leading and trailing blanks;
* `isBlank_of_isWhitespace` — the white space of the core library is blank.
-/

namespace Chip8.Text

/-- Whether `c` may surround a number. -/
def isBlank (c : Char) : Bool :=
  let n := c.toNat
  (0x09 ≤ n && n ≤ 0x0D) || n == 0x20 || n == 0x85 || n == 0xA0 || n == 0x1680 ||
    (0x2000 ≤ n && n ≤ 0x200A) || n == 0x2028 || n == 0x2029 || n == 0x202F || n == 0x205F ||
    n == 0x3000

theorem isBlank_of_isWhitespace {c : Char} (h : c.isWhitespace) : isBlank c := by
  simp only [Char.isWhitespace, Bool.or_eq_true, decide_eq_true_eq] at h
  rcases h with ((h | h) | h) | h <;> subst h <;> decide

/-- The text without its leading and trailing blanks. -/
def trim (text : List Char) : List Char :=
  ((text.dropWhile isBlank).reverse.dropWhile isBlank).reverse

end Chip8.Text
