import Chip8.Text.Hex
import Chip8.Text.Printable

/-!
# Quoted text

A message that shows what the user gave puts it in quotes. The quote is the apostrophe, unless the
text holds an apostrophe and no double quote; then it is the double quote. Inside, the quote itself
and the backslash get a backslash, three controls have letters of their own, and every other
character that is not printable is written by its code in two, four or eight hexadecimal digits.

* `quote` — the quoted form of a text;
* `escapeChar` — the form of one character inside given quotes;
* `quoteFor_eq_doubleQuote_iff` — when the quote is not the apostrophe.
-/

namespace Chip8.Text.Quoted

/-- The character that a text is quoted with. -/
def quoteFor (text : List Char) : Char :=
  if '\'' ∈ text ∧ '"' ∉ text then '"' else '\''

theorem quoteFor_eq_doubleQuote_iff {text : List Char} :
    quoteFor text = '"' ↔ '\'' ∈ text ∧ '"' ∉ text := by
  unfold quoteFor
  split <;> simp_all

/-- The escape of a character by its code, with the letter that tells how many digits follow. -/
def byCode (c : Char) : List Char :=
  if c.toNat < 0x100 then '\\' :: 'x' :: Hex.paddedChars 2 c.toNat
  else if c.toNat < 0x10000 then '\\' :: 'u' :: Hex.paddedChars 4 c.toNat
  else '\\' :: 'U' :: Hex.paddedChars 8 c.toNat

/-- How a character is written between two quotes. -/
def escapeChar (quote : Char) (c : Char) : List Char :=
  if c = quote ∨ c = '\\' then ['\\', c]
  else if c = '\t' then ['\\', 't']
  else if c = '\n' then ['\\', 'n']
  else if c = '\r' then ['\\', 'r']
  else if Printable.isPrintable c then [c]
  else byCode c

def quote (text : String) : String :=
  let q := quoteFor text.toList
  String.ofList (q :: text.toList.flatMap (escapeChar q) ++ [q])

end Chip8.Text.Quoted
