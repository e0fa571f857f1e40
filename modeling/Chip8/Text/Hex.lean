/-!
# Hexadecimal text

Words, addresses and register values are shown in lower-case hexadecimal, padded with zeros to a
least width. A number that needs more digits than its width is never cut. A negative number has
its sign first, and the sign counts towards the width, so that minus one in four places is `-001`.

* `digits` — the digits of a natural number, most significant first, without padding;
* `padded` — the digits of an integer, padded to a least width;
* `length_digits_pos` — there is always at least one digit.
-/

namespace Chip8.Text.Hex

/-- The character of a digit value below sixteen. -/
def digit (d : Nat) : Char :=
  if d < 10 then Char.ofNat (48 + d) else Char.ofNat (87 + d)

/-- The hexadecimal digits of `n`, most significant first and without leading zeros; zero itself
has the one digit `0`. -/
def digits (n : Nat) : List Char :=
  if n < 16 then [digit n] else digits (n / 16) ++ [digit (n % 16)]
termination_by n

theorem length_digits_pos (n : Nat) : 0 < (digits n).length := by
  unfold digits
  split <;> simp

/-- The characters of `n` in at least `width` places: the sign if `n` is negative, then zeros, then
the digits. -/
def paddedChars (width : Nat) (n : Int) : List Char :=
  let body := digits n.natAbs
  if n < 0 then
    '-' :: List.replicate (width - (body.length + 1)) '0' ++ body
  else
    List.replicate (width - body.length) '0' ++ body

/-- The text of `n` in at least `width` places. -/
def padded (width : Nat) (n : Int) : String :=
  String.ofList (paddedChars width n)

/-- Two digits for each byte, in order and without separators. -/
def ofBytes (bytes : List UInt8) : String :=
  String.ofList (bytes.flatMap fun b => paddedChars 2 b.toNat)

end Chip8.Text.Hex
