import Chip8.Text.Blank
import Chip8.Text.DecimalDigit

/-!
# Integers in text

How a number given by the user is read. Blanks around it are dropped; then come at most one sign and
at least one digit, and a single low line may stand between two digits. A digit is a decimal digit of
any script, and in base sixteen also one of the Latin letters from `a` to `f` in either case. Base
sixteen further allows `0x` or `0X` after the sign, which one low line may follow. Leading zeros
count for nothing, but in base ten there may be no more than `digitLimit` digits.

* `read? radix text` — the number that the text stands for, if it is one;
* `digitRun?` — a run of digits with single low lines between them;
* `digitRun?_ne_nil` — a run has at least one digit.
-/

namespace Chip8.Text.Integer

/-- The bases in which numbers are read. -/
inductive Radix
  | decimal
  | hexadecimal
  deriving DecidableEq

def Radix.size : Radix → Nat
  | .decimal => 10
  | .hexadecimal => 16

/-- The most digits that a decimal number may have. -/
def digitLimit : Nat := 4300

/-- The value of one of the Latin letters that serve as digits beyond nine. -/
def letterValue? (c : Char) : Option Nat :=
  if 'a' ≤ c ∧ c ≤ 'f' then some (c.toNat - 'a'.toNat + 10)
  else if 'A' ≤ c ∧ c ≤ 'F' then some (c.toNat - 'A'.toNat + 10)
  else none

/-- The value of a character as a digit of the base. -/
def Radix.digit? (radix : Radix) (c : Char) : Option Nat :=
  match radix with
  | .decimal => DecimalDigit.value? c
  | .hexadecimal => (DecimalDigit.value? c).or (letterValue? c)

/-- The digits of a text that consists of nothing else but single low lines between them. -/
def digitRun? (digit? : Char → Option Nat) : List Char → Option (List Nat)
  | [] => none
  | [c] => (digit? c).map fun d => [d]
  | c :: '_' :: rest => do
    let d ← digit? c
    let ds ← digitRun? digit? rest
    return d :: ds
  | c :: rest => do
    let d ← digit? c
    let ds ← digitRun? digit? rest
    return d :: ds

theorem digitRun?_ne_nil {digit? : Char → Option Nat} {text : List Char} :
    digitRun? digit? text ≠ some [] := by
  fun_cases digitRun? digit? text <;> simp [Option.bind_eq_some_iff]

/-- The number with the given digits, most significant first. -/
def ofDigits (base : Nat) (digits : List Nat) : Nat :=
  digits.foldl (fun n d => n * base + d) 0

/-- Takes off the sign, if there is one, and says whether it is negative. -/
def splitSign : List Char → Bool × List Char
  | '-' :: rest => (true, rest)
  | '+' :: rest => (false, rest)
  | text => (false, text)

/-- Takes off the mark of base sixteen, and the low line that may follow it. -/
def dropMark : List Char → List Char
  | c :: x :: rest =>
    if DecimalDigit.value? c = some 0 ∧ (x = 'x' ∨ x = 'X') then
      match rest with
      | '_' :: rest => rest
      | rest => rest
    else c :: x :: rest
  | text => text

/-- The number that a text stands for, if it is one. -/
def read? (radix : Radix) (text : List Char) : Option Int := do
  let (negative, unsigned) := splitSign (trim text)
  let body :=
    match radix with
    | .decimal => unsigned
    | .hexadecimal => dropMark unsigned
  let digits ← digitRun? radix.digit? body
  if radix = .decimal ∧ digitLimit < digits.length then none
  else
    let magnitude : Int := ofDigits radix.size digits
    return if negative then -magnitude else magnitude

end Chip8.Text.Integer
