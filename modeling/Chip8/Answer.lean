/-!
# Answers

What the user gives when a setting takes a value. Usually it is a value; an answer may also be blank,
which is not the same as giving none at all: whoever needs a value then has nothing to go on, whereas
a user who gives none leaves the choice to the program.

* `Answer.ofText` — the answer that a text stands for: two dashes leave it blank;
* `Answer.ofText_eq_blank_iff` — no other text does;
* `Answer.value?` — the value, if there is one.
-/

namespace Chip8

/-- A value, or a blank in its place. -/
inductive Answer (α : Type)
  | blank
  | given (value : α)
  deriving DecidableEq

namespace Answer

variable {α : Type}

/-- The answer that a text stands for. -/
def ofText (text : String) : Answer String :=
  if text = "--" then .blank else .given text

theorem ofText_eq_blank_iff {text : String} : ofText text = .blank ↔ text = "--" := by
  unfold ofText
  split <;> simp_all

/-- The answer with another value in place of its own. -/
def map {β : Type} (f : α → β) : Answer α → Answer β
  | .blank => .blank
  | .given value => .given (f value)

def value? : Answer α → Option α
  | .blank => none
  | .given value => some value

end Answer

end Chip8
