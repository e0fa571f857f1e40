import Chip8.Fault
import Chip8.Layout

/-!
# Call stack

Return addresses, the latest on top. The stack is no part of memory and has no register of its own:
how deep it is, is the number of its items.

* `CallStack.push`, `CallStack.pop` — refused on a full and on an empty stack;
* `CallStack.pop_push` — what was pushed last is popped first.
-/

namespace Chip8

/-- A stack of return addresses. -/
structure CallStack where
  /-- The items, the latest first. -/
  items : List Int
  /-- The most items that it takes; none at all if this is not positive. -/
  capacity : Int
  deriving DecidableEq

namespace CallStack

def empty (capacity : Int) : CallStack :=
  ⟨[], capacity⟩

def depth (s : CallStack) : Nat :=
  s.items.length

/-- The items in the order in which they were pushed. -/
def oldestFirst (s : CallStack) : List Int :=
  s.items.reverse

def push (s : CallStack) (item : Int) : Except Fault CallStack :=
  if s.capacity ≤ s.depth then .error .stackOverflow
  else .ok { s with items := item :: s.items }

def pop (s : CallStack) : Except Fault (Int × CallStack) :=
  match s.items with
  | [] => .error .stackUnderflow
  | item :: rest => .ok (item, { s with items := rest })

theorem pop_push {s t : CallStack} {item : Int} (h : s.push item = .ok t) :
    t.pop = .ok (item, s) := by
  unfold push at h
  split at h
  · simp at h
  · simp only [Except.ok.injEq] at h
    subst h
    rfl

end CallStack

end Chip8
