import Chip8.Double
import Chip8.Layout

/-!
# Speeds

How many cycles a machine is to run in a second, as a whole number or not. A speed that is not above
zero means as fast as the host can.

* `Speed.interval` — the time that a cycle takes;
* `Speed.interval_of_nonpos` — at a whole speed that is not above zero, cycles take no set time.
-/

namespace Chip8

/-- Cycles a second. -/
inductive Speed
  | whole (n : Int)
  | real (x : Float)

namespace Speed

def standard : Speed :=
  .whole Layout.defaultSpeed

/-- The time that a cycle takes, none at all if the speed is not above zero. A whole speed may be
beyond the range of times. -/
def interval : Speed → Except Double.NotFinite (Option Float)
  | .whole n =>
    if n ≤ 0 then .ok none
    else
      match Double.nearest? n with
      | some s => .ok (some (1.0 / s))
      | none => .error .infinite
  | .real x => .ok (if x ≤ 0.0 then none else some (1.0 / x))

theorem interval_of_nonpos {n : Int} (h : n ≤ 0) : (whole n).interval = .ok none := by
  simp [interval, h]

end Speed

end Chip8
