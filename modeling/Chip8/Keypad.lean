import Chip8.Fault
import Chip8.Layout

/-!
# Keypad

Sixteen keys, each held or not. Whoever serves the host's keyboard presses and releases them; the
machine only looks.

* `Keypad.firstHeld?` — the lowest key that is held;
* `Keypad.isHeld_press`, `Keypad.isHeld_release` — pressing and releasing concern one key alone;
* `Keypad.key` — the key that an index names, which counts from the end below zero.
-/

namespace Chip8

abbrev Key := Fin 16

/-- Which keys are held. -/
structure Keypad where
  held : Vector Bool 16
  deriving DecidableEq

namespace Keypad

def released : Keypad :=
  ⟨Vector.replicate 16 false⟩

def isHeld (k : Keypad) (key : Key) : Bool :=
  k.held[key]

def press (k : Keypad) (key : Key) : Keypad :=
  ⟨k.held.set key true⟩

def release (k : Keypad) (key : Key) : Keypad :=
  ⟨k.held.set key false⟩

theorem isHeld_press (k : Keypad) (pressed key : Key) :
    (k.press pressed).isHeld key = (key == pressed || k.isHeld key) := by
  simp only [isHeld, press, Fin.getElem_fin, Vector.getElem_set]
  grind

theorem isHeld_release (k : Keypad) (freed key : Key) :
    (k.release freed).isHeld key = (key != freed && k.isHeld key) := by
  simp only [isHeld, release, Fin.getElem_fin, Vector.getElem_set]
  grind

@[simp] theorem isHeld_released (key : Key) : released.isHeld key = false := by
  simp [isHeld, released]

/-- The keys that are held, in ascending order. -/
def heldKeys (k : Keypad) : List Key :=
  (List.finRange 16).filter k.isHeld

/-- The lowest key that is held. -/
def firstHeld? (k : Keypad) : Option Key :=
  (List.finRange 16).find? k.isHeld

/-- The key that an index names. -/
def key (index : Int) : Except Misuse Key :=
  match place? 16 index with
  | some key => .ok key
  | none => .error (.noSuchKey index)

end Keypad

end Chip8
