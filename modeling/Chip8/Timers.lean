/-!
# Timers

Two counters of one byte that are counted down sixty times a second and stop at zero. The delay
timer is for the program to read; the buzzer sounds for as long as the sound timer is not zero.

* `Timers.tick` — one count of both;
* `Timers.ticks` — several counts;
* `Timers.toNat_delay_ticks`, `Timers.toNat_sound_ticks` — a timer is reduced by the number of
  counts, but not below zero.
-/

namespace Chip8

structure Timers where
  delay : UInt8 := 0
  sound : UInt8 := 0
  deriving DecidableEq

namespace Timers

/-- One less, but not below zero. -/
def countDown (b : UInt8) : UInt8 :=
  if b = 0 then 0 else b - 1

/-- Counting down takes one off, and leaves zero at zero. -/
theorem toNat_countDown (b : UInt8) : (countDown b).toNat = b.toNat - 1 := by
  unfold countDown
  split
  · simp [*]
  · rename_i hb
    -- Above zero the subtraction does not wrap around.
    have hpos : b.toNat ≠ 0 := fun h => hb (UInt8.toNat_inj.mp (by simpa using h))
    have hle : 1 ≤ b := UInt8.le_iff_toNat_le.mpr (by simpa using Nat.one_le_iff_ne_zero.mpr hpos)
    rw [UInt8.toNat_sub_of_le _ _ hle]
    rfl

def tick (t : Timers) : Timers :=
  ⟨countDown t.delay, countDown t.sound⟩

/-- Counts both timers down `n` times. -/
def ticks (t : Timers) : Nat → Timers
  | 0 => t
  | n + 1 => t.tick.ticks n

theorem toNat_delay_ticks (t : Timers) (n : Nat) :
    (t.ticks n).delay.toNat = t.delay.toNat - n := by
  induction n generalizing t with
  | zero => simp [ticks]
  | succ n ih =>
    rw [ticks, ih, tick, toNat_countDown]
    omega

theorem toNat_sound_ticks (t : Timers) (n : Nat) :
    (t.ticks n).sound.toNat = t.sound.toNat - n := by
  induction n generalizing t with
  | zero => simp [ticks]
  | succ n ih =>
    rw [ticks, ih, tick, toNat_countDown]
    omega

/-- Sets the delay timer to the lowest eight bits of a number. -/
def setDelay (t : Timers) (value : Int) : Timers :=
  { t with delay := UInt8.ofInt value }

/-- Sets the sound timer to the lowest eight bits of a number. -/
def setSound (t : Timers) (value : Int) : Timers :=
  { t with sound := UInt8.ofInt value }

def soundOn (t : Timers) : Bool :=
  t.sound > 0

end Timers

end Chip8
