import Chip8.Console

/-!
# Runs of a console

A console that takes its times from a clock. A step reads the clock once, does all that is to be done
at that moment, and then reads the clock until the next cycle is due. A run is a start followed by
steps, up to a request to quit or to whatever stops it.

* `Console.step` — one step;
* `Console.run` — a whole run; it ends because the clock can only be read so often;
* `Console.remaining_step` — a step that goes on has read the clock.
-/

namespace Chip8

/-- What comes of running a console by a clock. -/
structure Stepped where
  console : Console
  clock : Clock
  /-- Whether to go on, or why the console cannot. -/
  goOn : Except Halt Bool

namespace Console

/-- Waits for the next cycle after what was done at a moment. -/
def pause (c : Console) (clock : Clock) (now : Float) : Stepped :=
  match c.interval with
  | none => ⟨c, clock, .ok true⟩
  | some interval =>
    match clock.waitUntil (now + interval) with
    | (true, clock) => ⟨c, clock, .ok true⟩
    | (false, clock) => ⟨c, clock, .error .clockSpent⟩

def step (c : Console) (clock : Clock) : Stepped :=
  match clock.read? with
  | none => ⟨c, clock, .error .clockSpent⟩
  | some (now, clock) =>
    let beat := c.beat now
    match beat.goOn with
    | .ok true => beat.console.pause clock now
    | goOn => ⟨beat.console, clock, goOn⟩

/-- Starts the console at the time that a clock gives. -/
def startBy (c : Console) (clock : Clock) : Stepped :=
  match clock.read? with
  | none => ⟨c, clock, .error .clockSpent⟩
  | some (now, clock) => ⟨c.start now, clock, .ok true⟩

theorem remaining_pause (c : Console) (clock : Clock) (now : Float) :
    (c.pause clock now).clock.remaining ≤ clock.remaining := by
  unfold pause
  split
  · exact Nat.le_refl _
  · rename_i interval _
    have h := Clock.remaining_waitUntil clock (now + interval)
    split
    all_goals
      rename_i heq
      rw [heq] at h
      exact h

theorem remaining_step {c : Console} {clock : Clock} {b : Bool}
    (h : (c.step clock).goOn = .ok b) : (c.step clock).clock.remaining < clock.remaining := by
  unfold step at h ⊢
  cases hread : clock.read? with
  | none => simp [hread] at h
  | some reading =>
    obtain ⟨now, next⟩ := reading
    have hlt := Clock.remaining_read? hread
    simp only [hread] at h ⊢
    split
    · exact Nat.lt_of_le_of_lt (remaining_pause ..) hlt
    · exact hlt

/-- Steps until the console is asked to quit or cannot go on. -/
def steps (c : Console) (clock : Clock) : Stepped :=
  match _h : c.step clock with
  | ⟨console, next, .ok true⟩ => console.steps next
  | stepped => stepped
termination_by clock.remaining
decreasing_by
  have hlt : (c.step clock).clock.remaining < clock.remaining :=
    remaining_step (b := true) (by rw [_h])
  rwa [_h] at hlt

/-- Starts the console and steps until it is asked to quit or cannot go on. -/
def run (c : Console) (clock : Clock) : Stepped :=
  let started := c.startBy clock
  match started.goOn with
  | .ok _ => started.console.steps started.clock
  | .error _ => started

end Console

end Chip8
