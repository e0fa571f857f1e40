import Chip8.Machine.Cycle

/-!
# Events

All that can happen to a machine from outside, as one type, and the runs that these events make up.
A machine is *reachable* if some finite run leads to it from a machine that has just been built. A
run goes on after a fault, from the machine that the faulty event left behind.

* `Machine.react` — what comes of one event;
* `Machine.after` — the machine at the end of a run;
* `Machine.Reachable` — the machines that a run can lead to;
* `Machine.reachable_iff` — these are the ends of the runs.
-/

namespace Chip8

/-- What can happen to a machine from outside. -/
inductive Event
  | loadRom (rom : List UInt8)
  | cycle
  | tick
  | press (key : Key)
  | release (key : Key)
  | releaseAll
  /-- The delay timer is set to the lowest eight bits of a number. -/
  | setDelay (value : Int)
  /-- The sound timer is set to the lowest eight bits of a number. -/
  | setSound (value : Int)
  /-- The screen is asked whether it has changed. -/
  | consumeChanged
  /-- The machine is asked whether the buzzer should sound. -/
  | askSound
  /-- The machine is asked for its picture. -/
  | askPicture
  deriving DecidableEq

namespace Machine

def loadRom (m : Machine) (rom : List UInt8) : Except Fault Machine := do
  let memory ← m.memory.loadRom rom
  return { m with memory }

def tick (m : Machine) : Machine :=
  { m with timers := m.timers.tick }

def press (m : Machine) (key : Key) : Machine :=
  { m with keypad := m.keypad.press key }

def release (m : Machine) (key : Key) : Machine :=
  { m with keypad := m.keypad.release key }

def releaseAll (m : Machine) : Machine :=
  { m with keypad := Keypad.released }

/-- Sets the delay timer to the lowest eight bits of a number. -/
def setDelay (m : Machine) (value : Int) : Machine :=
  { m with timers := m.timers.setDelay value }

/-- Sets the sound timer to the lowest eight bits of a number. -/
def setSound (m : Machine) (value : Int) : Machine :=
  { m with timers := m.timers.setSound value }

/-- Asks whether the picture may have changed since this was last asked. -/
def consumeChanged (m : Machine) : Bool × Machine :=
  let (changed, screen) := m.screen.consumeChanged
  (changed, { m with screen })

def react (m : Machine) : Event → Outcome
  | .loadRom rom =>
    match m.loadRom rom with
    | .ok after => { machine := after }
    | .error fault => { machine := m, fault }
  | .cycle => m.cycle
  | .tick => { machine := m.tick }
  | .press key => { machine := m.press key }
  | .release key => { machine := m.release key }
  | .releaseAll => { machine := m.releaseAll }
  | .setDelay value => { machine := m.setDelay value }
  | .setSound value => { machine := m.setSound value }
  | .consumeChanged => { machine := m.consumeChanged.2 }
  | .askSound | .askPicture => { machine := m }

/-- The machine at the end of a run. -/
def after (m : Machine) (events : List Event) : Machine :=
  events.foldl (fun m event => (m.react event).machine) m

@[simp] theorem after_nil (m : Machine) : m.after [] = m := rfl

@[simp] theorem after_cons (m : Machine) (event : Event) (events : List Event) :
    m.after (event :: events) = (m.react event).machine.after events := rfl

@[simp] theorem after_append (m : Machine) (first second : List Event) :
    m.after (first ++ second) = (m.after first).after second := by
  simp [after]

/-- The machines that a run can lead to. -/
inductive Reachable : Machine → Prop
  | boot (monitor : Monitor) (noise : Noise) : Reachable (Machine.boot monitor noise)
  | step {m : Machine} (event : Event) : Reachable m → Reachable (m.react event).machine

/-- What a run leads to from a reachable machine is reachable as well. -/
theorem Reachable.after {m : Machine} (h : Reachable m) (events : List Event) :
    Reachable (m.after events) := by
  induction events generalizing m with
  | nil => exact h
  | cons event rest ih => exact ih (h.step event)

/-- The reachable machines are those that a run leads to from one that has just been built. -/
theorem reachable_iff {m : Machine} :
    Reachable m ↔ ∃ monitor noise events, m = (boot monitor noise).after events := by
  constructor
  · intro h
    induction h with
    | boot monitor noise => exact ⟨monitor, noise, [], rfl⟩
    | step event _ ih =>
      obtain ⟨monitor, noise, events, rfl⟩ := ih
      exact ⟨monitor, noise, events ++ [event], by simp⟩
  · rintro ⟨monitor, noise, events, rfl⟩
    exact (Reachable.boot monitor noise).after events

end Machine

end Chip8
