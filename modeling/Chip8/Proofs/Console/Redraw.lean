import Chip8.Proofs.Console.Steps
import Chip8.Proofs.Machine.Frame

/-!
# Consoles that refresh in another way

A console hands its picture over only if it may have changed. What that saves must not be seen, and to
say so there has to be something to compare with: the console that hands its picture over at every
refresh (`Console.redraw`). The definitions below are those of a console's steps and runs, with the way
to refresh as a parameter; with `Console.refresh` for it they are the console's own
(`Console.stepBy_refresh`, `Console.runBy_refresh`).

What a user of a console can ask of it is a `Console.Request`, and a history is a list of requests that
goes on after any that fails (`Console.askAll`).

* `Console.stepsBy_of_goOn`, `Console.stepsBy_of_stop`: a run step by step;
* `Console.askAll_run`: a run is a start followed by so many steps.
-/

namespace Chip8

namespace Console

/-- Brings panel and buzzer up to date, with the picture handed over whether or not it may have
changed. -/
def redraw (c : Console) : Console :=
  c.handOver.setBuzzer

variable (renew : Console → Console)

/-- Looks at the keyboard and refreshes the display in the given way when that is due. -/
def refreshWhenDueBy (c : Console) (now : Float) : Bool × Console :=
  if c.nextRefresh ≤ now then
    let (quit, c) := c.pollKeys
    if quit then (true, c)
    else
      let c := renew { c with nextRefresh := now + refreshInterval }
      (false, { c with frames := c.frames + 1 })
  else (false, c)

/-- All that is done at one moment of time. -/
def beatBy (c : Console) (now : Float) : Beat :=
  match c.reportWhenDue now with
  | .error cause => ⟨c, .error (.noTime cause)⟩
  | .ok c =>
    match c.refreshWhenDueBy renew now with
    | (true, c) => ⟨c, .ok false⟩
    | (false, c) =>
      match c.tickWhenDue now with
      | .error cause => ⟨c, .error (.noTime cause)⟩
      | .ok c => c.runCycle

/-- One step by a clock. -/
def stepBy (c : Console) (clock : Clock) : Stepped :=
  match clock.read? with
  | none => ⟨c, clock, .error .clockSpent⟩
  | some (now, clock) =>
    let beat := c.beatBy renew now
    match beat.goOn with
    | .ok true => beat.console.pause clock now
    | goOn => ⟨beat.console, clock, goOn⟩

variable {renew} {c : Console} {clock : Clock}

/-- A step that reads the clock does what is to be done at that moment, and then waits if it is to go on. -/
theorem stepBy_of_read {now : Float} {next : Clock} (hread : clock.read? = some (now, next)) :
    c.stepBy renew clock =
      match (c.beatBy renew now).goOn with
      | .ok true => (c.beatBy renew now).console.pause next now
      | goOn => ⟨(c.beatBy renew now).console, next, goOn⟩ := by
  rw [stepBy, hread]

/-- A step that goes on has read the clock. -/
theorem remaining_stepBy {b : Bool} (h : (c.stepBy renew clock).goOn = .ok b) :
    (c.stepBy renew clock).clock.remaining < clock.remaining := by
  cases hread : clock.read? with
  | none =>
    rw [stepBy, hread] at h
    cases h
  | some reading =>
    obtain ⟨now, next⟩ := reading
    have hlt := Clock.remaining_read? hread
    rw [stepBy_of_read hread]
    split
    · exact Nat.lt_of_le_of_lt (remaining_pause ..) hlt
    · exact hlt

variable (renew)

/-- Steps until the console is asked to quit or cannot go on. -/
def stepsBy (c : Console) (clock : Clock) : Stepped :=
  match _h : (c.stepBy renew clock).goOn with
  | .ok true => (c.stepBy renew clock).console.stepsBy (c.stepBy renew clock).clock
  | _ => c.stepBy renew clock
termination_by clock.remaining
decreasing_by exact remaining_stepBy _h

/-- A start, and steps after it. -/
def runBy (c : Console) (clock : Clock) : Stepped :=
  match (c.startBy clock).goOn with
  | .ok _ => (c.startBy clock).console.stepsBy renew (c.startBy clock).clock
  | .error _ => c.startBy clock

variable {renew}

/-- When the first step is to go on, what remains is a row of steps from where it has led. -/
theorem stepsBy_of_goOn (h : (c.stepBy renew clock).goOn = .ok true) :
    c.stepsBy renew clock =
      (c.stepBy renew clock).console.stepsBy renew (c.stepBy renew clock).clock := by
  rw [stepsBy]
  split
  · rfl
  · rename_i hstop
    exact absurd h (hstop ·)

/-- When the first step is not to go on, it is the only one. -/
theorem stepsBy_of_stop (h : (c.stepBy renew clock).goOn ≠ .ok true) :
    c.stepsBy renew clock = c.stepBy renew clock := by
  rw [stepsBy]
  split
  · rename_i hgoes
    exact absurd hgoes h
  · rfl

/-! ### The console's own way -/

/-- With the console's own way to refresh, the parts and the whole of a moment are its own by definition. -/
theorem refreshWhenDueBy_refresh (now : Float) :
    c.refreshWhenDueBy refresh now = c.refreshWhenDue now := rfl

theorem beatBy_refresh (now : Float) : c.beatBy refresh now = c.beat now := rfl

theorem stepBy_refresh : c.stepBy refresh clock = c.step clock := rfl

/-- The two loops recur in different ways, so that they are only the same step by step. -/
theorem stepsBy_refresh : c.stepsBy refresh clock = c.steps clock := by
  induction c, clock using stepsBy.induct refresh with
  | case1 c clock hgoes ih =>
    -- The first step is the same, and by the induction the row behind it is.
    rw [stepsBy_of_goOn hgoes, ih]
    exact (steps_of_goOn hgoes).symm
  | case2 c clock hstop =>
    rw [stepsBy_of_stop hstop]
    exact (steps_of_stop hstop).symm

/-- A run that refreshes in the console's own way is a run of the console. -/
theorem runBy_refresh : c.runBy refresh clock = c.run clock := by
  -- Both kinds of run begin with the same start, and end there if it fails.
  cases hstart : (c.startBy clock).goOn with
  | ok b => simp only [runBy, run, hstart, stepsBy_refresh]
  | error halt => simp only [runBy, run, hstart]

/-! ### Histories -/

/-- What can be asked of a console. -/
inductive Request
  | start
  | step
  | run
  | refresh
  /-- To give the panel a title with the given rates. -/
  | report (frames cycles : Int)
  /-- To work the machine's timers or its pad from outside. -/
  | work (event : Event) (peripheral : event.isPeripheral = true)

/-- What comes of a request. -/
def ask (c : Console) (clock : Clock) : Request → Stepped
  | .start => c.startBy clock
  | .step => c.step clock
  | .run => c.run clock
  | .refresh => ⟨c.refresh, clock, .ok true⟩
  | .report frames cycles => ⟨c.report frames cycles, clock, .ok true⟩
  | .work event _ => ⟨{ c with machine := (c.machine.react event).machine }, clock, .ok true⟩

/-- A history: requests one after another, whatever comes of each. -/
def askAll (c : Console) (clock : Clock) : List Request → Console × Clock
  | [] => (c, clock)
  | request :: rest =>
    (c.ask clock request).console.askAll (c.ask clock request).clock rest

variable (renew) in
/-- What comes of a request, when steps, runs and refreshes refresh in the given way. -/
def askBy (c : Console) (clock : Clock) : Request → Stepped
  | .step => c.stepBy renew clock
  | .run => c.runBy renew clock
  | .refresh => ⟨renew c, clock, .ok true⟩
  | request => c.ask clock request

variable (renew) in
/-- A history of a console that refreshes in the given way. -/
def askAllBy (c : Console) (clock : Clock) : List Request → Console × Clock
  | [] => (c, clock)
  | request :: rest =>
    (c.askBy renew clock request).console.askAllBy (c.askBy renew clock request).clock rest

/-- How many steps there are in a row of them, the one that ends it included. -/
def stepCount (c : Console) (clock : Clock) : Nat :=
  match _h : (c.step clock).goOn with
  | .ok true => (c.step clock).console.stepCount (c.step clock).clock + 1
  | _ => 1
termination_by clock.remaining
decreasing_by exact remaining_step _h

/-- A step that goes on is counted before the rest of its row. -/
theorem stepCount_of_goOn (h : (c.step clock).goOn = .ok true) :
    c.stepCount clock = (c.step clock).console.stepCount (c.step clock).clock + 1 := by
  rw [stepCount]
  split
  · rfl
  · rename_i hstop
    exact absurd h (hstop ·)

/-- A step that does not go on is a row of one. -/
theorem stepCount_of_stop (h : (c.step clock).goOn ≠ .ok true) : c.stepCount clock = 1 := by
  rw [stepCount]
  split
  · rename_i hgoes
    exact absurd hgoes h
  · rfl

/-- The requests for the steps of a row, one for each of them. -/
def stepRequests (c : Console) (clock : Clock) : List Request :=
  List.replicate (c.stepCount clock) .step

/-- A row of steps that goes on is a request for its first step, and then the requests for the rest. -/
theorem stepRequests_of_goOn (h : (c.step clock).goOn = .ok true) :
    c.stepRequests clock = .step :: (c.step clock).console.stepRequests (c.step clock).clock := by
  rw [stepRequests, stepCount_of_goOn h]
  rfl

/-- A row that ends with its first step is one request. -/
theorem stepRequests_of_stop (h : (c.step clock).goOn ≠ .ok true) :
    c.stepRequests clock = [.step] := by
  rw [stepRequests, stepCount_of_stop h]
  rfl

/-- Steps in a row are so many requests for a step. -/
theorem askAll_steps (c : Console) (clock : Clock) :
    c.askAll clock (c.stepRequests clock) = ((c.steps clock).console, (c.steps clock).clock) := by
  induction c, clock using stepCount.induct with
  | case1 c clock hgoes ih =>
    -- The first request leads to where the row goes on.
    rw [stepRequests_of_goOn hgoes, steps_of_goOn hgoes]
    exact ih
  | case2 c clock hstop =>
    -- What does not go on is asked for all the same, and the history ends there by itself.
    rw [stepRequests_of_stop hstop, steps_of_stop hstop]
    rfl

/-- The requests for a run: a start, and the steps from where it leads. -/
def runRequests (c : Console) (clock : Clock) : List Request :=
  .start :: (c.startBy clock).console.stepRequests (c.startBy clock).clock

/-- A run is a start followed by so many steps. -/
theorem askAll_run (c : Console) (clock : Clock) :
    c.askAll clock (c.runRequests clock) = ((c.run clock).console, (c.run clock).clock) := by
  rw [run_eq_steps]
  exact askAll_steps (c.startBy clock).console (c.startBy clock).clock

end Console

end Chip8
