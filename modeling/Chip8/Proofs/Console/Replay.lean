import Chip8.Proofs.Console.Steps
import Chip8.Proofs.Double.Finite

/-!
# Runs of a console as replays

Whatever a console does to its machine at one moment of time is a sequence of events, always in the
same order: the keys that the keyboard works, the question whether the picture has changed, the counts
of the timers, and one cycle. `Console.script` reads that sequence off the console and the moment. A
machine that is given the scripts of all moments of a run goes through the same states as the one in
the console, and ends in the same state (`Console.machine_steps`).

The script of a moment is cut short by a request to quit, and by a time that is not within the range
of numbers. When the time since the last count of the timers is, `Console.run_is_replay` says what the
script is.

* `Console.machine_beat`: a moment does to the machine what its script says;
* `Console.machine_steps`, `Console.machine_run`: so do the moments of a run.
-/

namespace Chip8

/-! ### Keys and counts as events -/

namespace Keymap

/-- What a command does to a machine. -/
def event? (m : Keymap) : KeyCommand → Option Event
  | .press code => (m.key? code).map .press
  | .release code => (m.key? code).map .release
  | .quit => none

/-- What commands in turn do to a machine. -/
def events (m : Keymap) (commands : List KeyCommand) : List Event :=
  commands.flatMap fun command => (m.event? command).toList

end Keymap

namespace Machine

/-- A command that stands for a key does to the pad what it does to the machine, and any other does nothing.
-/
theorem after_command (m : Machine) (keymap : Keymap) (command : KeyCommand) :
    m.after (keymap.event? command).toList =
      { m with keypad := keymap.obey m.keypad command } := by
  cases command with
  | quit => rfl
  | press code =>
    simp only [Keymap.event?, Keymap.obey]
    cases keymap.key? code <;> rfl
  | release code =>
    simp only [Keymap.event?, Keymap.obey]
    cases keymap.key? code <;> rfl

/-- The events of commands do to the pad what the commands do. -/
theorem after_commands (m : Machine) (keymap : Keymap) (commands : List KeyCommand) :
    m.after (keymap.events commands) =
      { m with keypad := commands.foldl keymap.obey m.keypad } := by
  induction commands generalizing m with
  | nil => rfl
  | cons command rest ih =>
    rw [Keymap.events, List.flatMap_cons, after_append, after_command, List.foldl_cons]
    exact ih { m with keypad := keymap.obey m.keypad command }

/-- Counts one by one are so many counts at once. -/
theorem after_ticks (m : Machine) (n : Nat) :
    m.after (List.replicate n .tick) = { m with timers := m.timers.ticks n } := by
  induction n generalizing m with
  | zero => rfl
  | succ n ih => exact ih m.tick

end Machine

namespace Console

variable {c titled : Console} {now : Float} {clock : Clock}

/-! ### Scripts -/

/-- The commands that the keyboard gives at a moment. -/
def commandsAt (c : Console) (now : Float) : List KeyCommand :=
  if c.nextRefresh ≤ now then c.polls.headD [] else []

/-- The question whether the picture has changed, if it is put at a moment. -/
def questionAt (c : Console) (now : Float) : List Event :=
  if c.nextRefresh ≤ now then [.consumeChanged] else []

/-- The counts of the timers that a number of them asks for. -/
def ticksFor (due : Int) : List Event :=
  List.replicate (min due maxCatchUp).toNat .tick

/-- What is done to the machine at a moment. -/
def script (c : Console) (now : Float) : List Event :=
  match c.reportWhenDue now with
  | .error _ => []
  | .ok _ =>
    c.keymap.events (c.commandsAt now) ++
      if .quit ∈ c.commandsAt now then []
      else c.questionAt now ++
        match c.dueTicks now with
        | .error _ => []
        | .ok due => ticksFor due ++ [.cycle]

/-! ### The parts of a moment as events -/

/-- A refresh works panel and buzzer, and of the machine it asks one question. -/
theorem refresh_keeps (c : Console) :
    ∃ panel buzzer calls, c.refresh = { c with
      panel, buzzer, calls
      machine := c.machine.after [.consumeChanged] } := by
  -- The panel is asked for different things in the two cases, and the machine for the same.
  cases hchanged : c.machine.screen.changed with
  | true =>
    rw [refresh, showPicture_of_changed hchanged]
    exact ⟨_, _, _, rfl⟩
  | false =>
    rw [refresh, showPicture_of_unchanged hchanged]
    exact ⟨_, _, _, rfl⟩

/-- What the keyboard and the display do when they are due: the keys, and the question whether the
picture has changed unless a key was to quit. -/
theorem refreshWhenDue_keeps (c : Console) (now : Float) :
    ∃ panel buzzer nextRefresh frames calls,
      c.refreshWhenDue now = (decide (.quit ∈ c.commandsAt now), { c with
        panel, buzzer, nextRefresh, frames, calls
        machine := c.machine.after (c.keymap.events (c.commandsAt now) ++
          if .quit ∈ c.commandsAt now then [] else c.questionAt now)
        polls := if c.nextRefresh ≤ now then c.polls.tail else c.polls }) := by
  -- Due and asked to quit, due and not asked to, or not due at all.
  by_cases hdue : c.nextRefresh ≤ now
  · have hcommands : c.commandsAt now = c.polls.headD [] := if_pos hdue
    have hquestion : c.questionAt now = [.consumeChanged] := if_pos hdue
    rw [hcommands, hquestion, if_pos hdue]
    by_cases hquit : .quit ∈ c.polls.headD []
    · rw [refreshWhenDue_of_quit hdue hquit, pollKeys_eq, if_pos hquit, List.append_nil,
        Machine.after_commands, decide_eq_true hquit]
      exact ⟨_, _, _, _, _, rfl⟩
    · obtain ⟨panel, buzzer, calls, hrefresh⟩ := refresh_keeps (c.pollKeys.2.putOff now)
      rw [refreshWhenDue_of_due hdue hquit, hrefresh, pollKeys_eq, if_neg hquit,
        Machine.after_append, Machine.after_commands, decide_eq_false hquit]
      exact ⟨_, _, _, _, _, rfl⟩
  · have hcommands : c.commandsAt now = [] := if_neg hdue
    have hquestion : c.questionAt now = [] := if_neg hdue
    rw [refreshWhenDue_of_early hdue, hcommands, hquestion, if_neg hdue]
    exact ⟨_, _, _, _, _, rfl⟩

/-- A refresh that is due, and that no request to quit keeps from being made, leaves the machine as the
keys have left it, but for the screen: that is no longer marked as changed. -/
theorem machine_refreshWhenDue (hdue : c.nextRefresh ≤ now) (hgoes : .quit ∉ c.polls.headD []) :
    let keyed := c.machine.after (c.keymap.events (c.polls.headD []))
    (c.refreshWhenDue now).1 = false ∧
      (c.refreshWhenDue now).2.machine =
        { keyed with screen := { keyed.screen with changed := false } } := by
  intro keyed
  -- Working the pad with commands is what their events do.
  have hkeyed : c.pollKeys.2.machine = keyed := by
    rw [pollKeys_eq]
    exact (Machine.after_commands c.machine c.keymap _).symm
  obtain ⟨panel, buzzer, calls, hrefresh⟩ := refresh_keeps (c.pollKeys.2.putOff now)
  rw [refreshWhenDue_of_due hdue hgoes, hrefresh, ← hkeyed]
  exact ⟨rfl, rfl⟩

/-- A cycle of the console is one of its machine, whether it fails or not. -/
theorem machine_runCycle (c : Console) :
    c.runCycle.console.machine = c.machine.after [.cycle] := by
  cases hfault : c.machine.cycle.fault with
  | none =>
    rw [runCycle_of_no_fault hfault]
    rfl
  | some cause =>
    rw [runCycle_of_fault hfault]
    rfl

theorem polls_runCycle (c : Console) : c.runCycle.console.polls = c.polls := by
  cases hfault : c.machine.cycle.fault with
  | none => rw [runCycle_of_no_fault hfault]
  | some cause => rw [runCycle_of_fault hfault]

/-! ### Moments and their scripts -/

/-- What a moment has done to a console before it counts the timers down. -/
structure Prepared (c : Console) (now : Float) (d : Console) : Prop where
  machine : d.machine = c.machine.after (c.keymap.events (c.commandsAt now) ++
    if .quit ∈ c.commandsAt now then [] else c.questionAt now)
  polls : d.polls = if c.nextRefresh ≤ now then c.polls.tail else c.polls
  nextTick : d.nextTick = c.nextTick
  cycles : d.cycles = if c.nextReport ≤ now then 0 else c.cycles

/-- What the keyboard asks for at a moment is the same before the title is renewed and after it. -/
theorem Titled.commandsAt_eq (h : c.Titled now titled) : titled.commandsAt now = c.commandsAt now := by
  rw [commandsAt, h.nextRefresh, h.polls, commandsAt]

theorem Titled.questionAt_eq (h : c.Titled now titled) : titled.questionAt now = c.questionAt now := by
  rw [questionAt, h.nextRefresh, questionAt]

/-- Up to the timers a moment can be told from the console before its title was renewed. -/
theorem Titled.prepared (h : c.Titled now titled) :
    ∃ d, c.Prepared now d ∧
      titled.refreshWhenDue now = (decide (.quit ∈ c.commandsAt now), d) := by
  -- What the renewal leaves alone is put back in terms of the console before it.
  obtain ⟨panel, buzzer, nextRefresh, frames, calls, hrefreshed⟩ := refreshWhenDue_keeps titled now
  rw [h.commandsAt_eq, h.questionAt_eq, h.machine, h.keymap, h.polls, h.nextTick, h.nextRefresh,
    h.cycles] at hrefreshed
  refine ⟨_, ?_, hrefreshed⟩
  exact ⟨rfl, rfl, rfl, rfl⟩

/-- The three ways in which a moment goes once its title has been renewed: it is asked to quit, the
counts that are due are beyond the range of numbers, or there is a cycle. -/
theorem beat_of_titled (htitled : c.reportWhenDue now = .ok titled) :
    ∃ d, c.Prepared now d ∧
      (.quit ∈ c.commandsAt now → c.beat now = ⟨d, .ok false⟩) ∧
      (.quit ∉ c.commandsAt now →
        (∀ cause, c.dueTicks now = .error cause → c.beat now = ⟨d, .error (.noTime cause)⟩) ∧
        ∀ due, c.dueTicks now = .ok due → ∃ nextTick, c.beat now = Console.runCycle { d with
          nextTick
          machine := d.machine.after (ticksFor due) }) := by
  obtain ⟨d, hprepared, hrefreshed⟩ := (titled_of_reportWhenDue htitled).prepared
  have hdue := dueTicks_congr now hprepared.nextTick
  refine ⟨d, hprepared, fun hquit => ?_, fun hgoes => ⟨fun cause hcause => ?_, fun due hticks => ?_⟩⟩
  · -- The title and the keyboard are all that is reached.
    rw [decide_eq_true hquit] at hrefreshed
    exact beat_of_quit htitled hrefreshed
  · -- The number of counts cannot be made, and the moment ends before the cycle.
    rw [decide_eq_false hgoes] at hrefreshed
    rw [← hdue] at hcause
    exact beat_of_untimed htitled hrefreshed (tickWhenDue_of_error hcause)
  · rw [decide_eq_false hgoes] at hrefreshed
    rw [← hdue] at hticks
    obtain ⟨nextTick, hticked⟩ := tickWhenDue_of_ok hticks
    rw [ticksFor, Machine.after_ticks]
    exact ⟨nextTick, beat_of_ticked htitled hrefreshed hticked⟩

/-- A moment does to the machine what its script says. -/
theorem machine_beat (c : Console) (now : Float) :
    (c.beat now).console.machine = c.machine.after (c.script now) := by
  -- The cases are those of the script: each `match` in it is one place where a moment can end.
  cases htitled : c.reportWhenDue now with
  | error cause =>
    rw [beat_of_untitled htitled]
    simp only [script, htitled, Machine.after_nil]
  | ok titled =>
    obtain ⟨d, hprepared, hquits, hgoesOn⟩ := beat_of_titled htitled
    simp only [script, htitled]
    by_cases hquit : .quit ∈ c.commandsAt now
    · rw [hquits hquit, hprepared.machine]
      simp only [if_pos hquit]
    · have hmachine := hprepared.machine
      simp only [if_neg hquit] at hmachine ⊢
      cases hticks : c.dueTicks now with
      | error cause =>
        rw [(hgoesOn hquit).1 cause hticks, hmachine, List.append_nil]
      | ok due =>
        obtain ⟨nextTick, hbeat⟩ := (hgoesOn hquit).2 due hticks
        rw [hbeat, machine_runCycle, hmachine]
        simp only [Machine.after_append]

/-! ### Runs and their scripts -/

/-- The moment of a step, if it reads the clock: the console and the time at its start. -/
def moment? (c : Console) (clock : Clock) : Option (Console × Float) :=
  clock.read?.map fun reading => (c, reading.1)

/-- The moments of a row of steps. -/
def moments (c : Console) (clock : Clock) : List (Console × Float) :=
  (c.moment? clock).toList ++
    match _h : (c.step clock).goOn with
    | .ok true => (c.step clock).console.moments (c.step clock).clock
    | _ => []
termination_by clock.remaining
decreasing_by exact remaining_step _h

/-- What is done to the machine at moments in turn. -/
def scripts (moments : List (Console × Float)) : List Event :=
  moments.flatMap fun moment => moment.1.script moment.2

theorem scripts_append (first second : List (Console × Float)) :
    scripts (first ++ second) = scripts first ++ scripts second := by
  rw [scripts, List.flatMap_append]
  rfl

/-- A step does to the machine what the script of its moment says. -/
theorem machine_step (c : Console) (clock : Clock) :
    (c.step clock).console.machine = c.machine.after (scripts (c.moment? clock).toList) := by
  cases hread : clock.read? with
  | none =>
    rw [step_of_spent hread, moment?, hread]
    rfl
  | some reading =>
    rw [console_step hread, machine_beat, moment?, hread]
    simp only [scripts, Option.map_some, Option.toList_some, List.flatMap_cons, List.flatMap_nil,
      List.append_nil]

/-- The moments of a row that goes on: that of the first step, and those of the rest. -/
theorem moments_of_goOn (h : (c.step clock).goOn = .ok true) :
    c.moments clock =
      (c.moment? clock).toList ++ (c.step clock).console.moments (c.step clock).clock := by
  rw [moments.eq_def c clock]
  split
  · rfl
  · rename_i hstop
    exact absurd h (hstop ·)

/-- A row that ends with its first step has its moment alone. -/
theorem moments_of_stop (h : (c.step clock).goOn ≠ .ok true) :
    c.moments clock = (c.moment? clock).toList := by
  rw [moments.eq_def c clock]
  split
  · rename_i hgoes
    exact absurd hgoes h
  · exact List.append_nil _

/-- A row of steps does to the machine what the scripts of its moments say. -/
theorem machine_steps (c : Console) (clock : Clock) :
    (c.steps clock).console.machine = c.machine.after (scripts (c.moments clock)) := by
  -- By the recursion of the loop, from any console and clock that it has come to.
  induction c, clock using moments.induct with
  | case1 c clock ih =>
    by_cases hgoes : (c.step clock).goOn = .ok true
    · -- The script of the first moment, and after it those of the rest.
      rw [steps_of_goOn hgoes, ih hgoes, machine_step, moments_of_goOn hgoes, scripts_append,
        Machine.after_append]
    · rw [steps_of_stop hgoes, machine_step, moments_of_stop hgoes]

/-- The moments of a run are those of its steps. -/
def runMoments (c : Console) (clock : Clock) : List (Console × Float) :=
  (c.startBy clock).console.moments (c.startBy clock).clock

theorem machine_startBy (c : Console) (clock : Clock) :
    (c.startBy clock).console.machine = c.machine := by
  unfold startBy
  cases clock.read? <;> rfl

/-- A run does to the machine what the scripts of its moments say. -/
theorem machine_run (c : Console) (clock : Clock) :
    (c.run clock).console.machine = c.machine.after (scripts (c.runMoments clock)) := by
  rw [run_eq_steps, machine_steps, machine_startBy, runMoments]

/-! ### The script in full -/

/-- At a finite time the title is renewed without fail. -/
theorem exists_titled (hfinite : now.isFinite = true) : ∃ titled, c.reportWhenDue now = .ok titled := by
  obtain ⟨second, hsecond⟩ := Double.exists_wholePart_iff.mpr hfinite
  unfold reportWhenDue
  split
  · rw [hsecond]
    exact ⟨_, rfl⟩
  · exact ⟨_, rfl⟩

/-- The counts that are due, when the time since the last one is within the range of numbers. -/
theorem ticksFor_dueTicks {whole : Int}
    (hwhole : Double.wholePart ((now - c.nextTick) * Layout.timerRate) = .ok whole) :
    ∃ due, c.dueTicks now = .ok due ∧ ticksFor due =
      List.replicate (if now < c.nextTick then 0 else (min (whole + 1) 256).toNat) .tick := by
  obtain ⟨hnow, hnext⟩ := Double.isFinite_of_wholePart hwhole
  -- Only between finite times is being too early the same as not being due.
  by_cases hearly : now < c.nextTick
  · have hnone : ¬ c.nextTick ≤ now := fun hdue =>
      (Double.not_lt_iff_le hnow hnext).mpr hdue hearly
    refine ⟨0, ?_, ?_⟩
    · rw [dueTicks, if_neg hnone]
      rfl
    · rw [if_pos hearly]
      rfl
  · have hdue : c.nextTick ≤ now := (Double.not_lt_iff_le hnow hnext).mp hearly
    refine ⟨whole + 1, ?_, ?_⟩
    · rw [dueTicks, if_pos hdue, hwhole]
      rfl
    · rw [if_neg hearly]
      rfl

/-- What is done to the machine at a moment before the cycle, when the time since the last count is
within the range of numbers and its integer part is known. -/
def before (c : Console) (now : Float) (whole : Int) : List Event :=
  c.keymap.events (c.commandsAt now) ++ c.questionAt now ++
    List.replicate (if now < c.nextTick then 0 else (min (whole + 1) 256).toNat) .tick

/-- The script of a moment in full. -/
theorem script_eq {whole : Int}
    (hwhole : Double.wholePart ((now - c.nextTick) * Layout.timerRate) = .ok whole) :
    c.script now =
      if .quit ∈ c.commandsAt now then c.keymap.events (c.commandsAt now)
      else c.before now whole ++ [.cycle] := by
  -- That the number of counts can be made says that the time is finite, and then there is a title as
  -- well.
  obtain ⟨titled, htitled⟩ := exists_titled (c := c) (Double.isFinite_of_wholePart hwhole).1
  obtain ⟨due, hdue, hticks⟩ := ticksFor_dueTicks hwhole
  simp only [script, htitled, hdue, hticks, before]
  split
  · rw [List.append_nil]
  · rw [← List.append_assoc, ← List.append_assoc]

/-- A step that is asked to quit says so, and counts no cycle. -/
theorem step_of_quit {next : Clock} (hread : clock.read? = some (now, next))
    (htitled : c.reportWhenDue now = .ok titled) (hquit : .quit ∈ c.commandsAt now) :
    (c.step clock).goOn = .ok false ∧
      (c.step clock).console.polls = (if c.nextRefresh ≤ now then c.polls.tail else c.polls) ∧
      (c.step clock).console.cycles = if c.nextReport ≤ now then 0 else c.cycles := by
  obtain ⟨d, hprepared, hquits, -⟩ := beat_of_titled htitled
  have hgoOn := goOn_step (c := c) hread
  rw [console_step hread]
  rw [hquits hquit] at hgoOn ⊢
  refine ⟨?_, hprepared.polls, hprepared.cycles⟩
  -- A step that is to stop does not wait any more.
  rcases hgoOn with hsame | ⟨hgoes, -⟩
  · exact hsame
  · cases hgoes

/-- A step that is not asked to quit runs one cycle. Its fault is the step's own, and only a cycle
without one is counted. -/
theorem step_of_cycle {next : Clock} {whole : Int} (hread : clock.read? = some (now, next))
    (hwhole : Double.wholePart ((now - c.nextTick) * Layout.timerRate) = .ok whole)
    (hgoes : .quit ∉ c.commandsAt now) :
    (c.step clock).console.polls = (if c.nextRefresh ≤ now then c.polls.tail else c.polls) ∧
      (∀ cause, (c.machine.after (c.before now whole)).cycle.fault = some cause →
        (c.step clock).goOn = .error (.fault cause) ∧
          (c.step clock).console.cycles = if c.nextReport ≤ now then 0 else c.cycles) ∧
      ((c.machine.after (c.before now whole)).cycle.fault = none →
        ((c.step clock).goOn = .ok true ∨ (c.step clock).goOn = .error .clockSpent) ∧
          (c.step clock).console.cycles = (if c.nextReport ≤ now then 0 else c.cycles) + 1) := by
  obtain ⟨titled, htitled⟩ := exists_titled (c := c) (Double.isFinite_of_wholePart hwhole).1
  obtain ⟨due, hdue, hticks⟩ := ticksFor_dueTicks hwhole
  obtain ⟨d, hprepared, -, hcycles⟩ := beat_of_titled htitled
  obtain ⟨nextTick, hbeat⟩ := (hcycles hgoes).2 due hdue
  have hgoOn := goOn_step (c := c) hread
  -- The cycle is run by the machine that is left by all that comes before it.
  have hready : d.machine.after (ticksFor due) = c.machine.after (c.before now whole) := by
    rw [hprepared.machine, if_neg hgoes, hticks, before, ← Machine.after_append]
  rw [hready] at hbeat
  rw [console_step hread]
  refine ⟨?_, fun cause hcause => ?_, fun hsound => ?_⟩
  · rw [hbeat, polls_runCycle]
    exact hprepared.polls
  · have hfailed := runCycle_of_fault (c := { d with
      nextTick, machine := c.machine.after (c.before now whole) }) hcause
    rw [hbeat, hfailed] at hgoOn ⊢
    refine ⟨?_, hprepared.cycles⟩
    rcases hgoOn with hsame | ⟨hgoes, -⟩
    · exact hsame
    · cases hgoes
  · have hended := runCycle_of_no_fault (c := { d with
      nextTick, machine := c.machine.after (c.before now whole) }) hsound
    rw [hbeat, hended] at hgoOn ⊢
    exact ⟨hgoOn.imp_right And.right, congrArg (· + 1) hprepared.cycles⟩

/-- **A run is a replay.** Take any console, and a step that reads a time off the clock at which the
counts of the timers since the last one are within the range of numbers. What the step does to the
machine is a fixed sequence of events. If the display is due, the next commands of the keyboard come
first. A request to quit among them ends the step. Otherwise the screen is asked whether it has changed,
if the display is due; then come the counts of the timers, none if they are not due, and no more than
256; and then exactly one cycle. A fault of that cycle is the step's own, and the cycle is not counted.

Of any run of any console, by any clock, the machine is what these sequences make of it one after
another.

Any machine that is asked whether its picture has changed is as before, but that its screen is no longer
marked as changed; and so the refresh of a step leaves the machine that the keys have left. -/
theorem run_is_replay (c : Console) (clock : Clock) :
    (∀ now next whole, clock.read? = some (now, next) →
      Double.wholePart ((now - c.nextTick) * Layout.timerRate) = .ok whole →
      let commands := if c.nextRefresh ≤ now then c.polls.headD [] else []
      let ticks := if now < c.nextTick then 0 else (min (whole + 1) 256).toNat
      let before := c.keymap.events commands ++
        (if c.nextRefresh ≤ now then [.consumeChanged] else []) ++ List.replicate ticks .tick
      let counted := if c.nextReport ≤ now then 0 else c.cycles
      c.script now =
          (if .quit ∈ commands then c.keymap.events commands else before ++ [.cycle]) ∧
        (c.step clock).console.machine = c.machine.after (c.script now) ∧
        (c.step clock).console.polls = (if c.nextRefresh ≤ now then c.polls.tail else c.polls) ∧
        (.quit ∈ commands →
          (c.step clock).goOn = .ok false ∧ (c.step clock).console.cycles = counted) ∧
        (.quit ∉ commands →
          (∀ cause, (c.machine.after before).cycle.fault = some cause →
            (c.step clock).goOn = .error (.fault cause) ∧
              (c.step clock).console.cycles = counted) ∧
          ((c.machine.after before).cycle.fault = none →
            ((c.step clock).goOn = .ok true ∨ (c.step clock).goOn = .error .clockSpent) ∧
              (c.step clock).console.cycles = counted + 1)) ∧
        (c.nextRefresh ≤ now → .quit ∉ commands →
          let keyed := c.machine.after (c.keymap.events commands)
          ∃ titled, c.reportWhenDue now = .ok titled ∧ (titled.refreshWhenDue now).1 = false ∧
            (titled.refreshWhenDue now).2.machine =
              { keyed with screen := { keyed.screen with changed := false } })) ∧
    (c.run clock).console.machine = c.machine.after (scripts (c.runMoments clock)) ∧
    ∀ m : Machine, (m.react .consumeChanged).machine =
      { m with screen := { m.screen with changed := false } } := by
  refine ⟨fun now next whole hread hwhole => ?_, machine_run c clock, fun m => rfl⟩
  intro commands ticks before counted
  obtain ⟨titled, htitled⟩ := exists_titled (c := c) (Double.isFinite_of_wholePart hwhole).1
  have hmachine : (c.step clock).console.machine = c.machine.after (c.script now) := by
    rw [console_step hread, machine_beat]
  -- Each of the two ways makes the statements about the other one empty.
  by_cases hquit : .quit ∈ commands
  · obtain ⟨hgoOn, hpolls, hcycles⟩ := step_of_quit hread htitled hquit
    exact ⟨script_eq hwhole, hmachine, hpolls, fun _ => ⟨hgoOn, hcycles⟩,
      fun hgoes => absurd hquit hgoes, fun _ hgoes => absurd hquit hgoes⟩
  · obtain ⟨hpolls, hcycle⟩ := step_of_cycle hread hwhole hquit
    refine ⟨script_eq hwhole, hmachine, hpolls, fun hasked => absurd hasked hquit, fun _ => hcycle,
      fun hdue _ => ?_⟩
    -- The title before the refresh is no matter of the machine, the keyboard or the display's clock.
    have hsame := titled_of_reportWhenDue htitled
    have hcommands : commands = c.polls.headD [] := if_pos hdue
    rw [hcommands] at hquit ⊢
    have hrefreshed := machine_refreshWhenDue (c := titled) (hsame.nextRefresh ▸ hdue)
      (hsame.polls ▸ hquit)
    rw [hsame.machine, hsame.keymap, hsame.polls] at hrefreshed
    exact ⟨titled, htitled, hrefreshed⟩

/-- A console with two keys to come, and a program that waits for a key. -/
def keyedConsole : Console :=
  bare ((Machine.boot {} (Noise.cycling [])).after [.loadRom [0xF0, 0x0A]])
    [[.press 2, .press 99, .release 3]]

/-- One second after the timers were due. -/
def secondLater : Clock where
  upcoming := [1.0]
  limit := 1

/-- One step, one second late: two of three commands stand for keys, and sixty-one counts are made up for. -/
theorem run_is_replay_keyed :
    keyedConsole.script 1.0 =
        [.press 2, .release 3, .consumeChanged] ++ List.replicate 61 .tick ++ [.cycle] ∧
      (keyedConsole.step secondLater).console.machine = keyedConsole.machine.after
        ([.press 2, .release 3, .consumeChanged] ++ List.replicate 61 .tick ++ [.cycle]) := by
  have hread : secondLater.read? =
      some (1.0, { secondLater with upcoming := [], last := 1.0, taken := 1 }) := rfl
  have hwhole : Double.wholePart ((1.0 - keyedConsole.nextTick) * Layout.timerRate) = .ok 60 := rfl
  have hreplay := (run_is_replay keyedConsole secondLater).1 1.0 _ 60 hread hwhole
  have hscript : keyedConsole.script 1.0 =
      [.press 2, .release 3, .consumeChanged] ++ List.replicate 61 .tick ++ [.cycle] :=
    hreplay.1.trans (by decide +kernel)
  refine ⟨hscript, ?_⟩
  rw [← hscript]
  exact hreplay.2.1

end Console

end Chip8
