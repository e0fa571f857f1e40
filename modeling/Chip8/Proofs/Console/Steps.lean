import Chip8.Console.Run

/-!
# A step, part by part

What a console does at a moment of time has four parts: the title, the keyboard and the display, the
counts of the timers, and the cycle. Each of them gets its equations here, one for every way in which it
can go, and so does the moment as a whole, a step, and a row of steps. Whatever is proved about consoles
is proved from these, and need not look into the parts again.

* `Console.Titled`: what renewing the title leaves alone;
* `Console.pollKeys_eq`, `Console.refreshWhenDue_of_due`: the keyboard and the display;
* `Console.tickWhenDue_of_ok`, `Console.runCycle_of_fault`: the timers and the cycle;
* `Console.beat_induction`: what is kept by the parts of a moment is kept by the whole;
* `Console.steps_of_goOn`, `Console.steps_of_stop`: a row of steps by the first of them;
* `Console.run_eq_steps`: a run by its steps.
-/

namespace Chip8

namespace Console

/-- A headless and silent console that runs its cycles as fast as it can. Its keys are those of the host
with the codes from zero to fifteen. -/
def bare (machine : Machine) (polls : List (List KeyCommand)) : Console where
  machine
  panel := Panel.headless none
  buzzer := Buzzer.silent
  keymap := ⟨[0, 1, 2, 3, 4, 5, 6, 7, 8, 9, 10, 11, 12, 13, 14, 15], rfl, by decide⟩
  polls
  interval := none

/-- The console with a keyboard that will ask for the given commands. -/
def withPolls (c : Console) (polls : List (List KeyCommand)) : Console :=
  { c with polls }

variable {c d titled ticked : Console} {now : Float} {clock : Clock}

/-- A new console has counted nothing and made no calls. -/
theorem assemble_eq_ok {machine : Machine} {panel : Panel} {buzzer : Buzzer} {keymap : Keymap}
    {speed : Option Speed} (h : assemble machine panel buzzer keymap speed = .ok c) :
    ∃ interval, c = { machine, panel, buzzer, keymap, interval } := by
  unfold assemble at h
  -- Only the speed can be wrong with what a console is put together from.
  cases hinterval : (speed.getD Speed.standard).interval with
  | error cause =>
    rw [hinterval] at h
    cases h
  | ok interval =>
    rw [hinterval] at h
    cases h
    exact ⟨interval, rfl⟩

/-! ### The title -/

/-- What renewing the title leaves alone, and that the cycles are counted anew. -/
structure Titled (c : Console) (now : Float) (titled : Console) : Prop where
  machine : titled.machine = c.machine
  window : titled.panel.window = c.panel.window
  frame : titled.panel.frame = c.panel.frame
  buzzer : titled.buzzer = c.buzzer
  keymap : titled.keymap = c.keymap
  polls : titled.polls = c.polls
  nextTick : titled.nextTick = c.nextTick
  nextRefresh : titled.nextRefresh = c.nextRefresh
  cycles : titled.cycles = if c.nextReport ≤ now then 0 else c.cycles

/-- Renewing the title touches the title, the counters and the time of the next one. -/
theorem titled_of_reportWhenDue (h : c.reportWhenDue now = .ok titled) : c.Titled now titled := by
  unfold reportWhenDue at h
  -- Due, the title is new and the cycles are counted from zero again; early, the console is the one
  -- before.
  by_cases hdue : c.nextReport ≤ now
  · rw [if_pos hdue] at h
    cases hsecond : Double.wholePart now with
    | error cause =>
      rw [hsecond] at h
      cases h
    | ok second =>
      rw [hsecond] at h
      cases h
      exact ⟨rfl, rfl, rfl, rfl, rfl, rfl, rfl, rfl, (if_pos hdue).symm⟩
  · rw [if_neg hdue] at h
    cases h
    exact ⟨rfl, rfl, rfl, rfl, rfl, rfl, rfl, rfl, (if_neg hdue).symm⟩

/-! ### The keyboard and the display -/

/-- Looking at the keyboard takes the next commands off it and works the pad with them. -/
theorem pollKeys_eq (c : Console) :
    c.pollKeys = (decide (.quit ∈ c.polls.headD []), { c with
      machine := { c.machine with
        keypad := (c.polls.headD []).foldl c.keymap.obey c.machine.keypad }
      polls := c.polls.tail }) := by
  -- Either no look at the keyboard is left, or the next one is taken off.
  unfold pollKeys
  split
  · rename_i hpolls
    rw [hpolls]
    refine Prod.ext rfl ?_
    -- There is nothing to take off, and nothing stays.
    change c = { c with polls := [] }
    rw [← hpolls]
  · rename_i commands rest hpolls
    rw [hpolls, List.headD_cons, List.tail_cons]
    refine Prod.ext ?_ rfl
    change commands.any (· == .quit) = _
    rw [List.any_beq', List.contains_eq_mem]

/-- Hands the picture to the panel, whether or not it may have changed. -/
def handOver (c : Console) : Console :=
  let shown := c.panel.display c.machine.screen.picture
  { c with
    machine := c.machine.consumeChanged.2
    panel := shown.value
    calls := c.calls ++ shown.calls }

/-- A picture that may have changed is handed to the panel. -/
theorem showPicture_of_changed (h : c.machine.screen.changed = true) : c.showPicture = c.handOver := by
  simp only [showPicture, Machine.consumeChanged, Screen.consumeChanged, h]
  rfl

/-- Otherwise the panel is not asked for anything, and only the mark is taken back. -/
theorem showPicture_of_unchanged (h : c.machine.screen.changed = false) :
    c.showPicture = { c with machine := c.machine.consumeChanged.2 } := by
  simp only [showPicture, Machine.consumeChanged, Screen.consumeChanged, h]
  rfl

/-- A silent buzzer takes the setting and makes no call. -/
theorem setBuzzer_of_silent (h : c.buzzer.audible = false) :
    c.setBuzzer = { c with buzzer := ⟨false, .flag c.machine.timers.soundOn⟩ } := by
  have hset : c.buzzer.enable (.flag c.machine.timers.soundOn) =
      ⟨⟨false, .flag c.machine.timers.soundOn⟩, []⟩ := by
    rw [Buzzer.enable, h]
    rfl
  rw [setBuzzer, hset, Array.appendList_nil]

/-- The next refresh is put off by the time between two of them. -/
def putOff (c : Console) (now : Float) : Console :=
  { c with nextRefresh := now + refreshInterval }

/-- One more refresh is counted. -/
def countFrame (c : Console) : Console :=
  { c with frames := c.frames + 1 }

/-- Before its time a refresh does nothing, and the keyboard is not looked at either. -/
theorem refreshWhenDue_of_early (hearly : ¬ c.nextRefresh ≤ now) :
    c.refreshWhenDue now = (false, c) := by
  rw [refreshWhenDue, if_neg hearly]

/-- A wish to quit ends the moment when the keys have been looked at. The picture is not shown any more, and
the next refresh is not put off. -/
theorem refreshWhenDue_of_quit (hdue : c.nextRefresh ≤ now) (hquit : .quit ∈ c.polls.headD []) :
    c.refreshWhenDue now = (true, c.pollKeys.2) := by
  have hasked : c.pollKeys.1 = true := by
    rw [pollKeys_eq]
    exact decide_eq_true hquit
  rw [refreshWhenDue, if_pos hdue]
  -- What the look at the keyboard has led to is only taken apart, and need not be known.
  generalize c.pollKeys = polled at hasked ⊢
  obtain ⟨quit, after⟩ := polled
  cases hasked
  rfl

/-- When nobody wishes to quit, the keys are followed by the picture and the buzzer, and the refresh is
counted. -/
theorem refreshWhenDue_of_due (hdue : c.nextRefresh ≤ now) (hgoes : .quit ∉ c.polls.headD []) :
    c.refreshWhenDue now = (false, (c.pollKeys.2.putOff now).refresh.countFrame) := by
  have hasked : c.pollKeys.1 = false := by
    rw [pollKeys_eq]
    exact decide_eq_false hgoes
  rw [refreshWhenDue, if_pos hdue]
  generalize c.pollKeys = polled at hasked ⊢
  obtain ⟨quit, after⟩ := polled
  cases hasked
  rfl

/-! ### The timers -/

/-- How many counts are due depends only on when the next one is. -/
theorem dueTicks_congr (now : Float) (h : d.nextTick = c.nextTick) :
    d.dueTicks now = c.dueTicks now := by
  unfold dueTicks
  rw [h]

/-- A reading from which no number of counts can be made ends the step. -/
theorem tickWhenDue_of_error {cause : Double.NotFinite} (h : c.dueTicks now = .error cause) :
    c.tickWhenDue now = .error cause := by
  unfold tickWhenDue
  -- Before its time there is no number to be made, so that nothing can go wrong with it.
  by_cases hdue : c.nextTick ≤ now
  · rw [if_pos hdue, h]
    rfl
  · rw [dueTicks, if_neg hdue] at h
    cases h

/-- The counts that are due are made, though no more than may be caught up with. When the next one is due
depends on the reading, and is left open here. -/
theorem tickWhenDue_of_ok {due : Int} (h : c.dueTicks now = .ok due) :
    ∃ nextTick, c.tickWhenDue now = .ok { c with
      nextTick
      machine := { c.machine with
        timers := c.machine.timers.ticks (min due maxCatchUp).toNat } } := by
  unfold tickWhenDue
  -- Before its time no count is due, and no counts are made of the timers.
  by_cases hdue : c.nextTick ≤ now
  · rw [if_pos hdue, h]
    exact ⟨_, rfl⟩
  · rw [dueTicks, if_neg hdue] at h
    cases h
    rw [if_neg hdue]
    exact ⟨_, rfl⟩

/-! ### The cycle -/

/-- A cycle that fails is not counted, but what it has changed and printed by then stays. -/
theorem runCycle_of_fault {cause : Fault} (h : c.machine.cycle.fault = some cause) :
    c.runCycle = ⟨{ c with
      machine := c.machine.cycle.machine
      printed := c.printed ++ c.machine.cycle.printed }, .error (.fault cause)⟩ := by
  simp only [runCycle, h]

theorem runCycle_of_no_fault (h : c.machine.cycle.fault = none) :
    c.runCycle = ⟨{ c with
      machine := c.machine.cycle.machine
      printed := c.printed ++ c.machine.cycle.printed
      cycles := c.cycles + 1 }, .ok true⟩ := by
  simp only [runCycle, h]

/-! ### The moment as a whole -/

/-- A moment that cannot be put into a title changes nothing. -/
theorem beat_of_untitled {cause : Double.NotFinite} (h : c.reportWhenDue now = .error cause) :
    c.beat now = ⟨c, .error (.noTime cause)⟩ := by
  simp only [beat, h]

/-- A wish to quit ends the moment before the timers and the cycle. -/
theorem beat_of_quit (htitled : c.reportWhenDue now = .ok titled)
    (hquit : titled.refreshWhenDue now = (true, d)) : c.beat now = ⟨d, .ok false⟩ := by
  simp only [beat, htitled, hquit]

/-- If the number of counts cannot be made, keyboard and display have had their turn, and the cycle has not.
-/
theorem beat_of_untimed {cause : Double.NotFinite} (htitled : c.reportWhenDue now = .ok titled)
    (hgoes : titled.refreshWhenDue now = (false, d)) (hticks : d.tickWhenDue now = .error cause) :
    c.beat now = ⟨d, .error (.noTime cause)⟩ := by
  simp only [beat, htitled, hgoes, hticks]

/-- Otherwise the moment ends with the cycle, and as that does. -/
theorem beat_of_ticked (htitled : c.reportWhenDue now = .ok titled)
    (hgoes : titled.refreshWhenDue now = (false, d)) (hticks : d.tickWhenDue now = .ok ticked) :
    c.beat now = ticked.runCycle := by
  simp only [beat, htitled, hgoes, hticks]

/-- What the parts of a moment keep is kept by the moment, wherever that ends. -/
theorem beat_induction {P : Console → Prop} (h : P c)
    (hreport : ∀ {c d}, P c → c.reportWhenDue now = .ok d → P d)
    (hrefresh : ∀ {c}, P c → P (c.refreshWhenDue now).2)
    (htick : ∀ {c d}, P c → c.tickWhenDue now = .ok d → P d)
    (hcycle : ∀ {c}, P c → P c.runCycle.console) : P (c.beat now).console := by
  -- The cases are the four ways in which a moment can end, each of them one part further on.
  cases htitled : c.reportWhenDue now with
  | error cause =>
    rw [beat_of_untitled htitled]
    exact h
  | ok titled =>
    have hkept := hrefresh (hreport h htitled)
    obtain ⟨⟨quit, d⟩, hrefreshed⟩ : ∃ refreshed, titled.refreshWhenDue now = refreshed := ⟨_, rfl⟩
    rw [hrefreshed] at hkept
    cases quit with
    | true =>
      rw [beat_of_quit htitled hrefreshed]
      exact hkept
    | false =>
      cases hticks : d.tickWhenDue now with
      | error cause =>
        rw [beat_of_untimed htitled hrefreshed hticks]
        exact hkept
      | ok ticked =>
        rw [beat_of_ticked htitled hrefreshed hticks]
        exact hcycle (htick hkept hticks)

/-! ### Steps -/

theorem console_pause (c : Console) (clock : Clock) (now : Float) :
    (c.pause clock now).console = c := by
  unfold pause
  split
  · rfl
  · split <;> rfl

/-- Waiting ends when the next cycle is due, or because the clock cannot be read any more. -/
theorem goOn_pause (c : Console) (clock : Clock) (now : Float) :
    (c.pause clock now).goOn = .ok true ∨ (c.pause clock now).goOn = .error .clockSpent := by
  -- A console that runs as fast as it can does not wait at all.
  unfold pause
  split
  · exact .inl rfl
  · split
    · exact .inl rfl
    · exact .inr rfl

theorem step_of_spent (hspent : clock.read? = none) :
    c.step clock = ⟨c, clock, .error .clockSpent⟩ := by
  simp only [step, hspent]

/-- A step does what is to be done at the moment that it reads off the clock. -/
theorem console_step {next : Clock} (hread : clock.read? = some (now, next)) :
    (c.step clock).console = (c.beat now).console := by
  simp only [step, hread]
  split
  · exact console_pause _ _ _
  · rfl

/-- A step that is not to go on says why, and one that is to go on still waits. -/
theorem goOn_step {next : Clock} (hread : clock.read? = some (now, next)) :
    (c.step clock).goOn = (c.beat now).goOn ∨
      (c.beat now).goOn = .ok true ∧ (c.step clock).goOn = .error .clockSpent := by
  simp only [step, hread]
  split
  · rename_i hgoes
    rw [hgoes]
    rcases goOn_pause (c.beat now).console next now with hdue | hspent
    · exact .inl hdue
    · exact .inr ⟨rfl, hspent⟩
  · exact .inl rfl

/-- When the first step is to go on, what remains is a row of steps from where it has led. -/
theorem steps_of_goOn (h : (c.step clock).goOn = .ok true) :
    c.steps clock = (c.step clock).console.steps (c.step clock).clock := by
  -- The loop is a recursion on what is left of the clock, and its equation asks how the first step has
  -- ended.
  rw [steps.eq_def c clock]
  split
  · rename_i console next hstep
    rw [hstep]
  · rename_i hstop
    refine absurd ?_ (hstop (c.step clock).console (c.step clock).clock)
    rw [← h]

/-- When the first step is not to go on, it is the only one. -/
theorem steps_of_stop (h : (c.step clock).goOn ≠ .ok true) : c.steps clock = c.step clock := by
  rw [steps.eq_def c clock]
  split
  · rename_i console next hstep
    rw [hstep] at h
    exact absurd rfl h
  · rfl

/-- What every moment keeps is kept by a step. -/
theorem step_induction {P : Console → Prop} (h : P c)
    (hbeat : ∀ {c} now, P c → P (c.beat now).console) (clock : Clock) : P (c.step clock).console := by
  cases hread : clock.read? with
  | none =>
    rw [step_of_spent hread]
    exact h
  | some reading =>
    rw [console_step hread]
    exact hbeat reading.1 h

/-- What every moment keeps is kept by a row of steps, by the recursion of the loop. -/
theorem steps_induction {P : Console → Prop} (h : P c)
    (hbeat : ∀ {c} now, P c → P (c.beat now).console) (clock : Clock) : P (c.steps clock).console := by
  induction c, clock using steps.induct with
  -- The step goes on, and the rest of the row starts from a console for which the property has been
  -- shown.
  | case1 c clock console next hstep ih =>
    have hgoes : (c.step clock).goOn = .ok true := by rw [hstep]
    have hkept := step_induction h hbeat clock
    rw [steps_of_goOn hgoes]
    rw [hstep] at hkept ⊢
    exact ih hkept
  -- The step is the last one.
  | case2 c clock hstop =>
    rw [steps_of_stop fun hgoes => hstop (c.step clock).console (c.step clock).clock (by rw [← hgoes])]
    exact step_induction h hbeat clock

/-- A run is the steps after its start, also when the clock is spent and neither comes to anything. -/
theorem run_eq_steps (c : Console) (clock : Clock) :
    c.run clock = (c.startBy clock).console.steps (c.startBy clock).clock := by
  -- A start needs a reading as well, and without one it leaves console and clock as they were.
  cases hread : clock.read? with
  | none =>
    have hstop : (c.step clock).goOn ≠ .ok true := by
      rw [step_of_spent hread]
      exact nofun
    simp only [run, startBy, hread]
    rw [steps_of_stop hstop, step_of_spent hread]
  | some reading => simp only [run, startBy, hread]

end Console

end Chip8
