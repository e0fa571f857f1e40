import Chip8.Proofs.Console.Steps

/-!
# Devices in use

A display and a mixer are opened once and closed once; all other calls use them in between. Here the
calls are read as moves: which of them open a device and which of them close one (`moves`).

A console only uses what it has. Whatever it does up to the end of a run, it has the devices that it
had and makes no move (`Console.Uses`). That relation is closed under one thing after the other, so
that it is proved for the parts of a moment and put together along `Console.beat` and `Console.run`.
When a console lets its plugins go, it closes the devices that it has, the mixer before the display.

* `Console.uses_run`: a run opens and closes nothing;
* `Console.stages_letAllGo`, `Console.moves_letAllGo`: each plugin is let go once, and with them each
  device is closed once.
-/

namespace Chip8

/-- What a host lends: a display or a mixer. -/
inductive Device
  | display
  | mixer
  deriving DecidableEq

/-- A device is taken into use, or given back. -/
inductive Move
  | opened (device : Device)
  | closed (device : Device)
  deriving DecidableEq

/-- The move that a call is, if it is one. -/
def DeviceCall.move? : DeviceCall → Option Move
  | .openDisplay => some (.opened .display)
  | .closeDisplay => some (.closed .display)
  | .openMixer => some (.opened .mixer)
  | .closeMixer => some (.closed .mixer)
  | _ => none

/-- The moves among calls. -/
def moves (calls : List DeviceCall) : List Move :=
  calls.filterMap DeviceCall.move?

@[simp] theorem moves_nil : moves [] = [] := rfl

@[simp] theorem moves_append (first second : List DeviceCall) :
    moves (first ++ second) = moves first ++ moves second :=
  List.filterMap_append

/-- Whether it shows in the moves or in the stages that a deed was done. -/
def Deed.Marks (d : Deed) : Prop :=
  d.stage?.isSome ∨ (d.call?.bind DeviceCall.move?).isSome

/-- Where neither moves nor stages are to be seen, there is no deed that would show in them. -/
theorem Deed.not_marks_of_mem {deeds : List Deed} {d : Deed} (hstages : stages deeds = [])
    (hmoves : moves (calls deeds) = []) (hmem : d ∈ deeds) : ¬ d.Marks := by
  rw [moves, calls, List.filterMap_filterMap] at hmoves
  have hstage := List.filterMap_eq_nil_iff.mp hstages d hmem
  have hmove := List.filterMap_eq_nil_iff.mp hmoves d hmem
  rintro (h | h)
  · rw [hstage] at h
    cases h
  · rw [hmove] at h
    cases h

/-! ### Panels and buzzers -/

@[simp] theorem Panel.moves_setTitle (p : Panel) (title : String) :
    moves (p.setTitle title).calls = [] := by
  unfold Panel.setTitle
  split <;> rfl

@[simp] theorem Panel.moves_display (p : Panel) (frame : Frame) :
    moves (p.display frame).calls = [] := by
  unfold Panel.display
  cases p.window <;> rfl

/-- A panel gives back the display, if it has a window, and else nothing. -/
theorem Panel.moves_shutdown (p : Panel) :
    moves p.shutdown.calls = if p.window.isSome then [.closed .display] else [] := by
  unfold Panel.shutdown
  split <;> rfl

@[simp] theorem Buzzer.moves_enable (b : Buzzer) (setting : Setting) :
    moves (b.enable setting).calls = [] := by
  unfold Buzzer.enable
  cases b.audible <;> cases b.isOn <;> cases setting.isOn <;> rfl

@[simp] theorem Buzzer.audible_enable (b : Buzzer) (setting : Setting) :
    (b.enable setting).value.audible = b.audible := by
  unfold Buzzer.enable
  split <;> rfl

/-- A buzzer gives back the mixer, if it has one, and else nothing. -/
theorem Buzzer.moves_shutdown (b : Buzzer) :
    moves b.shutdown.calls = if b.audible then [.closed .mixer] else [] := by
  unfold Buzzer.shutdown
  split <;> rfl

namespace Console

variable {c d e titled : Console} {now : Float} {clock : Clock}

/-- The devices that a console has, in the order in which it came by them. -/
def devices (c : Console) : List Device :=
  (if c.panel.window.isSome then [.display] else []) ++ if c.buzzer.audible then [.mixer] else []

/-- No device is had twice. -/
theorem nodup_devices (c : Console) : c.devices.Nodup := by
  unfold devices
  cases c.panel.window.isSome <;> cases c.buzzer.audible <;> decide

/-- One console comes of the other by using its devices, without opening or closing one. -/
structure Uses (c d : Console) : Prop where
  window : d.panel.window = c.panel.window
  audible : d.buzzer.audible = c.buzzer.audible
  moves : moves d.calls.toList = moves c.calls.toList

theorem Uses.refl (c : Console) : c.Uses c := ⟨rfl, rfl, rfl⟩

/-- What is used and then used again has been used. -/
theorem Uses.trans (h : c.Uses d) (h' : d.Uses e) : c.Uses e :=
  ⟨h'.window.trans h.window, h'.audible.trans h.audible, h'.moves.trans h.moves⟩

/-- Using devices leaves the same ones. -/
theorem Uses.devices (h : c.Uses d) : d.devices = c.devices := by
  unfold Console.devices
  rw [h.window, h.audible]

/-! ### The parts of a moment -/

/-- A title is set on the window that there is. -/
theorem uses_report (c : Console) (frames cycles : Int) : c.Uses (c.report frames cycles) := by
  refine ⟨rfl, rfl, ?_⟩
  simp [report]

/-- So is the title of the last second, when it is due. -/
theorem uses_reportWhenDue (h : c.reportWhenDue now = .ok titled) : c.Uses titled := by
  unfold reportWhenDue at h
  -- That the clock's reading has no whole part is the one way to fail, and then nothing comes of the
  -- console.
  by_cases hdue : c.nextReport ≤ now
  · rw [if_pos hdue] at h
    cases hsecond : Double.wholePart now with
    | error cause =>
      rw [hsecond] at h
      cases h
    | ok second =>
      rw [hsecond] at h
      cases h
      -- Besides the title only the counters and the time of the next one are new.
      obtain ⟨hwindow, haudible, hmoves⟩ := c.uses_report c.frames c.cycles
      exact ⟨hwindow, haudible, hmoves⟩
  · rw [if_neg hdue] at h
    cases h
    exact .refl c

/-- A picture is shown in the window that there is. -/
theorem uses_showPicture (c : Console) : c.Uses c.showPicture := by
  -- Only a screen that has changed is handed over; in both cases it counts as shown.
  cases hchanged : c.machine.screen.changed with
  | true =>
    rw [showPicture_of_changed hchanged]
    refine ⟨rfl, rfl, ?_⟩
    simp [handOver]
  | false =>
    rw [showPicture_of_unchanged hchanged]
    exact ⟨rfl, rfl, rfl⟩

/-- The tone is played on the mixer that there is, or stopped. -/
theorem uses_setBuzzer (c : Console) : c.Uses c.setBuzzer := by
  refine ⟨rfl, Buzzer.audible_enable .., ?_⟩
  simp [setBuzzer]

/-- Keys are no device that would be opened. -/
theorem uses_pollKeys (c : Console) : c.Uses c.pollKeys.2 := by
  rw [pollKeys_eq]
  exact ⟨rfl, rfl, rfl⟩

/-- A refresh uses the devices, in each of the three ways in which it can go. -/
theorem uses_refreshWhenDue (c : Console) (now : Float) : c.Uses (c.refreshWhenDue now).2 := by
  by_cases hdue : c.nextRefresh ≤ now
  · by_cases hquit : .quit ∈ c.polls.headD []
    · rw [refreshWhenDue_of_quit hdue hquit]
      exact c.uses_pollKeys
    · -- A look at the keyboard, a picture and a setting of the buzzer, one after the other.
      rw [refreshWhenDue_of_due hdue hquit]
      have hput : c.Uses (c.pollKeys.2.putOff now) := c.uses_pollKeys.trans ⟨rfl, rfl, rfl⟩
      have hshown := (uses_showPicture (c.pollKeys.2.putOff now)).trans (uses_setBuzzer _)
      exact (hput.trans hshown).trans ⟨rfl, rfl, rfl⟩
  · rw [refreshWhenDue_of_early hdue]
    exact .refl c

/-- Counts of the timers do not touch a device. -/
theorem uses_tickWhenDue (h : c.tickWhenDue now = .ok d) : c.Uses d := by
  cases hdue : c.dueTicks now with
  | error cause =>
    rw [tickWhenDue_of_error hdue] at h
    cases h
  | ok due =>
    obtain ⟨nextTick, hticked⟩ := tickWhenDue_of_ok hdue
    rw [hticked] at h
    cases h
    exact ⟨rfl, rfl, rfl⟩

/-- Neither does a cycle, whether it ends in a fault or not. -/
theorem uses_runCycle (c : Console) : c.Uses c.runCycle.console := by
  cases hfault : c.machine.cycle.fault with
  | none =>
    rw [runCycle_of_no_fault hfault]
    exact ⟨rfl, rfl, rfl⟩
  | some cause =>
    rw [runCycle_of_fault hfault]
    exact ⟨rfl, rfl, rfl⟩

/-! ### Moments, steps and runs -/

/-- One moment of a console uses its devices, wherever it breaks off. -/
theorem uses_beat (c : Console) (now : Float) : c.Uses (c.beat now).console :=
  beat_induction (.refl c)
    (fun h hreport => h.trans (uses_reportWhenDue hreport))
    (fun h => h.trans (uses_refreshWhenDue _ now))
    (fun h hticks => h.trans (uses_tickWhenDue hticks))
    (fun h => h.trans (uses_runCycle _))

/-- So does a row of steps. -/
theorem uses_steps (c : Console) (clock : Clock) : c.Uses (c.steps clock).console :=
  steps_induction (.refl c) (fun now h => h.trans (uses_beat _ now)) clock

/-- So does the start, which shows the first title. -/
theorem uses_startBy (c : Console) (clock : Clock) : c.Uses (c.startBy clock).console := by
  unfold startBy
  cases clock.read? with
  | none => exact .refl c
  | some reading =>
    -- The times that the clocks are set to are not a matter of devices.
    refine Uses.trans (d := { c with
      nextTick := reading.1 + tickInterval, nextRefresh := reading.1, nextReport := reading.1 }) ?_ ?_
    · exact ⟨rfl, rfl, rfl⟩
    · exact uses_report _ 0 0

/-- A run uses the devices that the console has, and opens and closes none. -/
theorem uses_run (c : Console) (clock : Clock) : c.Uses (c.run clock).console := by
  rw [run_eq_steps]
  exact (c.uses_startBy clock).trans (uses_steps _ _)

/-! ### Letting go -/

/-- What is done when all parts are let go, and what is left of the console then. -/
theorem letAllGo_eq (c : Console) : c.letAllGo =
    { value := { c with
        buzzer := c.buzzer.shutdown.value
        machine := c.machine.releaseAll
        panel := c.panel.shutdown.value }
      deeds := .stage (.letGo .buzzer) :: c.buzzer.shutdown.calls.map .call ++
        .stage (.letGo .keyboard) :: .stage (.letGo .panel) :: c.panel.shutdown.calls.map .call } := by
  -- What each part does stands before what comes of the parts after it, and at the end there is nothing
  -- more.
  have hdeeds : c.letAllGo.deeds = .stage (.letGo .buzzer) :: (c.buzzer.shutdown.calls.map .call ++ []) ++
      .stage (.letGo .keyboard) :: .stage (.letGo .panel) :: (c.panel.shutdown.calls.map .call ++ []) := rfl
  rw [List.append_nil, List.append_nil] at hdeeds
  rw [← hdeeds]
  rfl

/-- The plugins are let go in one order, whatever they are. -/
theorem stages_letAllGo (c : Console) :
    Deed.stages c.letAllGo.deeds = [.letGo .buzzer, .letGo .keyboard, .letGo .panel] := by
  rw [letAllGo_eq]
  -- One plugin after the other: what it is told, and then its calls, which are no stages.
  change .letGo .buzzer :: Deed.stages (c.buzzer.shutdown.calls.map .call ++
    .stage (.letGo .keyboard) :: .stage (.letGo .panel) :: c.panel.shutdown.calls.map .call) = _
  rw [Deed.stages_append, Deed.stages_map_call]
  change _ :: .letGo .keyboard :: .letGo .panel :: Deed.stages (c.panel.shutdown.calls.map .call) = _
  rw [Deed.stages_map_call]

/-- With its plugins a console gives back each of its devices once, the one that it came by last
first. -/
theorem moves_letAllGo (c : Console) :
    moves (Deed.calls c.letAllGo.deeds) = c.devices.reverse.map .closed := by
  have hcalls : Deed.calls c.letAllGo.deeds = c.buzzer.shutdown.calls ++ c.panel.shutdown.calls := by
    rw [letAllGo_eq]
    change Deed.calls (c.buzzer.shutdown.calls.map .call ++
      .stage (.letGo .keyboard) :: .stage (.letGo .panel) :: c.panel.shutdown.calls.map .call) = _
    rw [Deed.calls_append, Deed.calls_map_call]
    exact congrArg _ (Deed.calls_map_call _)
  rw [hcalls, moves_append, Buzzer.moves_shutdown, Panel.moves_shutdown, devices]
  cases c.panel.window.isSome <;> cases c.buzzer.audible <;> rfl

/-- The last deed of letting all plugins go is one that gives something back: it closes the display, or
it lets the panel go that has none. -/
theorem marks_last_letAllGo (c : Console) :
    ∃ before last, c.letAllGo.deeds = before ++ [last] ∧ last.Marks := by
  rw [letAllGo_eq]
  unfold Panel.shutdown
  split
  · exact ⟨_ :: _ ++ [_, _], .call .closeDisplay, (List.append_assoc _ [_, _] [_]).symm, .inr rfl⟩
  · exact ⟨_ :: _ ++ [_], .stage (.letGo .panel), (List.append_assoc _ [_] [_]).symm, .inl rfl⟩

/-- What a run has made of a console is let go by the same deeds as the console itself. -/
theorem Uses.deeds_letAllGo (h : c.Uses d) : d.letAllGo.deeds = c.letAllGo.deeds := by
  -- What a panel and a buzzer do then is a matter of the devices that they have.
  rw [letAllGo_eq, letAllGo_eq]
  simp only [Buzzer.shutdown, Panel.shutdown, h.window, h.audible]

end Console

end Chip8
