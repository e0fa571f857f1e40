import Chip8.Proofs.Console.Redraw
import Chip8.Proofs.Machine.Picture

/-!
# The panel never shows a stale picture

A console shows its picture only if the screen says that it may have changed. Nothing is lost in this
way. Every console that requests can lead to is *faithful* (`Console.Faithful`): as long as the screen
does not say that it may have changed, the panel has the very picture that is on it. The law is carried
by `Machine.screen_cycle_of_unchanged`, since a cycle is all that draws; whatever else a console does
leaves the screen alone or hands the picture over.

From a faithful console on, a refresh does the same as one that always hands the picture over
(`Console.Faithful.refresh_eq_redraw`), and so do steps, runs and whole histories.

* `Console.Faithful.ask`: a request keeps a console faithful, also one that fails;
* `Console.picture_never_stale`: the law for every history of a headless and silent console.
-/

namespace Chip8

namespace Console

/-- The panel has the picture that is on the screen, unless the screen says that it may have changed. -/
def UpToDate (c : Console) : Prop :=
  c.machine.screen.changed = false → c.panel.frame = some c.machine.screen.picture

/-- The panel has the picture that is on the screen, and the buzzer is set as the sound timer asks. -/
structure Shows (c : Console) : Prop where
  frame : c.panel.frame = some c.machine.screen.picture
  buzzer : c.buzzer.setting = .flag (decide (0 < c.machine.timers.sound))

/-- A console without a window and without sound, with a panel that is up to date. -/
structure Faithful (c : Console) : Prop where
  headless : c.panel.window = none
  silent : c.buzzer.audible = false
  upToDate : c.UpToDate

variable {c d : Console} {now : Float} {clock : Clock}

/-! ### Refreshes -/

/-- What a redraw leaves of a console without sound. -/
theorem redraw_of_silent (hsilent : c.buzzer.audible = false) :
    c.redraw = { c.handOver with buzzer := ⟨false, .flag c.machine.timers.soundOn⟩ } :=
  setBuzzer_of_silent (c := c.handOver) hsilent

/-- A redraw shows, whatever was on the panel before. -/
theorem shows_redraw (hsilent : c.buzzer.audible = false) : c.redraw.Shows := by
  rw [redraw_of_silent hsilent]
  exact ⟨rfl, rfl⟩

/-- On a faithful console it makes no difference whether an unchanged picture is handed over. -/
theorem Faithful.refresh_eq_redraw (h : c.Faithful) : c.refresh = c.redraw := by
  cases hchanged : c.machine.screen.changed with
  | true => rw [refresh, showPicture_of_changed hchanged, redraw]
  | false =>
    -- The picture that would be handed over is the one that the panel has, and no call tells of it.
    have hsame : (c.panel.display c.machine.screen.picture).value = c.panel := by
      rw [Panel.display, ← h.upToDate hchanged]
    have hnoCalls : (c.panel.display c.machine.screen.picture).calls = [] := by
      simp only [Panel.display, h.headless]
    have hnothing : c.handOver = { c with machine := c.machine.consumeChanged.2 } := by
      rw [handOver, hsame, hnoCalls, Array.appendList_nil]
    rw [refresh, showPicture_of_unchanged hchanged, redraw, hnothing]

/-- A refresh shows as well as a redraw does. -/
theorem Faithful.shows_refresh (h : c.Faithful) : c.refresh.Shows := by
  rw [h.refresh_eq_redraw]
  exact shows_redraw h.silent

theorem Faithful.refresh (h : c.Faithful) : c.refresh.Faithful := by
  -- The refresh is looked at as a redraw, since that has one equation and a refresh has two.
  have hframe := h.shows_refresh.frame
  rw [h.refresh_eq_redraw, redraw_of_silent h.silent] at hframe ⊢
  exact ⟨h.headless, rfl, fun _ => hframe⟩

/-! ### What keeps a console faithful -/

/-- What does not touch the devices, and does not touch the screen either unless it says so, keeps a
console faithful. -/
theorem Faithful.of_same (h : c.Faithful) (hwindow : d.panel.window = c.panel.window)
    (hframe : d.panel.frame = c.panel.frame) (hbuzzer : d.buzzer = c.buzzer)
    (hscreen : d.machine.screen.changed = false → d.machine.screen = c.machine.screen) :
    d.Faithful := by
  refine ⟨hwindow.trans h.headless, ?_, fun hunchanged => ?_⟩
  · rw [hbuzzer]
    exact h.silent
  · -- An unmarked screen is the one from before, and that one is on the panel.
    have hsame := hscreen hunchanged
    rw [hsame] at hunchanged ⊢
    rw [hframe]
    exact h.upToDate hunchanged

/-- A title is not a picture. -/
theorem Faithful.report (h : c.Faithful) (frames cycles : Int) : (c.report frames cycles).Faithful :=
  h.of_same rfl rfl rfl fun _ => rfl

/-- A title that is renewed when it is due keeps a console faithful, whether it was due or not. -/
theorem Faithful.reportWhenDue (h : c.Faithful) (hd : c.reportWhenDue now = .ok d) : d.Faithful := by
  -- Only the machine is left to be compared, and renewing the title does not touch it.
  have htitled := titled_of_reportWhenDue hd
  refine h.of_same htitled.window htitled.frame htitled.buzzer fun _ => ?_
  rw [htitled.machine]

/-- The keys work the pad, which is no part of the screen. -/
theorem Faithful.pollKeys (h : c.Faithful) : c.pollKeys.2.Faithful := by
  rw [pollKeys_eq]
  exact h.of_same rfl rfl rfl fun _ => rfl

theorem Faithful.putOff (h : c.Faithful) (now : Float) : (c.putOff now).Faithful :=
  h.of_same rfl rfl rfl fun _ => rfl

theorem Faithful.countFrame (h : c.Faithful) : c.countFrame.Faithful :=
  h.of_same rfl rfl rfl fun _ => rfl

/-- What is done about keyboard and display keeps a console faithful, in each of the three ways in which it
can go. -/
theorem Faithful.refreshWhenDue (h : c.Faithful) (now : Float) :
    (c.refreshWhenDue now).2.Faithful := by
  by_cases hdue : c.nextRefresh ≤ now
  · by_cases hquit : .quit ∈ c.polls.headD []
    · rw [refreshWhenDue_of_quit hdue hquit]
      exact h.pollKeys
    · rw [refreshWhenDue_of_due hdue hquit]
      -- The keys, the time of the next refresh, the refresh, and its count, one after the other.
      exact (h.pollKeys.putOff now).refresh.countFrame
  · rw [refreshWhenDue_of_early hdue]
    exact h

/-- A refresh that is due leaves the panel and the buzzer as they should be, unless the keyboard asks to
quit before. -/
theorem Faithful.shows_refreshWhenDue (h : c.Faithful) (hdue : c.nextRefresh ≤ now)
    (hgoes : (c.refreshWhenDue now).1 = false) : (c.refreshWhenDue now).2.Shows := by
  by_cases hquit : .quit ∈ c.polls.headD []
  · rw [refreshWhenDue_of_quit hdue hquit] at hgoes
    cases hgoes
  · rw [refreshWhenDue_of_due hdue hquit]
    -- That the refresh is counted changes nothing about what is shown.
    obtain ⟨hframe, hbuzzer⟩ := (h.pollKeys.putOff now).shows_refresh
    exact ⟨hframe, hbuzzer⟩

/-- Counts of the timers do not draw. -/
theorem Faithful.tickWhenDue (h : c.Faithful) (hd : c.tickWhenDue now = .ok d) : d.Faithful := by
  cases hdue : c.dueTicks now with
  | error cause =>
    rw [tickWhenDue_of_error hdue] at hd
    cases hd
  | ok due =>
    obtain ⟨nextTick, hticked⟩ := tickWhenDue_of_ok hdue
    rw [hticked] at hd
    cases hd
    exact h.of_same rfl rfl rfl fun _ => rfl

/-- The cycle draws, and what it draws is noted, also when it fails. -/
theorem Faithful.runCycle (h : c.Faithful) : c.runCycle.console.Faithful := by
  cases hfault : c.machine.cycle.fault with
  | none =>
    rw [runCycle_of_no_fault hfault]
    exact h.of_same rfl rfl rfl Machine.screen_cycle_of_unchanged
  | some cause =>
    rw [runCycle_of_fault hfault]
    exact h.of_same rfl rfl rfl Machine.screen_cycle_of_unchanged

/-- A moment keeps a console faithful, wherever it ends. -/
theorem Faithful.beat (h : c.Faithful) : (c.beat now).console.Faithful :=
  beat_induction h (fun h hreport => h.reportWhenDue hreport) (fun h => h.refreshWhenDue now)
    (fun h hticks => h.tickWhenDue hticks) (fun h => h.runCycle)

/-! ### The same as redrawing every time -/

/-- When a refresh is due, a faithful console may as well redraw. -/
theorem Faithful.refreshWhenDueBy_redraw (h : c.Faithful) :
    c.refreshWhenDueBy Console.redraw now = c.refreshWhenDue now := by
  have hpolled := h.pollKeys
  unfold Console.refreshWhenDueBy Console.refreshWhenDue
  generalize c.pollKeys = polled at hpolled ⊢
  obtain ⟨quit, d⟩ := polled
  -- The console that refreshes is the one that the keys have left, and it is faithful as well.
  have hmoved : { d with nextRefresh := now + refreshInterval }.Faithful :=
    hpolled.of_same rfl rfl rfl fun _ => rfl
  simp only [hmoved.refresh_eq_redraw]

/-- So a whole moment comes out the same with a redraw. -/
theorem Faithful.beatBy_redraw (h : c.Faithful) : c.beatBy Console.redraw now = c.beat now := by
  rw [← beatBy_refresh]
  unfold Console.beatBy
  cases hreport : c.reportWhenDue now with
  | error cause => rfl
  | ok titled =>
    simp only [(h.reportWhenDue hreport).refreshWhenDueBy_redraw, refreshWhenDueBy_refresh]

/-! ### Steps and runs -/

theorem Faithful.step (h : c.Faithful) : (c.step clock).console.Faithful :=
  step_induction h (fun _ h => h.beat) clock

/-- So does a step. -/
theorem Faithful.stepBy_redraw (h : c.Faithful) : c.stepBy Console.redraw clock = c.step clock := by
  rw [← stepBy_refresh]
  unfold Console.stepBy
  cases clock.read? with
  | none => rfl
  | some reading => simp only [h.beatBy_redraw, beatBy_refresh]

/-- So does a row of steps, which also keeps the console faithful. -/
theorem Faithful.steps (h : c.Faithful) (clock : Clock) :
    (c.steps clock).console.Faithful ∧ c.stepsBy Console.redraw clock = c.steps clock := by
  rw [← stepsBy_refresh]
  -- The console stays faithful from step to step, so that both loops take the same steps and stop
  -- at the same one.
  induction c, clock using stepsBy.induct Console.refresh with
  | case1 c clock hgoes ih =>
    have hsame : c.stepBy Console.redraw clock = c.stepBy Console.refresh clock := h.stepBy_redraw
    have hgoesToo : (c.stepBy Console.redraw clock).goOn = .ok true := by rw [hsame, hgoes]
    rw [stepsBy_of_goOn hgoes, stepsBy_of_goOn hgoesToo, hsame]
    exact ih h.step
  | case2 c clock hstop =>
    have hsame : c.stepBy Console.redraw clock = c.stepBy Console.refresh clock := h.stepBy_redraw
    have hstopToo : (c.stepBy Console.redraw clock).goOn ≠ .ok true := by
      rw [hsame]
      exact hstop
    rw [stepsBy_of_stop hstop, stepsBy_of_stop hstopToo, hsame]
    exact ⟨h.step, rfl⟩

/-- A start sets the clocks and the title. -/
theorem Faithful.startBy (h : c.Faithful) (clock : Clock) :
    (c.startBy clock).console.Faithful := by
  unfold Console.startBy
  cases clock.read? with
  | none => exact h
  | some reading => exact h.of_same rfl rfl rfl fun _ => rfl

/-- And so does a run. -/
theorem Faithful.run (h : c.Faithful) (clock : Clock) :
    (c.run clock).console.Faithful ∧ c.runBy Console.redraw clock = c.run clock := by
  have hsteps := (h.startBy clock).steps (c.startBy clock).clock
  simp only [Console.run, Console.runBy]
  cases (c.startBy clock).goOn with
  | ok b => exact hsteps
  | error halt => exact ⟨h.startBy clock, rfl⟩

/-! ### Histories -/

/-- A request keeps a console faithful, and so it does not matter whether an unchanged picture is
handed over. -/
theorem Faithful.ask (h : c.Faithful) (clock : Clock) (request : Request) :
    (c.ask clock request).console.Faithful ∧
      c.askBy Console.redraw clock request = c.ask clock request := by
  cases request with
  | start => exact ⟨h.startBy clock, rfl⟩
  | step => exact ⟨h.step, h.stepBy_redraw⟩
  | run => exact h.run clock
  | refresh =>
    refine ⟨h.refresh, ?_⟩
    simp only [Console.askBy, Console.ask, h.refresh_eq_redraw]
  | report frames cycles => exact ⟨h.report frames cycles, rfl⟩
  | work event hevent =>
    -- Work on the timers and the pad does not ask the screen, so that any change of it would be noted.
    have hquiet : event ≠ .consumeChanged := by
      rintro rfl
      cases hevent
    exact ⟨h.of_same rfl rfl rfl (Machine.screen_of_unchanged hquiet), rfl⟩

/-- A history keeps a console faithful and comes out the same with redraws. -/
theorem Faithful.askAll (h : c.Faithful) (clock : Clock) (requests : List Request) :
    (c.askAll clock requests).1.Faithful ∧
      c.askAllBy Console.redraw clock requests = c.askAll clock requests := by
  induction requests generalizing c clock with
  | nil => exact ⟨h, rfl⟩
  | cons request rest ih =>
    -- Whether or not the request has failed, the rest is asked of a faithful console.
    obtain ⟨hkept, hsame⟩ := h.ask clock request
    rw [Console.askAll, Console.askAllBy, hsame]
    exact ih hkept _

/-! ### From the start -/

/-- A new screen has to be shown, and loading a program does not draw. -/
theorem changed_loaded (monitor : Monitor) (noise : Noise) (rom : List UInt8) :
    ((Machine.boot monitor noise).after [.loadRom rom]).screen.changed = true := by
  rw [Machine.after_cons, Machine.after_nil]
  simp only [Machine.react, Machine.loadRom]
  cases (Machine.boot monitor noise).memory.loadRom rom <;> rfl

/-- A new console is faithful, since its screen says that it may have changed. -/
theorem Faithful.assemble {machine : Machine} {scale : Option Int} {keymap : Keymap}
    {speed : Option Speed} (hchanged : machine.screen.changed = true)
    (h : assemble machine (Panel.headless scale) Buzzer.silent keymap speed = .ok c) :
    c.Faithful := by
  obtain ⟨interval, rfl⟩ := assemble_eq_ok h
  refine ⟨rfl, rfl, fun hunchanged => ?_⟩
  rw [hchanged] at hunchanged
  cases hunchanged

/-- **The panel never shows a stale picture.** Take any program, any clock, anything that the keyboard
may ask for, and any history of requests to a headless and silent console, also of such that fail. As
long as the screen does not say that it may have changed, the panel has the picture that is on it, and
so it is at every stage of a step. A refresh, be it asked for or part of a step, leaves the panel with
the picture that is on the screen and the buzzer on exactly if the sound timer is not zero. All of it is
the same as if the picture were handed over every time. -/
theorem picture_never_stale {monitor : Monitor} {noise : Noise} {rom : List UInt8}
    {scale : Option Int} {keymap : Keymap} {speed : Option Speed}
    (h : assemble ((Machine.boot monitor noise).after [.loadRom rom]) (Panel.headless scale)
      Buzzer.silent keymap speed = .ok c)
    (polls : List (List KeyCommand)) (clock : Clock) (requests : List Request) :
    let reached := ((c.withPolls polls).askAll clock requests).1
    let left := ((c.withPolls polls).askAll clock requests).2
    (reached.machine.screen.changed = false →
      reached.panel.frame = some reached.machine.screen.picture) ∧
    reached.refresh.Shows ∧
    (∀ now titled, reached.reportWhenDue now = .ok titled →
      titled.UpToDate ∧ (titled.refreshWhenDue now).2.UpToDate ∧
      (titled.nextRefresh ≤ now → (titled.refreshWhenDue now).1 = false →
        (titled.refreshWhenDue now).2.Shows) ∧
      ∀ ticked, (titled.refreshWhenDue now).2.tickWhenDue now = .ok ticked →
        ticked.UpToDate ∧ ticked.runCycle.console.UpToDate) ∧
    (∃ n, reached.askAll left (.start :: List.replicate n .step) =
      ((reached.run left).console, (reached.run left).clock)) ∧
    (c.withPolls polls).askAllBy redraw clock requests = (reached, left) ∧
    ∀ request, reached.askBy redraw left request = reached.ask left request := by
  intro reached left
  have hstart : (c.withPolls polls).Faithful :=
    (Faithful.assemble (changed_loaded monitor noise rom) h).of_same rfl rfl rfl fun _ => rfl
  obtain ⟨hreached, hsame⟩ := hstart.askAll clock requests
  refine ⟨hreached.upToDate, hreached.shows_refresh, fun now titled hreport => ?_,
    ⟨_, reached.askAll_run left⟩, hsame, fun request => (hreached.ask left request).2⟩
  -- Each stage of the step is reached from the one before by a part of it, and each part keeps the
  -- console faithful.
  have htitled := hreached.reportWhenDue hreport
  have hrefreshed := htitled.refreshWhenDue now
  refine ⟨htitled.upToDate, hrefreshed.upToDate, fun hdue hgoes => ?_, fun ticked hticks => ?_⟩
  · exact htitled.shows_refreshWhenDue hdue hgoes
  · have hticked := hrefreshed.tickWhenDue hticks
    exact ⟨hticked.upToDate, hticked.runCycle.upToDate⟩

/-- A headless and silent console with a program that draws a glyph and stops there. -/
def glyphConsole : Console :=
  bare ((Machine.boot {} (Noise.cycling [])).after [.loadRom [0xD0, 0x05, 0x12, 0x02]]) []

/-- The console after the step that has drawn the glyph, and a refresh after that. -/
def glyphShown : Console :=
  ((glyphConsole.withPolls [[.press 5]]).askAll { upcoming := [0.0, 0.0] }
    [.start, .step, .refresh]).1

theorem picture_never_stale_glyph :
    glyphShown.machine.screen.isLit 0 0 = true ∧
      glyphShown.machine.screen.changed = false ∧
      glyphShown.panel.frame = some glyphShown.machine.screen.picture := by
  have hassembled : assemble ((Machine.boot {} (Noise.cycling [])).after
      [.loadRom [0xD0, 0x05, 0x12, 0x02]]) (Panel.headless none) Buzzer.silent glyphConsole.keymap
      (some (.whole 0)) = .ok glyphConsole := rfl
  have hlit : glyphShown.machine.screen.isLit 0 0 = true := by decide +kernel
  have hasked : glyphShown.machine.screen.changed = false := by decide +kernel
  have hnever := picture_never_stale hassembled [[.press 5]] { upcoming := [0.0, 0.0] }
    [.start, .step, .refresh]
  refine ⟨hlit, hasked, ?_⟩
  -- The law speaks of a history, and the console is given as what one has led to.
  unfold glyphShown at hasked ⊢
  exact hnever.1 hasked

end Console

end Chip8
