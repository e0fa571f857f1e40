import Chip8.Proofs.Console.Redraw
import Chip8.Proofs.Console.Replay
import Mathlib.Algebra.GroupWithZero.Nat

/-!
# The rates in the title

Once a second the title is renewed with the numbers of refreshes and cycles that there were, and these are
counted anew. A console keeps the two counts and no more. To say that nothing is lost and nothing counted
twice, all that bears on them is entered in a ledger: refreshes, cycles that do not fail, the accounts that
steps give of them, and the other titles.

What happens at a moment is told by its script, and so a ledger is read off scripts
(`Machine.enteredAll`). `Console.Booked` is what a piece of ledger says about the console before it and the
console after it: what is entered is accounted for or still in the counts, and the titles are those that
were given to the panel. Such pieces are joined end to end, as the ledgers of parts, moments and requests
are.

* `Console.booked_beat`: the ledger of a moment;
* `Console.booked_askAll`: the ledger of a history;
* `Console.accounts_balance`: what there is to say when a history begins with a new console.
-/

namespace Chip8

/-- What is entered in a ledger. -/
inductive Item
  /-- A step renews the title with the refreshes and cycles since it was last renewed. -/
  | account (frames cycles : Nat)
  /-- The title is set to rates that count nothing, at a start or on request. -/
  | notice (frames cycles : Int)
  | refresh
  | cycle
  deriving DecidableEq

/-- The title with the given rates. -/
def rates (frames cycles : Int) : String :=
  About.name ++ " - " ++ toString frames ++ " FPS, " ++ toString cycles ++ " OPS"

namespace Item

/-- The refreshes that an item gives account of. -/
def frames : Item → Nat
  | account frames _ => frames
  | _ => 0

/-- The cycles that an item gives account of. -/
def cycles : Item → Nat
  | account _ cycles => cycles
  | _ => 0

/-- The title that an item is about, if it is about one. -/
def title? : Item → Option String
  | account frames cycles => some (rates frames cycles)
  | notice frames cycles => some (rates frames cycles)
  | _ => none

end Item

/-- The titles in a ledger, the latest one last. -/
def titles (ledger : List Item) : List String :=
  ledger.filterMap Item.title?

theorem titles_append (first second : List Item) :
    titles (first ++ second) = titles first ++ titles second :=
  List.filterMap_append

/-- The text that a call gives to the window, if it gives one. -/
def DeviceCall.caption? : DeviceCall → Option String
  | .setCaption text => some text
  | _ => none

/-- The texts that calls give to the window. -/
def captions (calls : Array DeviceCall) : List String :=
  calls.toList.filterMap DeviceCall.caption?

theorem captions_appendList (calls : Array DeviceCall) (more : List DeviceCall) :
    captions (calls ++ more) = captions calls ++ more.filterMap DeviceCall.caption? := by
  rw [captions, Array.toList_appendList, List.filterMap_append]
  rfl

/-! ### What the events of a machine enter -/

namespace Machine

/-- A refresh asks for the picture, and a cycle counts if it does not fail. -/
def entered (m : Machine) : Event → List Item
  | .consumeChanged => [.refresh]
  | .cycle =>
    match m.cycle.fault with
    | none => [.cycle]
    | some _ => []
  | _ => []

/-- What events in turn enter. -/
def enteredAll (m : Machine) : List Event → List Item
  | [] => []
  | event :: rest => m.entered event ++ (m.react event).machine.enteredAll rest

variable {events : List Event}

/-- What comes later is entered as the machine that the earlier events have led to. -/
theorem enteredAll_append (m : Machine) (first second : List Event) :
    m.enteredAll (first ++ second) = m.enteredAll first ++ (m.after first).enteredAll second := by
  induction first generalizing m with
  | nil => rfl
  | cons event rest ih => rw [List.cons_append, enteredAll, enteredAll, ih, List.append_assoc, after_cons]

/-- Events that enter nothing on any machine enter nothing in a row. -/
theorem enteredAll_of_entered (h : ∀ (m : Machine), ∀ event ∈ events, m.entered event = [])
    (m : Machine) : m.enteredAll events = [] := by
  -- The machine changes from event to event, so that the hypothesis is about all of them.
  induction events generalizing m with
  | nil => rfl
  | cons event rest ih =>
    rw [enteredAll, h m event List.mem_cons_self, List.nil_append]
    exact ih (fun m' event' hevent' => h m' event' (List.mem_cons_of_mem _ hevent')) _

theorem enteredAll_keys (m : Machine) (keymap : Keymap) (commands : List KeyCommand) :
    m.enteredAll (keymap.events commands) = [] := by
  refine enteredAll_of_entered (fun m event hevent => ?_) m
  obtain ⟨command, -, hcommand⟩ := List.mem_flatMap.mp hevent
  have hevent := Option.mem_toList.mp hcommand
  cases command with
  | quit => cases hevent
  | press code =>
    obtain ⟨key, -, rfl⟩ := Option.map_eq_some_iff.mp hevent
    rfl
  | release code =>
    obtain ⟨key, -, rfl⟩ := Option.map_eq_some_iff.mp hevent
    rfl

theorem enteredAll_ticks (m : Machine) (due : Int) : m.enteredAll (Console.ticksFor due) = [] := by
  refine enteredAll_of_entered (fun m event hevent => ?_) m
  rw [List.eq_of_mem_replicate hevent]
  rfl

/-- The events of a machine are not about titles. -/
theorem title?_of_mem_entered {m : Machine} {event : Event} {item : Item} (h : item ∈ m.entered event) :
    item.title? = none := by
  -- A refresh and a cycle are the only items that come of events.
  unfold entered at h
  split at h
  · cases List.mem_singleton.mp h
    rfl
  · split at h
    · cases List.mem_singleton.mp h
      rfl
    · cases h
  · cases h

theorem title?_of_mem_enteredAll {m : Machine} {item : Item} (h : item ∈ m.enteredAll events) :
    item.title? = none := by
  induction events generalizing m with
  | nil => cases h
  | cons event rest ih =>
    rcases List.mem_append.mp h with hfirst | hrest
    · exact title?_of_mem_entered hfirst
    · exact ih hrest

end Machine

namespace Console

variable {c d e titled : Console} {items items' : List Item} {now : Float} {clock : Clock}

/-! ### Ledgers -/

/-- The account that a step gives at a moment, if it gives one: of what was counted before it. -/
def account (c : Console) (now : Float) : List Item :=
  if c.nextReport ≤ now then [.account c.frames c.cycles] else []

/-- What is entered at a moment. -/
def ledger (c : Console) (now : Float) : List Item :=
  match c.reportWhenDue now with
  | .error _ => []
  | .ok _ => c.account now ++ c.machine.enteredAll (c.script now)

/-- What is entered at moments in turn. -/
def ledgers (moments : List (Console × Float)) : List Item :=
  moments.flatMap fun moment => moment.1.ledger moment.2

theorem ledgers_append (first second : List (Console × Float)) :
    ledgers (first ++ second) = ledgers first ++ ledgers second :=
  List.flatMap_append

/-- What a start enters, unless the clock cannot be read. -/
def startLedger (clock : Clock) : List Item :=
  match clock.read? with
  | none => []
  | some _ => [.notice 0 0]

/-- What a request enters. -/
def askLedger (c : Console) (clock : Clock) : Request → List Item
  | .start => startLedger clock
  | .step => ledgers (c.moment? clock).toList
  | .run => startLedger clock ++ ledgers (c.runMoments clock)
  | .report frames cycles => [.notice frames cycles]
  | .refresh | .work _ _ => []

/-- What a history enters. -/
def askAllLedger (c : Console) (clock : Clock) : List Request → List Item
  | [] => []
  | request :: rest =>
    c.askLedger clock request ++
      (c.ask clock request).console.askAllLedger (c.ask clock request).clock rest

/-- What a piece of ledger says about the console before it and the console after it. -/
structure Booked (c : Console) (items : List Item) (d : Console) : Prop where
  window : d.panel.window = c.panel.window
  frames : c.frames + items.count .refresh = (items.map Item.frames).sum + d.frames
  cycles : c.cycles + items.count .cycle = (items.map Item.cycles).sum + d.cycles
  title : d.panel.title = (titles items).getLast?.getD c.panel.title
  captions : captions d.calls =
    captions c.calls ++ if c.panel.window.isSome then titles items else []

/-- What is not about titles leaves the panel's title as it is, and gives the window no text. -/
theorem Booked.of_untitled (hitems : titles items = []) (hwindow : d.panel.window = c.panel.window)
    (htitle : d.panel.title = c.panel.title)
    (hframes : c.frames + items.count .refresh = (items.map Item.frames).sum + d.frames)
    (hcycles : c.cycles + items.count .cycle = (items.map Item.cycles).sum + d.cycles)
    (hcaptions : Chip8.captions d.calls = Chip8.captions c.calls) : c.Booked items d := by
  refine ⟨hwindow, hframes, hcycles, ?_, ?_⟩
  · rw [hitems, htitle]
    rfl
  · rw [hitems, ite_self, List.append_nil, hcaptions]

/-- What keeps the panel's title and the counts enters nothing. -/
theorem Booked.of_same (hwindow : d.panel.window = c.panel.window)
    (htitle : d.panel.title = c.panel.title) (hframes : d.frames = c.frames)
    (hcycles : d.cycles = c.cycles) (hcaptions : Chip8.captions d.calls = Chip8.captions c.calls) :
    c.Booked [] d :=
  .of_untitled rfl hwindow htitle (hframes ▸ Nat.add_comm ..) (hcycles ▸ Nat.add_comm ..) hcaptions

/-- When nothing is entered, a console goes on as it is. -/
theorem Booked.refl (c : Console) : c.Booked [] c :=
  .of_same rfl rfl rfl rfl rfl

/-- Ledgers are joined end to end. -/
theorem Booked.trans (h : c.Booked items d) (h' : d.Booked items' e) :
    c.Booked (items ++ items') e := by
  refine ⟨h'.window.trans h.window, ?_, ?_, ?_, ?_⟩
  · have hbefore := h.frames
    have hafter := h'.frames
    -- What the first piece has left in the counts is what the second one begins with.
    rw [List.count_append, List.map_append, List.sum_append]
    omega
  · have hbefore := h.cycles
    have hafter := h'.cycles
    rw [List.count_append, List.map_append, List.sum_append]
    omega
  · rw [h'.title, h.title, titles_append, List.getLast?_append]
    -- The latest title of the second piece, if it has one.
    cases (titles items').getLast? <;> rfl
  · -- The window is the same before both pieces, and so both or neither of them have it.
    rw [h'.captions, h.captions, h.window, List.append_assoc, titles_append]
    cases c.panel.window.isSome <;> rfl

/-! ### The parts of a moment -/

theorem captions_report (c : Console) (frames cycles : Int) :
    captions (c.report frames cycles).calls =
      captions c.calls ++ if c.panel.window.isSome then [rates frames cycles] else [] := by
  have hcalls : (c.report frames cycles).calls =
      c.calls ++ if c.panel.window.isSome then [DeviceCall.setCaption (rates frames cycles)] else [] := rfl
  rw [hcalls, captions_appendList]
  cases c.panel.window.isSome <;> rfl

/-- A title with rates is a notice. It counts nothing, and leaves the counts alone. -/
theorem booked_report (c : Console) (frames cycles : Int) :
    c.Booked [.notice frames cycles] (c.report frames cycles) :=
  ⟨rfl, Nat.add_comm .., Nat.add_comm .., rfl, captions_report c frames cycles⟩

/-- A title that is due gives account of what has been counted, and then nothing is counted yet. -/
theorem booked_reportWhenDue (h : c.reportWhenDue now = .ok titled) :
    c.Booked (c.account now) titled := by
  unfold reportWhenDue at h
  by_cases hdue : c.nextReport ≤ now
  · rw [if_pos hdue] at h
    rw [account, if_pos hdue]
    cases hsecond : Double.wholePart now with
    | error cause =>
      rw [hsecond] at h
      cases h
    | ok second =>
      rw [hsecond] at h
      cases h
      exact ⟨rfl, rfl, rfl, rfl, captions_report c c.frames c.cycles⟩
  · rw [if_neg hdue] at h
    cases h
    rw [account, if_neg hdue]
    exact .refl c

/-- A picture is no title, and what is handed over with it is no text. -/
theorem booked_showPicture (c : Console) : c.Booked [] c.showPicture := by
  cases hchanged : c.machine.screen.changed with
  | true =>
    rw [showPicture_of_changed hchanged]
    refine .of_same rfl rfl rfl rfl ?_
    -- The calls for a picture draw it, and none of them gives the window a text.
    have hquiet : (c.panel.display c.machine.screen.picture).calls.filterMap
        DeviceCall.caption? = [] := by
      unfold Panel.display
      cases c.panel.window <;> rfl
    rw [handOver, captions_appendList, hquiet, List.append_nil]
  | false =>
    rw [showPicture_of_unchanged hchanged]
    exact .of_same rfl rfl rfl rfl rfl

/-- Neither is a tone. -/
theorem booked_setBuzzer (c : Console) : c.Booked [] c.setBuzzer := by
  refine .of_same rfl rfl rfl rfl ?_
  have hquiet : ∀ (b : Buzzer) (setting : Setting),
      (b.enable setting).calls.filterMap DeviceCall.caption? = [] := by
    intro b setting
    unfold Buzzer.enable
    cases b.audible <;> cases b.isOn <;> cases setting.isOn <;> rfl
  rw [setBuzzer, captions_appendList, hquiet, List.append_nil]

/-- A look at the keyboard enters nothing by itself. -/
theorem booked_pollKeys (c : Console) : c.Booked [] c.pollKeys.2 := by
  rw [pollKeys_eq]
  exact .of_same rfl rfl rfl rfl rfl

/-- That a refresh is counted is what enters it. -/
theorem booked_countFrame (c : Console) : c.Booked [.refresh] c.countFrame :=
  .of_untitled rfl rfl rfl (Nat.zero_add _).symm (Nat.add_comm ..) rfl

/-- A refresh is counted if one is due and the keyboard does not ask to quit before it. -/
theorem booked_refreshWhenDue (c : Console) (now : Float) :
    c.Booked (c.machine.enteredAll (c.keymap.events (c.commandsAt now) ++
      if .quit ∈ c.commandsAt now then [] else c.questionAt now)) (c.refreshWhenDue now).2 := by
  rw [Machine.enteredAll_append, Machine.enteredAll_keys, List.nil_append]
  by_cases hdue : c.nextRefresh ≤ now
  · have hcommands : c.commandsAt now = c.polls.headD [] := if_pos hdue
    have hquestion : c.questionAt now = [.consumeChanged] := if_pos hdue
    rw [hcommands, hquestion]
    -- Asked to quit, the console ends the moment before the refresh, which is then neither made nor
    -- entered.
    by_cases hquit : .quit ∈ c.polls.headD []
    · rw [refreshWhenDue_of_quit hdue hquit, if_pos hquit]
      exact c.booked_pollKeys
    · rw [refreshWhenDue_of_due hdue hquit, if_neg hquit]
      have hput : c.Booked [] (c.pollKeys.2.putOff now) :=
        c.booked_pollKeys.trans (.of_same rfl rfl rfl rfl rfl)
      have hshown := (booked_showPicture (c.pollKeys.2.putOff now)).trans (booked_setBuzzer _)
      exact (hput.trans hshown).trans (booked_countFrame _)
  · have hcommands : c.commandsAt now = [] := if_neg hdue
    have hquestion : c.questionAt now = [] := if_neg hdue
    rw [refreshWhenDue_of_early hdue, hcommands, hquestion, ite_self]
    exact .refl c

/-- A cycle is counted if it does not fail. -/
theorem booked_runCycle (c : Console) :
    c.Booked (c.machine.enteredAll [.cycle]) c.runCycle.console := by
  -- Console and ledger ask the same question, whether there was a fault.
  cases hfault : c.machine.cycle.fault with
  | none =>
    have hentered : c.machine.enteredAll [.cycle] = [.cycle] := by
      simp only [Machine.enteredAll, Machine.entered, hfault, List.append_nil]
    rw [runCycle_of_no_fault hfault, hentered]
    exact .of_untitled rfl rfl rfl (Nat.add_comm ..) (Nat.zero_add _).symm rfl
  | some cause =>
    have hentered : c.machine.enteredAll [.cycle] = [] := by
      simp only [Machine.enteredAll, Machine.entered, hfault, List.append_nil]
    rw [runCycle_of_fault hfault, hentered]
    exact .of_same rfl rfl rfl rfl rfl

/-- The counts of the timers enter nothing, and the cycle is that of the machine after them. -/
theorem booked_ticked {due : Int} (h : c.dueTicks now = .ok due) :
    ∃ ticked, c.tickWhenDue now = .ok ticked ∧
      c.Booked (c.machine.enteredAll (ticksFor due ++ [.cycle])) ticked.runCycle.console := by
  obtain ⟨nextTick, hticked⟩ := tickWhenDue_of_ok h
  refine ⟨_, hticked, ?_⟩
  rw [Machine.enteredAll_append, Machine.enteredAll_ticks, ticksFor, Machine.after_ticks]
  have hcounted : c.Booked [] { c with nextTick, machine := { c.machine with
      timers := c.machine.timers.ticks (min due maxCatchUp).toNat } } :=
    .of_same rfl rfl rfl rfl rfl
  exact hcounted.trans (booked_runCycle _)

/-! ### Moments, steps and runs -/

/-- **What a moment enters is booked**, wherever the moment breaks off. -/
theorem booked_beat (c : Console) (now : Float) : c.Booked (c.ledger now) (c.beat now).console := by
  cases hreport : c.reportWhenDue now with
  | error cause =>
    rw [beat_of_untitled hreport]
    simp only [ledger, hreport]
    exact .refl c
  | ok titled =>
    have htitled := titled_of_reportWhenDue hreport
    obtain ⟨d, hprepared, hrefreshed⟩ := htitled.prepared
    have hshown := titled.booked_refreshWhenDue now
    rw [hrefreshed, htitled.machine, htitled.keymap, htitled.commandsAt_eq, htitled.questionAt_eq]
      at hshown
    have hbooked := (booked_reportWhenDue hreport).trans hshown
    -- What is entered before the timers stands, whichever way the moment goes from there.
    simp only [ledger, hreport, script]
    by_cases hquit : .quit ∈ c.commandsAt now
    · rw [decide_eq_true hquit] at hrefreshed
      rw [beat_of_quit hreport hrefreshed]
      simp only [if_pos hquit] at hbooked ⊢
      exact hbooked
    · rw [decide_eq_false hquit] at hrefreshed
      have hmachine := hprepared.machine
      simp only [if_neg hquit] at hbooked hmachine ⊢
      have hdue := dueTicks_congr now hprepared.nextTick
      cases hticks : c.dueTicks now with
      | error cause =>
        rw [beat_of_untimed hreport hrefreshed (tickWhenDue_of_error (hdue.trans hticks)),
          List.append_nil]
        exact hbooked
      | ok due =>
        obtain ⟨ticked, hticked, hcycle⟩ := booked_ticked (hdue.trans hticks)
        rw [hmachine] at hcycle
        have hall := hbooked.trans hcycle
        rw [List.append_assoc, ← Machine.enteredAll_append, List.append_assoc] at hall
        rw [beat_of_ticked hreport hrefreshed hticked]
        exact hall

/-- The ledger of a step is that of the moment that it reads off the clock. -/
theorem booked_step (c : Console) (clock : Clock) :
    c.Booked (ledgers (c.moment? clock).toList) (c.step clock).console := by
  cases hread : clock.read? with
  | none =>
    rw [step_of_spent hread, moment?, hread]
    exact .refl c
  | some reading =>
    have hbeat := c.booked_beat reading.1
    rw [console_step hread, moment?, hread]
    simp only [ledgers, Option.map_some, Option.toList_some, List.flatMap_cons, List.flatMap_nil,
      List.append_nil]
    exact hbeat

/-- So a row of steps books the ledgers of its moments. -/
theorem booked_steps (c : Console) (clock : Clock) :
    c.Booked (ledgers (c.moments clock)) (c.steps clock).console := by
  -- By the recursion of the loop: the ledger of a step, and behind it that of the steps that follow.
  induction c, clock using moments.induct with
  | case1 c clock ih =>
    by_cases hgoes : (c.step clock).goOn = .ok true
    · have hrest := (c.booked_step clock).trans (ih hgoes)
      rw [steps_of_goOn hgoes, moments_of_goOn hgoes, ledgers_append]
      exact hrest
    · rw [steps_of_stop hgoes, moments_of_stop hgoes]
      exact c.booked_step clock

/-- A start gives the first title, with rates of zero, and sets the clocks. -/
theorem booked_startBy (c : Console) (clock : Clock) :
    c.Booked (startLedger clock) (c.startBy clock).console := by
  unfold startBy startLedger
  cases clock.read? with
  | none => exact .refl c
  | some reading =>
    -- The times that the clocks are set to are not entered.
    have hset : c.Booked [] { c with
        nextTick := reading.1 + tickInterval, nextRefresh := reading.1, nextReport := reading.1 } :=
      .of_same rfl rfl rfl rfl rfl
    exact hset.trans (booked_report _ 0 0)

/-- A run is booked as a start and as its steps. -/
theorem booked_run (c : Console) (clock : Clock) :
    c.Booked (startLedger clock ++ ledgers (c.runMoments clock)) (c.run clock).console := by
  rw [run_eq_steps]
  exact (c.booked_startBy clock).trans (booked_steps _ _)

/-! ### Histories -/

/-- Whatever is asked of a console, it is booked. A refresh on request is not counted, since only steps count.
-/
theorem booked_ask (c : Console) (clock : Clock) (request : Request) :
    c.Booked (c.askLedger clock request) (c.ask clock request).console := by
  cases request with
  | start => exact c.booked_startBy clock
  | step => exact c.booked_step clock
  | run => exact c.booked_run clock
  | refresh => exact (booked_showPicture c).trans (booked_setBuzzer _)
  | report frames cycles => exact c.booked_report frames cycles
  | work event hevent => exact .of_same rfl rfl rfl rfl rfl

/-- So is a history, request by request, also behind one that fails. -/
theorem booked_askAll (c : Console) (clock : Clock) (requests : List Request) :
    c.Booked (c.askAllLedger clock requests) (c.askAll clock requests).1 := by
  induction requests generalizing c clock with
  | nil => exact .refl c
  | cons request rest ih => exact (c.booked_ask clock request).trans (ih _ _)

/-- In the ledger as well, steps in a row are so many requests for a step. -/
theorem askAllLedger_steps (c : Console) (clock : Clock) :
    c.askAllLedger clock (c.stepRequests clock) = ledgers (c.moments clock) := by
  induction c, clock using moments.induct with
  | case1 c clock ih =>
    by_cases hgoes : (c.step clock).goOn = .ok true
    · rw [stepRequests_of_goOn hgoes, moments_of_goOn hgoes, ledgers_append]
      exact congrArg _ (ih hgoes)
    · rw [stepRequests_of_stop hgoes, moments_of_stop hgoes]
      exact List.append_nil _

/-- Neither does a run enter anything but what its start and its steps do. -/
theorem askAllLedger_run (c : Console) (clock : Clock) :
    c.askAllLedger clock (c.runRequests clock) = c.askLedger clock .run :=
  congrArg (startLedger clock ++ ·) (askAllLedger_steps _ _)

/-- What a step enters is the ledger of the moment that it reads off the clock. -/
theorem askLedger_step {next : Clock} (hread : clock.read? = some (now, next)) :
    c.askLedger clock .step = c.ledger now := by
  rw [askLedger, moment?, hread]
  exact List.append_nil _

/-! ### Refreshes -/

/-- Whether a step at a moment refreshes the display: it is due, and the keyboard does not ask to quit
before it. -/
def Refreshes (c : Console) (now : Float) : Prop :=
  c.nextRefresh ≤ now ∧ .quit ∉ c.polls.headD []

instance (c : Console) (now : Float) : Decidable (c.Refreshes now) :=
  inferInstanceAs (Decidable (_ ∧ _))

/-- What a step at a moment does about keyboard and display. -/
theorem refreshWhenDue_eq (c : Console) (now : Float) :
    (c.refreshWhenDue now).2 =
      if c.Refreshes now then (c.pollKeys.2.putOff now).refresh.countFrame
      else if c.nextRefresh ≤ now then c.pollKeys.2 else c := by
  -- There are three ways for the keyboard and the display, and each has its own equation.
  by_cases hdue : c.nextRefresh ≤ now
  · by_cases hquit : .quit ∈ c.polls.headD []
    · rw [refreshWhenDue_of_quit hdue hquit, if_neg fun h => h.2 hquit, if_pos hdue]
    · rw [refreshWhenDue_of_due hdue hquit, if_pos ⟨hdue, hquit⟩]
  · rw [refreshWhenDue_of_early hdue, if_neg fun h => hdue h.1, if_neg hdue]

/-- The counts of the timers and the cycle after them are no refreshes. -/
theorem count_refresh_ticked (m : Machine) (due : Int) :
    (m.enteredAll (ticksFor due ++ [.cycle])).count .refresh = 0 := by
  rw [Machine.enteredAll_append, Machine.enteredAll_ticks, List.nil_append, Machine.enteredAll,
    Machine.enteredAll, List.append_nil, Machine.entered]
  split <;> rfl

/-- A refresh is entered at a moment exactly if the step makes one, and then only once. -/
theorem count_refresh_ledger (h : c.reportWhenDue now = .ok titled) :
    (c.ledger now).count .refresh = if c.Refreshes now then 1 else 0 := by
  -- The account comes first in the ledger, and the keys after it. Neither is a refresh.
  have haccount : (c.account now).count .refresh = 0 := by
    unfold account
    split <;> rfl
  simp only [ledger, h, script]
  rw [List.count_append, haccount, Nat.zero_add, Machine.enteredAll_append, Machine.enteredAll_keys,
    List.nil_append]
  by_cases hdue : c.nextRefresh ≤ now
  · have hcommands : c.commandsAt now = c.polls.headD [] := if_pos hdue
    have hquestion : c.questionAt now = [.consumeChanged] := if_pos hdue
    rw [hcommands, hquestion]
    by_cases hquit : .quit ∈ c.polls.headD []
    · rw [if_pos hquit, if_neg fun hmade : c.Refreshes now => hmade.2 hquit]
      rfl
    · rw [if_neg hquit, if_pos ⟨hdue, hquit⟩, Machine.enteredAll_append, List.count_append]
      -- The one refresh is the question put before the timers.
      cases c.dueTicks now with
      | error cause => rfl
      | ok due => exact congrArg (1 + ·) (count_refresh_ticked _ due)
  · have hcommands : c.commandsAt now = [] := if_neg hdue
    have hquestion : c.questionAt now = [] := if_neg hdue
    rw [hcommands, hquestion, if_neg List.not_mem_nil, if_neg fun hmade : c.Refreshes now => hdue hmade.1,
      List.nil_append]
    cases c.dueTicks now with
    | error cause => rfl
    | ok due => exact count_refresh_ticked _ due

/-- A step whose time is no number stops before it does anything, and enters nothing. -/
theorem step_of_untitled {cause : Double.NotFinite} {next : Clock} (hread : clock.read? = some (now, next))
    (h : c.reportWhenDue now = .error cause) :
    c.askLedger clock .step = [] ∧ (c.step clock).console = c := by
  constructor
  · rw [askLedger_step hread, ledger, h]
  · rw [console_step hread, beat_of_untitled h]

/-! ### Accounts -/

/-- A step gives account once at most, before anything else, and of what was counted before it. -/
theorem exists_askLedger_step (c : Console) (clock : Clock) :
    ∃ counted, (∀ item ∈ counted, item.title? = none) ∧
      (c.askLedger clock .step = counted ∨
        c.askLedger clock .step = .account c.frames c.cycles :: counted) := by
  -- A step without a time enters nothing, and so does one whose time is no number.
  have hnothing : ∀ item ∈ ([] : List Item), item.title? = none :=
    fun _ hitem => absurd hitem List.not_mem_nil
  cases hread : clock.read? with
  | none =>
    refine ⟨[], hnothing, .inl ?_⟩
    rw [askLedger, moment?, hread]
    rfl
  | some reading =>
    rw [askLedger_step hread, ledger]
    cases c.reportWhenDue reading.1 with
    | error cause => exact ⟨[], hnothing, .inl rfl⟩
    | ok titled =>
      refine ⟨c.machine.enteredAll (c.script reading.1),
        fun item hitem => Machine.title?_of_mem_enteredAll hitem, ?_⟩
      dsimp only
      -- The account stands before all that is entered of the machine, and that is no title.
      unfold account
      split
      · exact .inr rfl
      · exact .inl rfl

/-! ### From the start -/

variable {machine : Machine} {panel : Panel} {buzzer : Buzzer} {keymap : Keymap} {speed : Option Speed}

/-- **The accounts balance.** Take any console, any clock, anything that the keyboard may ask for, and any
history of requests, also of such that fail. The cycles that have not failed are those that the steps have
given account of and those that are counted still, and so are the refreshes that steps have made. The
panel has the latest title that was given to it, and a window has been given all of them and in their
order. A step gives account once at most, before anything else, and of what was counted before it; a run
is a start and so many steps.

What is entered is what happens. A step does to the machine what its script says, from which its cycle is
entered, and a refresh is entered exactly if the step makes one. -/
theorem accounts_balance (h : assemble machine panel buzzer keymap speed = .ok c)
    (polls : List (List KeyCommand)) (clock : Clock) (requests : List Request) :
    let items := (c.withPolls polls).askAllLedger clock requests
    let reached := ((c.withPolls polls).askAll clock requests).1
    let left := ((c.withPolls polls).askAll clock requests).2
    items.count .cycle = (items.map Item.cycles).sum + reached.cycles ∧
    items.count .refresh = (items.map Item.frames).sum + reached.frames ∧
    reached.panel.title = (titles items).getLast?.getD panel.title ∧
    captions reached.calls = (if panel.window.isSome then titles items else []) ∧
    (∃ counted, (∀ item ∈ counted, item.title? = none) ∧
      (reached.askLedger left .step = counted ∨
        reached.askLedger left .step = .account reached.frames reached.cycles :: counted)) ∧
    (∃ n, reached.askAll left (.start :: List.replicate n .step) =
        ((reached.run left).console, (reached.run left).clock) ∧
      reached.askAllLedger left (.start :: List.replicate n .step) = reached.askLedger left .run) ∧
    ∀ now next, left.read? = some (now, next) →
      (reached.step left).console.machine = reached.machine.after (reached.script now) ∧
      (∀ cause, reached.reportWhenDue now = .error cause →
        reached.askLedger left .step = [] ∧ (reached.step left).console = reached) ∧
      ∀ titled, reached.reportWhenDue now = .ok titled →
        reached.askLedger left .step =
          reached.account now ++ reached.machine.enteredAll (reached.script now) ∧
        (reached.askLedger left .step).count .refresh = (if reached.Refreshes now then 1 else 0) ∧
        (titled.refreshWhenDue now).2 =
          if reached.Refreshes now then (titled.pollKeys.2.putOff now).refresh.countFrame
          else if reached.nextRefresh ≤ now then titled.pollKeys.2 else titled := by
  intro items reached left
  obtain ⟨interval, rfl⟩ := assemble_eq_ok h
  obtain ⟨-, hframes, hcycles, htitle, hcaptions⟩ :=
    booked_askAll (withPolls _ polls) clock requests
  refine ⟨?_, ?_, htitle, hcaptions, exists_askLedger_step reached left,
    ⟨_, reached.askAll_run left, reached.askAllLedger_run left⟩, fun now next hread =>
    ⟨?_, fun cause hcause => step_of_untitled hread hcause, fun titled hreport => ?_⟩⟩
  · -- A new console has counted nothing.
    rw [← hcycles]
    exact (Nat.zero_add _).symm
  · rw [← hframes]
    exact (Nat.zero_add _).symm
  · rw [console_step hread, machine_beat]
  · rw [askLedger_step hread]
    refine ⟨?_, count_refresh_ledger hreport, ?_⟩
    · simp only [ledger, hreport]
    · -- The title has no influence on whether the display is due and what the keyboard asks for.
      have htitled := titled_of_reportWhenDue hreport
      have hsame : titled.Refreshes now ↔ reached.Refreshes now := by
        unfold Refreshes
        rw [htitled.nextRefresh, htitled.polls]
      rw [refreshWhenDue_eq, htitled.nextRefresh]
      simp only [hsame]

/-- A headless and silent console with a program of two jumps and a word that is no instruction. -/
def jumpingConsole : Console :=
  bare ((Machine.boot {} (Noise.cycling [])).after [.loadRom [0x12, 0x02, 0x12, 0x04, 0xFF, 0xFF]]) []

/-- A start at zero, a step at once, and steps one second later. -/
def secondSteps : Clock where
  upcoming := [0.0, 0.0, 1.0, 1.0]

/-- What is entered in the meantime: the word that is no instruction is not, and the title that is asked
for is, although it counts nothing. -/
def jumpingLedger : List Item :=
  [.notice 0 0, .account 0 0, .refresh, .cycle, .account 1 1, .refresh, .cycle, .notice 7 7]

/-- Steps at the first second and at the next, with a title that is asked for in between: two cycles have not
failed, one of them has been given account of. -/
theorem accounts_balance_jumping :
    let requests : List Request := [.start, .step, .step, .report 7 7, .step]
    let reached := ((jumpingConsole.withPolls []).askAll secondSteps requests).1
    (jumpingConsole.withPolls []).askAllLedger secondSteps requests = jumpingLedger ∧
      reached.cycles = 1 ∧ reached.frames = 1 ∧ reached.panel.title = rates 7 7 := by
  intro requests reached
  have hassembled : assemble ((Machine.boot {} (Noise.cycling [])).after
      [.loadRom [0x12, 0x02, 0x12, 0x04, 0xFF, 0xFF]]) (Panel.headless none) Buzzer.silent
      jumpingConsole.keymap (some (.whole 0)) = .ok jumpingConsole := rfl
  -- What is entered is worked out, and the law says what the console has of it.
  have hledger : (jumpingConsole.withPolls []).askAllLedger secondSteps requests = jumpingLedger := by
    decide +kernel
  have hlatest : (titles jumpingLedger).getLast? = some (rates 7 7) := rfl
  obtain ⟨hcycles, hframes, htitle, -⟩ := accounts_balance hassembled [] secondSteps requests
  rw [hledger] at hcycles hframes htitle
  rw [hlatest, Option.getD_some] at htitle
  refine ⟨hledger, (Nat.add_left_cancel hcycles).symm, (Nat.add_left_cancel hframes).symm, ?_⟩
  rw [← htitle]

end Console

end Chip8
