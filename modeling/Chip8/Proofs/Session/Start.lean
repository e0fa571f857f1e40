import Chip8.Proofs.Console.Devices
import Chip8.Session

/-!
# The start of a session

A start makes the plugins of a console and wires them together. It is a row of checks, of uses of the host
and of plugins that become ready, and each of these goes on to what comes after it unless something is
wrong. `Start.Makes` is what all of this comes to: whatever happens, nothing is given back; and if it ends
well, the given plugins were made and the given devices opened. There is one rule for each way in which a
start goes on (`Makes.check`, `Makes.use`, `Makes.made`), so that the law of the whole start is put together
along its definition.

The first deed of a start tells already that there is something to give back (`Session.marks_first_deed`):
a window begins with opening the display, and a headless panel is ready at once.

* `Session.takes_prepare`: what a start does;
* `Session.prepare_of_not_begins`: a session that never comes to a plugin does nothing.
-/

namespace Chip8

/-- Deeds by which nothing is given back. -/
structure Takes (deeds : List Deed) : Prop where
  stages : ∀ plugin, .letGo plugin ∉ Deed.stages deeds
  moves : ∀ device, .closed device ∉ moves (Deed.calls deeds)

namespace Takes

variable {first second : List Deed}

theorem nil : Takes [] :=
  ⟨fun _ => List.not_mem_nil, fun _ => List.not_mem_nil⟩

/-- What is only a part of such deeds gives nothing back either. -/
theorem of_append (h : Takes (first ++ second)) : Takes first := by
  obtain ⟨hstages, hmoves⟩ := h
  rw [Deed.stages_append] at hstages
  rw [Deed.calls_append, moves_append] at hmoves
  exact ⟨fun plugin hmem => hstages plugin (List.mem_append_left _ hmem),
    fun device hmem => hmoves device (List.mem_append_left _ hmem)⟩

/-- Deeds that give nothing back stay so when a plugin has been made before them. -/
theorem made (plugin : Plugin) (h : Takes first) : Takes (.stage (.made plugin) :: first) := by
  refine ⟨fun other hmem => ?_, h.moves⟩
  -- The plugin that was made is not one that is let go.
  rcases List.mem_cons.mp hmem with hsame | hrest
  · cases hsame
  · exact h.stages other hrest

/-- And so they do when devices have been opened before them. -/
theorem use {calls : List DeviceCall} {devices : List Device}
    (hcalls : Chip8.moves calls = devices.map .opened) (h : Takes first) :
    Takes (calls.map .call ++ first) := by
  constructor
  · intro plugin
    rw [Deed.stages_append, Deed.stages_map_call]
    exact h.stages plugin
  · intro device hmem
    rw [Deed.calls_append, Deed.calls_map_call, moves_append, hcalls] at hmem
    rcases List.mem_append.mp hmem with hopened | hrest
    · obtain ⟨other, -, hsame⟩ := List.mem_map.mp hopened
      cases hsame
    · exact h.moves device hrest

end Takes

namespace Start

variable {α β : Type}

/-! ### How a start goes on -/

/-- A check does nothing, and what comes after it happens only if nothing is wrong. -/
theorem run_check_bind (r : Except SessionError α) (f : α → Start β) :
    (check r >>= f).run = match r with
      | .error cause => ⟨.error cause, []⟩
      | .ok a => (f a).run := by
  cases r <;> rfl

/-- The calls that a use makes come before all that follows it. -/
theorem run_use_bind (t : Traced α) (f : α → Start β) :
    (use t >>= f).run =
      ⟨(f t.value).run.value, t.calls.map .call ++ (f t.value).run.deeds⟩ :=
  congrArg (fun calls => Done.mk _ (calls ++ _)) (List.append_nil _)

/-- A plugin is noted as made before all that follows it. -/
theorem run_made_bind (plugin : Plugin) (f : Unit → Start β) :
    (made plugin >>= f).run =
      ⟨(f ()).run.value, .stage (.made plugin) :: (f ()).run.deeds⟩ := rfl

/-- What is done from some point of a start on. Nothing is given back; and if it ends well, the given
plugins are made and the given devices opened, and what has come of it is good. -/
structure Makes (plugins : List Plugin) (devices : List Device) (good : α → Prop)
    (x : Done (Except SessionError α)) : Prop where
  takes : Takes x.deeds
  ended : ∀ a, x.value = .ok a → Deed.stages x.deeds = plugins.map .made ∧
    moves (Deed.calls x.deeds) = devices.map .opened ∧ good a

namespace Makes

variable {plugins : List Plugin} {devices opened all : List Device} {good : β → Prop}

/-- What ends at once has made no plugin and opened no device. -/
theorem done {b : β} (h : good b) : Makes [] [] good (pure b : Start β).run := by
  refine ⟨.nil, ?_⟩
  rintro _ ⟨rfl⟩
  exact ⟨rfl, rfl, h⟩

/-- A check passes on what comes after it, and a start that ends with it has nothing to answer for. -/
theorem check {r : Except SessionError α} {f : α → Start β}
    (h : ∀ a, r = .ok a → Makes plugins devices good (f a).run) :
    Makes plugins devices good (Start.check r >>= f).run := by
  rw [run_check_bind]
  cases r with
  | error cause =>
    refine ⟨.nil, ?_⟩
    rintro _ ⟨⟩
  | ok a => exact h a rfl

/-- What a use opens stands before what is opened after it. -/
theorem use {t : Traced α} {f : α → Start β} (ht : moves t.calls = opened.map .opened)
    (hall : opened ++ devices = all) (h : Makes plugins devices good (f t.value).run) :
    Makes plugins all good (Start.use t >>= f).run := by
  rw [run_use_bind]
  -- The calls are no stages, so that the plugins are those of what follows.
  refine ⟨h.takes.use ht, fun b hb => ?_⟩
  obtain ⟨hstages, hmoves, hgood⟩ := h.ended b hb
  refine ⟨?_, ?_, hgood⟩
  · rw [Deed.stages_append, Deed.stages_map_call]
    exact hstages
  · rw [Deed.calls_append, Deed.calls_map_call, moves_append, ht, hmoves, ← List.map_append, hall]

/-- A plugin stands before those that are made after it. -/
theorem made {plugin : Plugin} {f : Unit → Start β}
    (h : Makes plugins devices good (f ()).run) :
    Makes (plugin :: plugins) devices good (Start.made plugin >>= f).run := by
  rw [run_made_bind]
  refine ⟨h.takes.made plugin, fun b hb => ?_⟩
  obtain ⟨hstages, hmoves, hgood⟩ := h.ended b hb
  exact ⟨congrArg (_ :: ·) hstages, hmoves, hgood⟩

end Makes

end Start

/-! ### Panels and buzzers -/

namespace Panel

variable {scale : Option (Answer Int)} {choice : Option (Answer String)} {panel : Panel}

/-- A window opens the display before anything can go wrong with it. -/
theorem calls_openWindow (scale : Option (Answer Int)) (choice : Option (Answer String)) :
    ∃ more, (openWindow scale choice).calls = .openDisplay :: more ∧ moves more = [] := by
  unfold openWindow
  rw [Traced.calls_bind]
  cases scale.getD (.given standardWidth) with
  | blank => exact ⟨_, rfl, rfl⟩
  | given width => cases hpalette : palette choice <;> exact ⟨_, rfl, rfl⟩

/-- If a panel comes of it, that has a window. -/
theorem window_openWindow (h : (openWindow scale choice).value = .ok panel) :
    panel.window.isSome = true := by
  unfold openWindow at h
  -- A width that is not a number and a palette that cannot be read are the two ways to fail.
  cases hscale : scale.getD (.given standardWidth) with
  | blank =>
    simp only [hscale] at h
    cases h
  | given width =>
    cases hpalette : palette choice with
    | error cause =>
      simp only [hscale, hpalette] at h
      cases h
    | ok palette =>
      simp only [hscale, hpalette] at h
      cases h
      rfl

end Panel

/-- A buzzer that is to be heard opens the mixer and nothing else. -/
theorem Buzzer.moves_openMixer : moves Buzzer.openMixer.calls = [.opened .mixer] := rfl

namespace Session

variable {s : Settings} {host : Host} {p : Plan}

theorem ok_of_mapError {ε α : Type} {r : Except ε α} {wrap : ε → SessionError} {a : α}
    (h : r.mapError wrap = .ok a) : r = .ok a := by
  cases r with
  | error e => cases h
  | ok b =>
    cases h
    rfl

/-- The display of a plan, if it has a window. -/
def display (p : Plan) : List Device :=
  if p.windowed then [.display] else []

/-- The mixer of a plan, if it is to be heard. -/
def mixer (p : Plan) : List Device :=
  if p.audible then [.mixer] else []

section Panel

variable (p : Plan) (s : Settings) (scale : Option (Answer Int))

/-- A plan with a window opens one, and passes on what is wrong with it. -/
theorem openPanel_of_windowed (h : p.windowed = true) :
    openPanel p s scale =
      ⟨(Panel.openWindow scale s.palette.choice?).value.mapError .window,
        (Panel.openWindow scale s.palette.choice?).calls⟩ := by
  rw [openPanel, if_pos h]
  exact congrArg (Traced.mk _) (List.append_nil _)

/-- A plan without a window makes no call, and cannot fail here. -/
theorem openPanel_of_headless (h : p.windowed = false) :
    openPanel p s scale = ⟨.ok (Panel.headless (scale.bind Answer.value?)), []⟩ := by
  rw [openPanel, h]
  rfl

/-- The panel opens the display of the plan, whether or not something is found wrong afterwards. -/
theorem moves_openPanel : moves (openPanel p s scale).calls = (display p).map .opened := by
  cases h : p.windowed with
  | false =>
    rw [openPanel_of_headless p s scale h, display, h]
    rfl
  | true =>
    obtain ⟨more, hcalls, hmore⟩ := Panel.calls_openWindow scale s.palette.choice?
    rw [openPanel_of_windowed p s scale h, hcalls, display, h]
    exact congrArg (_ :: ·) hmore

variable {p s scale}

/-- The panel that comes of a plan has a window if the plan has one. -/
theorem window_openPanel {panel : Panel} (h : (openPanel p s scale).value = .ok panel) :
    panel.window.isSome = p.windowed := by
  cases hwindow : p.windowed with
  | false =>
    rw [openPanel_of_headless p s scale hwindow] at h
    cases h
    rfl
  | true =>
    rw [openPanel_of_windowed p s scale hwindow] at h
    exact Panel.window_openWindow (ok_of_mapError h)

end Panel

/-- The buzzer opens the mixer of the plan. -/
theorem moves_openBuzzer (p : Plan) : moves (openBuzzer p).calls = (mixer p).map .opened := by
  cases h : p.audible <;> simp [openBuzzer, mixer, h, Buzzer.moves_openMixer]

/-- The buzzer that comes of a plan is heard if the plan says so. -/
theorem audible_openBuzzer (p : Plan) : (openBuzzer p).value.audible = p.audible := by
  cases h : p.audible <;> simp [openBuzzer, h, Buzzer.silent, Buzzer.openMixer]

/-! ### The start as a whole -/

/-- A console that has just been put together has opened these devices by itself, and made no call. -/
def New (devices : List Device) (console : Console) : Prop :=
  console.devices = devices ∧ console.calls = #[]

/-- **What the devices of a session come to**: three plugins in their order, and the display and the mixer as
far as they are planned. -/
theorem makes_openDevices (p : Plan) (s : Settings) (host : Host) :
    Start.Makes [.panel, .keyboard, .buzzer] (display p ++ mixer p) (New (display p ++ mixer p))
      (openDevices p s host).run := by
  unfold openDevices
  -- One rule for each line of the definition, in its order.
  refine .check fun scale _ => .use (moves_openPanel p s scale) rfl ?_
  refine .check fun panel hpanel => .made ?_
  refine .check fun choice _ => .check fun keymap _ => .made ?_
  refine .use (moves_openBuzzer p) (List.append_nil _) (.made ?_)
  refine .check fun speed _ => .check fun console hconsole => .done ?_
  -- The console has the panel and the buzzer that were made for it.
  obtain ⟨interval, rfl⟩ := Console.assemble_eq_ok (ok_of_mapError hconsole)
  refine ⟨?_, rfl⟩
  rw [Console.devices, window_openPanel hpanel, audible_openBuzzer]
  rfl

/-- Whether a session comes as far as to make a plugin: its wishes are clear, its program fits into the
memory, and the width of the panel can be looked up. -/
def Begins (s : Settings) (host : Host) : Prop :=
  (∃ p, plan s host = .ok p) ∧ s.scale ≠ .missing

/-- A setting that is there can be looked up, even if it holds nothing. -/
theorem require_of_ne_missing {α : Type} {e : Entry α} (h : e ≠ .missing) (setting : Switch) :
    ∃ choice, e.require setting = .ok choice := by
  cases e with
  | missing => exact absurd rfl h
  | unset => exact ⟨_, rfl⟩
  | given value => exact ⟨_, rfl⟩

/-- A session that does not come to a plugin fails without a deed. -/
theorem prepare_of_not_begins (h : ¬ Begins s host) :
    (prepare s host).deeds = [] ∧ ∃ cause, (prepare s host).value = .error cause := by
  unfold prepare
  -- The wishes may be wrong, and else the width is missing. In neither case has anything been done.
  cases hplan : plan s host with
  | error cause => exact ⟨rfl, cause, rfl⟩
  | ok p =>
    have hmissing : s.scale = .missing :=
      Classical.not_not.mp fun hgiven => h ⟨⟨p, hplan⟩, hgiven⟩
    dsimp only
    rw [openDevices, Start.run_check_bind, hmissing]
    exact ⟨rfl, _, rfl⟩

/-- The first deed of a session that comes to a plugin shows. -/
theorem marks_first_deed (h : Begins s host) :
    ∃ first rest, (prepare s host).deeds = first :: rest ∧ first.Marks := by
  obtain ⟨⟨p, hplan⟩, hscale⟩ := h
  obtain ⟨scale, hrequired⟩ := require_of_ne_missing hscale .scale
  unfold prepare
  rw [hplan]
  dsimp only
  rw [openDevices, Start.run_check_bind, hrequired]
  dsimp only
  rw [Start.run_use_bind]
  -- With or without a window, something of the panel shows at once.
  cases hwindow : p.windowed with
  | true =>
    -- The display is opened before anything can go wrong.
    obtain ⟨more, hcalls, -⟩ := Panel.calls_openWindow scale s.palette.choice?
    rw [openPanel_of_windowed p s scale hwindow, hcalls]
    exact ⟨.call .openDisplay, _, rfl, .inr rfl⟩
  | false =>
    rw [openPanel_of_headless p s scale hwindow]
    exact ⟨.stage (.made .panel), _, rfl, .inl rfl⟩

/-- Whatever comes of a start, it gives nothing back. If a console comes of it, all plugins were made, the
panel first, and just the devices were opened that the console has. -/
theorem takes_prepare (s : Settings) (host : Host) :
    Takes (prepare s host).deeds ∧
      ∀ console, (prepare s host).value = .ok console →
        Deed.stages (prepare s host).deeds = [.made .panel, .made .keyboard, .made .buzzer] ∧
        moves (Deed.calls (prepare s host).deeds) = console.devices.map .opened ∧
        console.calls = #[] := by
  -- What has been planned wrongly does nothing, and all other starts follow the plan.
  unfold prepare
  cases plan s host with
  | error cause =>
    refine ⟨.nil, ?_⟩
    rintro _ ⟨⟩
  | ok p =>
    obtain ⟨htakes, hended⟩ := makes_openDevices p s host
    refine ⟨htakes, fun console hconsole => ?_⟩
    obtain ⟨hstages, hmoves, hdevices, hcalls⟩ := hended console hconsole
    rw [hdevices]
    exact ⟨hstages, hmoves, hcalls⟩

end Session

end Chip8
