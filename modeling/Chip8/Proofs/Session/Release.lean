import Chip8.Proofs.Session.Start
import Chip8.Session.Conduct

/-!
# Plugins and devices are given back

A session makes a panel, a keyboard and a buzzer; it opens the display if it has a window, and the mixer if
it is to be heard. Once the console runs, all of this is let go however the run ends: each plugin once, in
the opposite order, and with them each device. The run itself opens and closes nothing
(`Console.uses_run`), so that what a session opens is what its start opens.

A start that fails gives nothing back. What is wrong with a palette, a keymap or a speed is only found when
there is a panel already, and such a session ends with the panel and with what it has opened by then.

All this is said of hosts that may refuse any call (`Session.conduct`). What such a host carries out of
something is an initial piece of it (`exists_rest_carry`), and the last deed of letting go is one that
shows; so a piece that shows as much as the whole is the whole (`Session.released_started_iff`).

* `Session.released_iff`: when a session gives back all that it has taken, and what it does in any case.
-/

namespace Chip8

/-! ### What a host carries out -/

section Carry

variable (refuses : Refusals) (number : Nat)

/-- What is carried out is an initial piece of the deeds, and all of them if no call is refused. -/
theorem exists_rest_carry (deeds : List Deed) :
    ∃ rest, (carry refuses number deeds).deeds ++ rest = deeds ∧
      ((carry refuses number deeds).refusal = none → rest = []) := by
  induction deeds generalizing number with
  | nil => exact ⟨[], rfl, fun _ => rfl⟩
  | cons deed deeds ih =>
    cases deed with
    -- A plugin becomes ready or is let go by itself: no host is asked, and no number used up.
    | stage stage =>
      obtain ⟨rest, hrest, hall⟩ := ih number
      exact ⟨rest, congrArg (_ :: ·) hrest, hall⟩
    -- A refusal ends the row, and all that was still to be done is the rest.
    | call call =>
      unfold carry
      cases refuses number call with
      | some reason => exact ⟨deeds, rfl, nofun⟩
      | none =>
        obtain ⟨rest, hrest, hall⟩ := ih (number + 1)
        exact ⟨rest, congrArg (_ :: ·) hrest, hall⟩

/-- The first deed is done in any case; a call that is refused was made all the same. -/
theorem first_deed_carry (first : Deed) (deeds : List Deed) :
    ∃ more, (carry refuses number (first :: deeds)).deeds = first :: more := by
  cases first with
  | stage stage => exact ⟨_, rfl⟩
  | call call =>
    unfold carry
    cases refuses number call with
    | some reason => exact ⟨[], rfl⟩
    | none => exact ⟨_, rfl⟩

variable {refuses number}

/-- Without a refusal all of a row is carried out. -/
theorem deeds_carry_of_no_refusal {deeds : List Deed} (h : (carry refuses number deeds).refusal = none) :
    (carry refuses number deeds).deeds = deeds := by
  obtain ⟨rest, hrest, hall⟩ := exists_rest_carry refuses number deeds
  rw [hall h, List.append_nil] at hrest
  exact hrest

/-! What it takes for all of a row of deeds to be carried out, deed by deed. -/

variable {rest : List Deed}

/-- A stage is no obstacle: all is carried out if all that comes after it is. -/
theorem deeds_carry_stage (stage : Stage) :
    (carry refuses number (.stage stage :: rest)).deeds = .stage stage :: rest ↔
      (carry refuses number rest).deeds = rest := by
  rw [carry, List.cons_inj_right]

/-- A call with something behind it must not be refused. -/
theorem deeds_carry_call {call : DeviceCall} (hrest : rest ≠ []) :
    (carry refuses number (.call call :: rest)).deeds = .call call :: rest ↔
      refuses number call = none ∧ (carry refuses (number + 1) rest).deeds = rest := by
  rw [carry]
  cases refuses number call with
  | some reason => simp [Ne.symm hrest]
  | none => simp

/-- Whether the last call is refused or not, it has been made. -/
theorem deeds_carry_last (call : DeviceCall) :
    (carry refuses number [.call call]).deeds = [.call call] := by
  rw [carry]
  cases refuses number call <;> rfl

/-- Letting go all plugins is carried out to the end exactly if the host, when there is a mixer, lets it be
silenced and closed. After the closing of the display there is nothing that could be left undone. -/
theorem Console.deeds_carry_letAllGo (refuses : Refusals) (number : Nat) (c : Console) :
    (carry refuses number c.letAllGo.deeds).deeds = c.letAllGo.deeds ↔
      (c.buzzer.audible = true →
        refuses number .stopSound = none ∧ refuses (number + 1) .closeMixer = none) := by
  -- Nothing comes after the panel, so that a refusal of its one call leaves nothing undone.
  have hpanel : ∀ number, (carry refuses number (c.panel.shutdown.calls.map .call)).deeds =
      c.panel.shutdown.calls.map .call := by
    intro number
    unfold Panel.shutdown
    split
    · exact deeds_carry_last .closeDisplay
    · rfl
  rw [Console.letAllGo_eq]
  dsimp only
  -- A silent buzzer makes no calls. One that is heard makes two, with the keyboard and the panel behind
  -- them.
  unfold Buzzer.shutdown
  cases c.buzzer.audible with
  | false => simp [deeds_carry_stage, hpanel]
  | true => simp [deeds_carry_stage, deeds_carry_call, hpanel]

/-- A host that refuses nothing carries out all of the deeds. -/
theorem carry_of_willing (hwilling : ∀ number call, refuses number call = none) (deeds : List Deed) :
    carry refuses number deeds = ⟨deeds, none⟩ := by
  induction deeds generalizing number with
  | nil => rfl
  | cons deed deeds ih =>
    cases deed with
    | stage stage => rw [carry, ih]
    | call call =>
      rw [carry, hwilling]
      dsimp only
      rw [ih]

end Carry

/-! ### What is taken and what is given back -/

/-- Where what is taken comes before anything else, what is taken and what comes after can be told
apart. -/
theorem eq_of_taken {α β : Type} {taken : α → β} (hinjective : Function.Injective taken)
    {as bs : List α} {rest others : List β} (hrest : ∀ a, taken a ∉ rest)
    (hothers : ∀ a, taken a ∉ others) (h : as.map taken ++ rest = bs.map taken ++ others) :
    as = bs ∧ rest = others := by
  -- The two rows are compared from the front; a row can only end where the other one does, since behind
  -- its end there is nothing that was taken.
  induction as generalizing bs with
  | nil =>
    cases bs with
    | nil => exact ⟨rfl, h⟩
    | cons b bs =>
      rw [List.map_nil, List.nil_append] at h
      exact absurd (h ▸ List.mem_cons_self) (hrest b)
  | cons a as ih =>
    cases bs with
    | nil =>
      rw [List.map_nil, List.nil_append] at h
      exact absurd (h ▸ List.mem_cons_self) (hothers a)
    | cons b bs =>
      obtain ⟨hfirst, hmore⟩ := List.cons.inj h
      obtain ⟨rfl, hsame⟩ := ih hmore
      exact ⟨congrArg (· :: as) (hinjective hfirst), hsame⟩

/-- All plugins that were made are let go after the last of them was made, each once and in the order
buzzer, keyboard, panel; and all devices that were opened are closed after the last of them was opened,
each once and the one that was opened last first. -/
def Released (deeds : List Deed) : Prop :=
  (∃ plugins : List Plugin, plugins <+: [.panel, .keyboard, .buzzer] ∧
    Deed.stages deeds = plugins.map .made ++ plugins.reverse.map .letGo) ∧
  ∃ devices : List Device, devices.Nodup ∧
    moves (Deed.calls deeds) = devices.map .opened ++ devices.reverse.map .closed

/-- When nothing is given back, all is given back only if nothing was taken. -/
theorem Released.eq_nil {deeds : List Deed} (h : Released deeds) (htakes : Takes deeds) :
    Deed.stages deeds = [] ∧ moves (Deed.calls deeds) = [] := by
  obtain ⟨⟨plugins, -, hstages⟩, devices, -, hmoves⟩ := h
  -- A plugin that was made would have to be let go later, and none is.
  have hnone : plugins = [] := by
    refine List.eq_nil_iff_forall_not_mem.mpr fun plugin hmem => htakes.stages plugin ?_
    rw [hstages]
    exact List.mem_append_right _ (List.mem_map_of_mem (List.mem_reverse.mpr hmem))
  have hclosed : devices = [] := by
    refine List.eq_nil_iff_forall_not_mem.mpr fun device hmem => htakes.moves device ?_
    rw [hmoves]
    exact List.mem_append_right _ (List.mem_map_of_mem (List.mem_reverse.mpr hmem))
  rw [hstages, hmoves, hnone, hclosed]
  exact ⟨rfl, rfl⟩

namespace Session

/-- Where nothing was taken there is nothing to give back. -/
theorem released_nil : Released [] :=
  ⟨⟨[], List.nil_prefix, rfl⟩, [], List.nodup_nil, rfl⟩

section Started

variable {opened ran closed rest : List Deed} {c : Console}

/-- What is not carried out of letting go would have shown. -/
theorem eq_nil_of_silent_rest (hrest : closed ++ rest = c.letAllGo.deeds)
    (hstages : Deed.stages rest = []) (hmoves : moves (Deed.calls rest) = []) : rest = [] := by
  obtain ⟨before, last, hlast, hmarks⟩ := c.marks_last_letAllGo
  rcases List.eq_nil_or_concat rest with hnone | ⟨front, d, hd⟩
  · exact hnone
  · rw [hlast, hd, List.concat_eq_append, ← List.append_assoc] at hrest
    -- The two rows end in the same deed.
    obtain ⟨-, hsame⟩ := List.append_inj' hrest rfl
    have hmem : last ∈ rest := by
      rw [hd, List.concat_eq_append, hsame]
      exact List.mem_append_right _ List.mem_cons_self
    exact absurd hmarks (Deed.not_marks_of_mem hstages hmoves hmem)

variable (hopened : Deed.stages opened = [.made .panel, .made .keyboard, .made .buzzer])
  (hdevices : moves (Deed.calls opened) = c.devices.map .opened)
  (hran : Deed.stages ran = [] ∧ moves (Deed.calls ran) = [])
include hopened hran

/-- Only the start makes plugins, and only the end lets them go. -/
theorem stages_started : Deed.stages (opened ++ ran ++ closed) =
    [.made .panel, .made .keyboard, .made .buzzer] ++ Deed.stages closed := by
  rw [Deed.stages_append, Deed.stages_append, hopened, hran.1, List.append_nil]

omit hopened in
include hdevices in
/-- Only the start opens devices, and only the end closes them. -/
theorem moves_started : moves (Deed.calls (opened ++ ran ++ closed)) =
    c.devices.map .opened ++ moves (Deed.calls closed) := by
  rw [Deed.calls_append, Deed.calls_append, moves_append, moves_append, hdevices, hran.2,
    List.append_nil]

include hdevices

/-- A session whose console has run gives back all that it has taken, if it lets all plugins go to the
end, and only then. -/
theorem released_started_iff (hrest : closed ++ rest = c.letAllGo.deeds) :
    Released (opened ++ ran ++ closed) ↔ rest = [] := by
  have hall := c.stages_letAllGo
  have hallMoves := c.moves_letAllGo
  rw [← hrest, Deed.stages_append] at hall
  rw [← hrest, Deed.calls_append, moves_append] at hallMoves
  constructor
  · rintro ⟨⟨plugins, -, hstages⟩, devices, -, hmoves⟩
    rw [stages_started hopened hran] at hstages
    rw [moves_started hdevices hran] at hmoves
    -- The closing is a piece of letting go, and letting go makes no plugin and opens no device.
    have hgiven : ∀ plugin, Stage.made plugin ∉ Deed.stages closed := by
      intro plugin hmem
      have hletGo := hall ▸ List.mem_append_left _ hmem
      simp at hletGo
    have hgivenMoves : ∀ device, Move.opened device ∉ moves (Deed.calls closed) := by
      intro device hmem
      have hclosed := hallMoves ▸ List.mem_append_left _ hmem
      simp at hclosed
    -- What was made is what the start made, and so all of it has been let go.
    have hmade : [Plugin.panel, .keyboard, .buzzer].map Stage.made ++ Deed.stages closed =
        plugins.map .made ++ plugins.reverse.map .letGo := hstages
    obtain ⟨rfl, hclosed⟩ := eq_of_taken (fun _ _ => Stage.made.inj) hgiven (by simp) hmade
    obtain ⟨rfl, hclosedMoves⟩ := eq_of_taken (fun _ _ => Move.opened.inj) hgivenMoves (by simp) hmoves
    -- As many plugins and devices have been given back as there are. The rest of letting go has none
    -- left.
    refine eq_nil_of_silent_rest hrest ?_ ?_
    · rw [hclosed] at hall
      exact List.append_right_eq_self.mp hall
    · rw [hclosedMoves] at hallMoves
      exact List.append_right_eq_self.mp hallMoves
  · rintro rfl
    rw [List.append_nil] at hrest
    refine ⟨⟨[.panel, .keyboard, .buzzer], List.prefix_rfl, ?_⟩, c.devices, c.nodup_devices, ?_⟩
    · rw [stages_started hopened hran, hrest, c.stages_letAllGo]
      rfl
    · rw [moves_started hdevices hran, hrest, c.moves_letAllGo]

end Started

/-! ### The run and the closing of a session -/

section Course

variable (refuses : Refusals) (s : Settings) (host : Host) {console : Console} (clock : Clock)

/-- Whatever is carried out of a run, it makes no plugin and opens no device. -/
theorem silent_course (hnew : console.calls = #[]) :
    Deed.stages (course refuses s host console clock).deeds = [] ∧
      moves (Deed.calls (course refuses s host console clock).deeds) = [] := by
  -- The calls of a run are neither moves nor stages, and so neither are those of an initial piece of it.
  obtain ⟨rest, hrest, -⟩ := exists_rest_carry refuses
    (Deed.calls (opening refuses s host).deeds).length ((console.run clock).console.calls.toList.map .call)
  have hmoves : moves (console.run clock).console.calls.toList = [] := by
    rw [(console.uses_run clock).moves, hnew]
    rfl
  constructor
  · have hstages := congrArg Deed.stages hrest
    rw [Deed.stages_append, Deed.stages_map_call] at hstages
    exact (List.append_eq_nil_iff.mp hstages).1
  · have hcalls := congrArg (fun deeds => moves (Deed.calls deeds)) hrest
    rw [Deed.calls_append, moves_append, Deed.calls_map_call, hmoves] at hcalls
    exact (List.append_eq_nil_iff.mp hcalls).1

end Course

/-! ### Whole sessions -/

/-- Whether a console comes of the start of a session, and no call of the start is refused. -/
def StartsUp (refuses : Refusals) (s : Settings) (host : Host) : Prop :=
  (∃ console, (prepare s host).value = .ok console) ∧ (opening refuses s host).refusal = none

/-- Whether the mixer, if a session has it, may be silenced and closed when the console has run. -/
def ClosesDown (refuses : Refusals) (s : Settings) (host : Host) (clock : Clock) : Prop :=
  ∀ console, (prepare s host).value = .ok console → console.buzzer.audible = true →
    let number := (Deed.calls ((opening refuses s host).deeds ++
      (course refuses s host console clock).deeds)).length
    refuses number .stopSound = none ∧ refuses (number + 1) .closeMixer = none

section Conduct

variable {refuses : Refusals} {s : Settings} {host : Host} {console : Console} {clock : Clock}

/-- A refused call of the start ends the session there, with what the host has said. -/
theorem conduct_of_refused {reason : String} (h : (opening refuses s host).refusal = some reason) :
    conduct refuses s host clock = ⟨(opening refuses s host).deeds, .error (.refused reason)⟩ := by
  simp only [conduct, h]

/-- If something is wrong with the wishes, the session ends with that. -/
theorem conduct_of_error {cause : SessionError} (h : (opening refuses s host).refusal = none)
    (hcause : (prepare s host).value = .error cause) :
    conduct refuses s host clock = ⟨(opening refuses s host).deeds, .error (.failed cause)⟩ := by
  simp only [conduct, h, hcause]

/-- What becomes of a session whose console runs. -/
theorem conduct_of_ok (h : (opening refuses s host).refusal = none)
    (hconsole : (prepare s host).value = .ok console) :
    conduct refuses s host clock =
      { deeds := (prepare s host).deeds ++ (course refuses s host console clock).deeds ++
          (closing refuses s host console clock).deeds
        outcome :=
          match (closing refuses s host console clock).refusal.or
            (course refuses s host console clock).refusal with
          | some reason => .error (.refused reason)
          | none => ((console.run clock).goOn.map fun _ => ()).mapError fun halt =>
            .failed (.halt halt) } := by
  simp only [conduct, h, hconsole]
  have hdeeds : (opening refuses s host).deeds = (prepare s host).deeds := deeds_carry_of_no_refusal h
  exact congr (congrArg (Conduct.mk <| · ++ _ ++ _) hdeeds) rfl

/-- A session whose start fails ends with what the start has done, and that gives nothing back. -/
theorem conduct_of_not_startsUp (h : ¬ StartsUp refuses s host) :
    (conduct refuses s host clock).deeds = (opening refuses s host).deeds ∧
      Takes (opening refuses s host).deeds := by
  constructor
  · -- There are two ways to fail, and in both of them the session ends with the deeds of the start.
    cases hrefusal : (opening refuses s host).refusal with
    | some reason => rw [conduct_of_refused hrefusal]
    | none =>
      cases hvalue : (prepare s host).value with
      | error cause => rw [conduct_of_error hrefusal hvalue]
      | ok console => exact absurd ⟨⟨console, hvalue⟩, hrefusal⟩ h
  · -- Those deeds are a piece of what the start would do, and that gives nothing back.
    obtain ⟨rest, hrest, -⟩ := exists_rest_carry refuses 0 (prepare s host).deeds
    have htakes := (takes_prepare s host).1
    rw [← hrest] at htakes
    exact htakes.of_append

/-- A console comes only of a session that has come to its plugins. -/
theorem begins_of_ok (h : (prepare s host).value = .ok console) : Begins s host := by
  refine Classical.byContradiction fun hnot => ?_
  obtain ⟨-, cause, hcause⟩ := prepare_of_not_begins hnot
  cases h.symm.trans hcause

/-- A session closes down if letting go its plugins is carried out to the end. -/
theorem closesDown_iff (h : (prepare s host).value = .ok console) :
    ClosesDown refuses s host clock ↔
      (closing refuses s host console clock).deeds = console.letAllGo.deeds := by
  rw [closing, Console.deeds_carry_letAllGo]
  constructor
  · intro hcloses
    exact hcloses console h
  · -- There is one console that can come of a start, and so it does not matter for which one it is asked.
    intro hcloses other hother
    obtain rfl := Except.ok.inj (h.symm.trans hother)
    exact hcloses

/-- When a session gives back all that it has taken. -/
theorem released_conduct_iff : Released (conduct refuses s host clock).deeds ↔
    (Begins s host → StartsUp refuses s host ∧ ClosesDown refuses s host clock) := by
  -- Started up, a session has taken everything, and it is for the closing to give it back. Otherwise it
  -- gives back nothing, and the question is whether anything was taken.
  by_cases hstarts : StartsUp refuses s host
  · obtain ⟨⟨console, hconsole⟩, hrefusal⟩ := hstarts
    obtain ⟨hstages, hmoves, hnew⟩ := (takes_prepare s host).2 console hconsole
    have hran := silent_course refuses s host clock hnew
    obtain ⟨rest, hrest, -⟩ : ∃ rest, (closing refuses s host console clock).deeds ++ rest =
        console.letAllGo.deeds ∧ _ := exists_rest_carry refuses _ _
    have hcloses : ClosesDown refuses s host clock ↔ rest = [] := by
      rw [closesDown_iff hconsole, ← hrest]
      exact List.self_eq_append_right
    rw [conduct_of_ok hrefusal hconsole, hcloses]
    constructor
    · intro h _
      exact ⟨⟨⟨console, hconsole⟩, hrefusal⟩, (released_started_iff hstages hmoves hran hrest).mp h⟩
    · intro h
      exact (released_started_iff hstages hmoves hran hrest).mpr (h (begins_of_ok hconsole)).2
  · obtain ⟨hdeeds, htakes⟩ := @conduct_of_not_startsUp refuses s host clock hstarts
    rw [hdeeds]
    by_cases hbegins : Begins s host
    · -- The first deed shows, and nothing was given back.
      obtain ⟨first, rest, hfirst, hmarks⟩ := marks_first_deed hbegins
      obtain ⟨more, hcarried⟩ := first_deed_carry refuses 0 first rest
      have hnot : ¬ Released (opening refuses s host).deeds := by
        intro hreleased
        obtain ⟨hstages, hmoves⟩ := hreleased.eq_nil htakes
        refine Deed.not_marks_of_mem hstages hmoves ?_ hmarks
        rw [opening, hfirst, hcarried]
        exact List.mem_cons_self
      exact ⟨fun h => absurd h hnot, fun h => absurd (h hbegins).1 hstarts⟩
    · -- Nothing was done at all.
      rw [opening, (prepare_of_not_begins hbegins).1]
      exact ⟨fun _ h => absurd h hbegins, fun _ => released_nil⟩

/-! ### Hosts that do as they are asked -/

/-- With a host that refuses nothing, a session is carried out as it is meant. -/
theorem conduct_of_willing (hwilling : ∀ number call, refuses number call = none) :
    (conduct refuses s host clock).deeds = (run s host clock).deeds ∧
      (conduct refuses s host clock).outcome = (run s host clock).outcome.mapError .failed := by
  -- The opening, the course and the closing are carried out as they stand.
  have hall : ∀ number deeds, carry refuses number deeds = ⟨deeds, none⟩ :=
    fun number deeds => carry_of_willing hwilling deeds
  have hrefusal : (opening refuses s host).refusal = none := by rw [opening, hall]
  cases hvalue : (prepare s host).value with
  | error cause =>
    rw [conduct_of_error hrefusal hvalue, opening, hall]
    simp only [run, hvalue, true_and]
    rfl
  | ok console =>
    -- The plugins are those of the console when it has run, and they are the same as before.
    have hclosing := (console.uses_run clock).deeds_letAllGo
    rw [conduct_of_ok hrefusal hvalue, course, closing, hall, hall]
    simp only [run, hvalue, hclosing, true_and]
    cases (console.run clock).goOn <;> rfl

/-- After a session no key is held. -/
theorem keypad_run {left : Console} (h : (run s host clock).console = some left) :
    left.machine.keypad = Keypad.released := by
  cases hvalue : (prepare s host).value with
  | error cause =>
    simp only [run, hvalue] at h
    cases h
  | ok console =>
    simp only [run, hvalue, Option.some.injEq] at h
    rw [← h, Console.letAllGo_eq]
    rfl

end Conduct

/-- **What a session takes it gives back, if its start does not fail.** Take any wishes, any host, any
clock, and any calls that the host may refuse. A session that comes as far as to make a plugin gives back
all that it has taken, each plugin and each device once and in their order, exactly if a console comes of
its start without a refusal and the host lets the mixer be silenced and closed.

If the start fails, the session ends there with what was wrong, or with what the host has said, and gives
nothing back. If it does not, the console runs as far as the host lets it, and however that ends, letting go
is begun: the buzzer first, then the keyboard, then the panel, whatever the run has made of the console by
then, and no key is held afterwards. What has ended the run reaches whoever asked for the session as it is,
unless the host refuses a call of letting go as well.

With a host that refuses nothing this is a run of a session. -/
theorem released_iff (refuses : Refusals) (s : Settings) (host : Host) (clock : Clock) :
    let r := conduct refuses s host clock
    (Released r.deeds ↔ (Begins s host → StartsUp refuses s host ∧ ClosesDown refuses s host clock)) ∧
    (¬ StartsUp refuses s host →
      r.deeds = (opening refuses s host).deeds ∧ Takes r.deeds ∧
      (∀ reason, (opening refuses s host).refusal = some reason → r.outcome = .error (.refused reason)) ∧
      ∀ cause, (opening refuses s host).refusal = none → (prepare s host).value = .error cause →
        r.outcome = .error (.failed cause)) ∧
    (∀ console, (prepare s host).value = .ok console → (opening refuses s host).refusal = none →
      let course := course refuses s host console clock
      let closing := closing refuses s host console clock
      r.deeds = (prepare s host).deeds ++ course.deeds ++ closing.deeds ∧
      Deed.stages r.deeds =
        [.made .panel, .made .keyboard, .made .buzzer] ++ Deed.stages closing.deeds ∧
      moves (Deed.calls r.deeds) =
        console.devices.map .opened ++ moves (Deed.calls closing.deeds) ∧
      (∃ rest, closing.deeds ++ rest = console.letAllGo.deeds ∧ (closing.refusal = none → rest = [])) ∧
      (∀ left, console.Uses left →
        left.letAllGo.deeds = console.letAllGo.deeds ∧
          Deed.stages left.letAllGo.deeds = [.letGo .buzzer, .letGo .keyboard, .letGo .panel] ∧
          moves (Deed.calls left.letAllGo.deeds) = console.devices.reverse.map .closed ∧
          (left.letGo .keyboard).value.machine.keypad = Keypad.released) ∧
      r.outcome =
        match closing.refusal.or course.refusal with
        | some reason => .error (.refused reason)
        | none => ((console.run clock).goOn.map fun _ => ()).mapError fun halt =>
          .failed (.halt halt)) ∧
    ((∀ number call, refuses number call = none) →
      r.deeds = (run s host clock).deeds ∧
      r.outcome = (run s host clock).outcome.mapError .failed ∧
      (Released (run s host clock).deeds ↔
        (Begins s host → ∃ console, (prepare s host).value = .ok console)) ∧
      ∀ left, (run s host clock).console = some left → left.machine.keypad = Keypad.released) := by
  intro r
  -- Three kinds of sessions: one whose start fails, one whose console runs, and one whose host is
  -- willing.
  refine ⟨released_conduct_iff, fun hfails => ?_, fun console hconsole hrefusal => ?_, fun hwilling => ?_⟩
  · obtain ⟨hdeeds, htakes⟩ := @conduct_of_not_startsUp refuses s host clock hfails
    refine ⟨hdeeds, hdeeds ▸ htakes, fun reason hreason => ?_, fun cause hrefusal hcause => ?_⟩
    · exact congrArg Conduct.outcome (conduct_of_refused hreason)
    · exact congrArg Conduct.outcome (conduct_of_error hrefusal hcause)
  · obtain ⟨hstages, hmoves, hnew⟩ := (takes_prepare s host).2 console hconsole
    have hran := silent_course refuses s host clock hnew
    have hr := @conduct_of_ok refuses s host console clock hrefusal hconsole
    have hdeeds := congrArg Conduct.deeds hr
    refine ⟨hdeeds, ?_, ?_, exists_rest_carry refuses _ _, fun left huses => ?_,
      congrArg Conduct.outcome hr⟩
    · exact hdeeds ▸ stages_started hstages hran
    · exact hdeeds ▸ moves_started hmoves hran
    · -- The run leaves the devices to the console, so that letting go is the same before and after it.
      have hsame := huses.deeds_letAllGo
      exact ⟨hsame, left.stages_letAllGo, hsame ▸ console.moves_letAllGo, rfl⟩
  · obtain ⟨hdeeds, houtcome⟩ := @conduct_of_willing refuses s host clock hwilling
    refine ⟨hdeeds, houtcome, ?_, fun left hleft => keypad_run hleft⟩
    -- Nothing is refused, so that of the condition there remains that a console comes of the start.
    have hopening : (opening refuses s host).refusal = none := by
      rw [opening, carry_of_willing hwilling]
    rw [← hdeeds, released_conduct_iff]
    constructor
    · intro h hbegins
      exact (h hbegins).1.1
    · intro h hbegins
      exact ⟨⟨h hbegins, hopening⟩, fun _ _ _ => ⟨hwilling _ _, hwilling _ _⟩⟩

/-- Wishes for a window of a width, with a buzzer to be heard. -/
def wishes (width : Int) : Settings where
  file := .given "rom.ch8"
  speed := .given (.given (.whole 0))
  renderer := .given (.given "pygame")
  scale := .given (.given width)
  mute := .given false
  keymap := .unset
  palette := .unset
  debug := .given false

/-- A host with windows and a short program. -/
def bench : Host where
  fileContent _ := .ok [0x60, 0x01, 0xA0, 0x00, 0xD0, 0x15, 0x00, 0xEE]
  hasWindows := true
  noise := .cycling []

/-- A host that refuses windows whose size is below zero, as PyGame 2 does. -/
def refusesNegative : Refusals
  | _, .setMode width height =>
    if width < 0 ∨ height < 0 then some "Cannot set negative sized display mode" else none
  | _, _ => none

/-- A session with a window and a buzzer gives back what it has taken, however short its run. With a width
below zero it ends when the display is open already, and leaves it so. -/
theorem released_iff_width :
    Released (run (wishes 512) bench {}).deeds ∧
      (conduct refusesNegative (wishes (-4)) bench {}).outcome =
        .error (.refused "Cannot set negative sized display mode") ∧
      ¬ Released (conduct refusesNegative (wishes (-4)) bench {}).deeds := by
  have hstarts : ∃ console, (prepare (wishes 512) bench).value = .ok console := by
    have hok : (prepare (wishes 512) bench).value.isOk = true := by decide +kernel
    cases hvalue : (prepare (wishes 512) bench).value with
    | error cause =>
      rw [hvalue] at hok
      cases hok
    | ok console => exact ⟨console, rfl⟩
  obtain ⟨-, -, -, hwilling⟩ := released_iff (fun _ _ => none) (wishes 512) bench {}
  obtain ⟨-, -, hreleased, -⟩ := hwilling fun _ _ => rfl
  -- The mode is set when the display has been opened already.
  have hrefused : (opening refusesNegative (wishes (-4)) bench).refusal =
      some "Cannot set negative sized display mode" := by decide +kernel
  have hfails : ¬ StartsUp refusesNegative (wishes (-4)) bench := by
    rintro ⟨-, hnone⟩
    cases hrefused.symm.trans hnone
  have hbegins : Begins (wishes (-4)) bench := by
    refine ⟨?_, nofun⟩
    have hok : (plan (wishes (-4)) bench).isOk = true := by decide +kernel
    cases hplan : plan (wishes (-4)) bench with
    | error cause =>
      rw [hplan] at hok
      cases hok
    | ok p => exact ⟨p, rfl⟩
  obtain ⟨hiff, hending, -⟩ := released_iff refusesNegative (wishes (-4)) bench {}
  refine ⟨hreleased.mpr fun _ => hstarts, (hending hfails).2.2.1 _ hrefused, fun h => ?_⟩
  exact hfails (hiff.mp h hbegins).1

/-- The keymap is found wanting when there is a panel already. A window stays open, and a panel without one
is not let go either. -/
theorem window_left_open :
    let oneKey : Settings := { wishes 512 with keymap := .given (.given "1") }
    let headless : Settings := { oneKey with renderer := .given (.given "null") }
    (moves (run oneKey bench {}).calls = [.opened .display] ∧
        Deed.stages (run oneKey bench {}).deeds = [.made .panel] ∧
        ¬ Released (run oneKey bench {}).deeds) ∧
      Deed.stages (run headless bench {}).deeds = [.made .panel] ∧
        ¬ Released (run headless bench {}).deeds := by
  intro oneKey headless
  -- A panel that is made stands alone, with nothing that is let go after it.
  have hnot : ∀ deeds, Deed.stages deeds = [.made .panel] → ¬ Released deeds := by
    rintro deeds hdeeds ⟨⟨plugins, -, hstages⟩, -⟩
    rw [hdeeds] at hstages
    have hlengths := congrArg List.length hstages
    rw [List.length_append, List.length_map, List.length_map, List.length_reverse] at hlengths
    simp only [List.length_cons, List.length_nil] at hlengths
    omega
  have hmade : Deed.stages (run oneKey bench {}).deeds = [.made .panel] := by decide +kernel
  have hquiet : Deed.stages (run headless bench {}).deeds = [.made .panel] := by decide +kernel
  exact ⟨⟨by decide +kernel, hmade, hnot _ hmade⟩, hquiet, hnot _ hquiet⟩

end Session

end Chip8
