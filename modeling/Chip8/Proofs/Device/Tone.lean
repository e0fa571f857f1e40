import Chip8.Device.Buzzer
import Mathlib.Data.List.Induction

/-!
# When the tone plays

A silent buzzer keeps every setting as it is given; an audible one keeps only whether the setting counts
as on, and makes a call when that changes. The two agree all the same. After any row of settings, of
whatever kinds, both are on exactly if the last one counts as on (`Buzzer.tone_follows_settings`).

What carries the law for the audible buzzer is `Buzzer.InStep`: its calls take turns, the first of them
plays the tone, and there is an odd number of them exactly if the buzzer is on. A setting that changes
nothing makes no call and keeps all of this; one that does makes the call whose turn it is
(`Buzzer.InStep.enable`).
-/

namespace Chip8

/-- Calls are made in the order of what makes them, however that is grouped. -/
instance : LawfulMonad Traced :=
  .mk' Traced
    (fun t => congrArg (Traced.mk t.value) (List.append_nil t.calls))
    (fun _ _ => rfl)
    fun t _ _ => congrArg (Traced.mk _) (List.append_assoc t.calls _ _)

/-- Whether the tone plays after a call, given whether it did before. -/
def DeviceCall.sounds (before : Bool) : DeviceCall → Bool
  | .playSound _ => true
  | .stopSound => false
  | _ => before

namespace Buzzer

/-- Gives the buzzer settings one after the other. -/
def enableAll (b : Buzzer) : List Setting → Traced Buzzer
  | [] => pure b
  | setting :: rest => b.enable setting >>= fun b => b.enableAll rest

/-- The call for a setting that counts as on or off, if it did not do so before. -/
def turn (before after : Bool) : List DeviceCall :=
  if after = before then [] else [if after then .playSound (-1) else .stopSound]

variable {b : Buzzer} {settings : List Setting} {on : Bool} {t : Traced Buzzer}

/-- An audible buzzer keeps whether a setting counts as on, and calls for the tone when that is news. -/
theorem enable_of_audible (h : b.audible = true) (setting : Setting) :
    b.enable setting = ⟨⟨true, .flag setting.isOn⟩, turn b.isOn setting.isOn⟩ := by
  rw [enable, if_pos h, h]
  cases b.isOn <;> cases setting.isOn <;> rfl

theorem enable_of_silent (h : b.audible = false) (setting : Setting) :
    b.enable setting = ⟨⟨false, setting⟩, []⟩ := by
  rw [enable, h]
  rfl

/-- The last setting is given after all the others. -/
theorem enableAll_concat (b : Buzzer) (settings : List Setting) (setting : Setting) :
    b.enableAll (settings ++ [setting]) =
      b.enableAll settings >>= fun b => b.enable setting := by
  induction settings generalizing b with
  | nil => exact bind_pure (b.enable setting)
  | cons first rest ih =>
    calc b.enableAll (first :: (rest ++ [setting]))
        = b.enable first >>= fun b => b.enableAll (rest ++ [setting]) := rfl
      _ = b.enable first >>= fun b => b.enableAll rest >>= fun b => b.enable setting :=
          congrArg _ (funext ih)
      _ = b.enableAll (first :: rest) >>= fun b => b.enable setting :=
          (bind_assoc (b.enable first) _ _).symm

/-- A silent buzzer keeps the last setting, and makes no call. -/
theorem enableAll_of_silent (settings : List Setting) :
    silent.enableAll settings = ⟨⟨false, settings.getLast?.getD (.flag false)⟩, []⟩ := by
  induction settings using List.reverseRecOn with
  | nil => rfl
  | append_singleton settings setting ih =>
    rw [enableAll_concat, ih, List.getLast?_concat]
    exact enable_of_silent (b := ⟨false, _⟩) rfl setting

/-- An audible buzzer in step with its calls: they take turns from the first one on, which plays the
tone, and the last one has left the tone as the buzzer is. -/
structure InStep (on : Bool) (t : Traced Buzzer) : Prop where
  value : t.value = ⟨true, .flag on⟩
  turns : ∀ i call, t.calls[i]? = some call →
    call = if i % 2 = 0 then .playSound (-1) else .stopSound
  parity : t.calls.length % 2 = on.toNat
  sounds : t.calls.foldl DeviceCall.sounds false = on

/-- One more setting keeps an audible buzzer in step. -/
theorem InStep.enable (h : InStep on t) (setting : Setting) :
    InStep setting.isOn (t >>= fun b => b.enable setting) := by
  have hvalue : (t.value.enable setting) =
      ⟨⟨true, .flag setting.isOn⟩, turn on setting.isOn⟩ := by
    rw [h.value]
    exact enable_of_audible rfl setting
  have hcalls : (t >>= fun b => b.enable setting).calls = t.calls ++ turn on setting.isOn := by
    rw [Traced.calls_bind, hvalue]
  by_cases hsame : setting.isOn = on
  · -- There is no call, and all is as before.
    rw [turn, if_pos hsame, List.append_nil] at hcalls
    refine ⟨by rw [Traced.value_bind, hvalue], ?_, ?_, ?_⟩ <;> rw [hcalls]
    · exact h.turns
    · rw [h.parity, hsame]
    · rw [h.sounds, hsame]
  · -- The number of calls before tells whose turn it is.
    have hflip : setting.isOn = !on := Bool.eq_not_of_ne hsame
    have hparity := h.parity
    rw [turn, if_neg hsame] at hcalls
    refine ⟨by rw [Traced.value_bind, hvalue], fun i call hcall => ?_, ?_, ?_⟩
    · rw [hcalls, List.getElem?_append] at hcall
      split at hcall
      · exact h.turns i call hcall
      · obtain ⟨hlast, rfl⟩ := List.getElem?_eq_some_iff.mp hcall
        obtain rfl : i = t.calls.length := by
          rw [List.length_singleton] at hlast
          omega
        rw [List.getElem_singleton, hflip, hparity]
        cases on <;> rfl
    · rw [hcalls, List.length_append, List.length_singleton, Nat.add_mod, hparity, hflip]
      cases on <;> rfl
    · rw [hcalls, List.foldl_append]
      cases setting.isOn <;> rfl

/-- After any row of settings an audible buzzer is in step with all the calls since it was made. -/
theorem InStep.enableAll (settings : List Setting) :
    InStep ((settings.getLast?.map Setting.isOn).getD false) (openMixer.value.enableAll settings) := by
  induction settings using List.reverseRecOn with
  | nil => exact ⟨rfl, fun _ _ h => (nomatch h), rfl, rfl⟩
  | append_singleton settings setting ih =>
    rw [enableAll_concat, List.getLast?_concat]
    exact ih.enable setting

/-- **The tone follows the settings.** Give an audible and a silent buzzer, both newly made, the same row of
settings of any kinds. The audible one then has a setting of true or false as the last setting counts as on
or off, and off if there was none; and the silent one, which has the last setting as it was given, is on or
off just so. What the audible one has called for since it was made is in turns to play the tone and to stop
it, beginning with playing. One more setting makes exactly one of these calls if it counts as on and the one
before did not, or the other way round, and none otherwise, so that the tone plays exactly while the buzzer
is on. Shutting down stops the tone and then closes the mixer, whether or not the tone plays, and leaves
either buzzer off. -/
theorem tone_follows_settings (settings : List Setting) :
    let on := (settings.getLast?.map Setting.isOn).getD false
    let audible := openMixer.value.enableAll settings
    let quiet := silent.enableAll settings
    (audible.value.setting = .flag on ∧ audible.value.isOn = on) ∧
      (quiet.value.setting = settings.getLast?.getD (.flag false) ∧ quiet.value.isOn = on ∧
        quiet.calls = []) ∧
      (∀ i call, audible.calls[i]? = some call →
        call = if i % 2 = 0 then .playSound (-1) else .stopSound) ∧
      (∀ setting, (openMixer.value.enableAll (settings ++ [setting])).calls =
        audible.calls ++
          if setting.isOn = on then [] else [if setting.isOn then .playSound (-1) else .stopSound]) ∧
      (openMixer.calls ++ audible.calls).foldl DeviceCall.sounds false = on ∧
      audible.value.shutdown = ⟨⟨true, .flag false⟩, [.stopSound, .closeMixer]⟩ ∧
      quiet.value.shutdown = ⟨⟨false, .flag false⟩, []⟩ := by
  intro on audible quiet
  have hstep : InStep on audible := .enableAll settings
  have hquiet : quiet = ⟨⟨false, settings.getLast?.getD (.flag false)⟩, []⟩ :=
    enableAll_of_silent settings
  refine ⟨⟨by rw [hstep.value], by rw [hstep.value]; rfl⟩, ⟨by rw [hquiet], ?_, by rw [hquiet]⟩,
    hstep.turns, fun setting => ?_, ?_, by rw [hstep.value]; rfl, by rw [hquiet]; rfl⟩
  · -- Without any setting the silent buzzer is off as well.
    rw [hquiet]
    change (settings.getLast?.getD (.flag false)).isOn = (settings.getLast?.map Setting.isOn).getD false
    cases settings.getLast? <;> rfl
  · rw [enableAll_concat, Traced.calls_bind]
    change audible.calls ++ (audible.value.enable setting).calls = _
    rw [hstep.value, enable_of_audible rfl]
    rfl
  · rw [List.foldl_append]
    exact hstep.sounds

/-- Of five settings of four kinds, the second and the fourth change nothing. -/
example : (openMixer.value.enableAll [.whole 3, .flag true, .absent, .real 0.0, .real 0.5]).calls =
    [.playSound (-1), .stopSound, .playSound (-1)] := by
  rfl

end Buzzer

end Chip8
