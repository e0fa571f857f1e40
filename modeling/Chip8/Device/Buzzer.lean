import Chip8.Device.Call

/-!
# Buzzers

A buzzer is switched on and off. A silent one only keeps the setting that it was given last, whatever
kind of value that is; an audible one plays a tone for as long as the setting counts as on, and makes
a call only when that changes, so that a tone that is playing is never started again.

The tone is a square wave: one period is made as a sound of eight-bit samples, the first half high
and the second half low, and repeated without end.

* `Setting.isOn` — whether a setting counts as on;
* `Buzzer.enable`, `Buzzer.shutdown` — what a buzzer is used for;
* `Buzzer.isOn_enable` — after a setting is given, a buzzer is on exactly if the setting is.
-/

namespace Chip8

/-- A setting of a buzzer. -/
inductive Setting
  | flag (on : Bool)
  | whole (n : Int)
  | real (x : Float)
  | absent

/-- A setting counts as off if it is absent, false or zero. -/
def Setting.isOn : Setting → Bool
  | .flag on => on
  | .whole n => n != 0
  | .real x => x != 0.0
  | .absent => false

/-- Something that sounds, or would. -/
structure Buzzer where
  /-- Whether there is a mixer to play with. -/
  audible : Bool
  setting : Setting := .flag false

namespace Buzzer

/-- The samples a second. -/
def playbackRate : Nat := 44100

/-- The periods of the tone a second. -/
def toneRate : Nat := 440

def period : Nat := playbackRate / toneRate

def wave : List UInt8 :=
  List.replicate (period / 2) 0xFF ++ List.replicate (period - period / 2) 0x00

/-- How loud the tone is. -/
def volume : Float := 0.25

def silent : Buzzer where
  audible := false

/-- Takes the mixer into use and makes the tone. These are the calls that are made if the host carries them
out; there may be no mixer, for example, and then `Session.conduct` tells where it ends. -/
def openMixer : Traced Buzzer where
  value := { audible := true }
  calls := [.configureMixer playbackRate 8 1 0, .openMixer, .makeSound wave, .setVolume volume]

def isOn (b : Buzzer) : Bool :=
  b.setting.isOn

/-- Gives the buzzer a setting. -/
def enable (b : Buzzer) (setting : Setting) : Traced Buzzer :=
  if b.audible then
    { value := { b with setting := .flag setting.isOn }
      calls :=
        match b.isOn, setting.isOn with
        | false, true => [.playSound (-1)]
        | true, false => [.stopSound]
        | _, _ => [] }
  else { value := { b with setting } }

/-- Falls silent and gives the mixer back. -/
def shutdown (b : Buzzer) : Traced Buzzer where
  value := { b with setting := .flag false }
  calls := if b.audible then [.stopSound, .closeMixer] else []

@[simp] theorem isOn_enable (b : Buzzer) (setting : Setting) :
    (b.enable setting).value.isOn = setting.isOn := by
  unfold enable
  split <;> rfl

@[simp] theorem isOn_shutdown (b : Buzzer) : b.shutdown.value.isOn = false := rfl

end Buzzer

end Chip8
