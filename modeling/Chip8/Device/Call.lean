/-!
# Device calls

A window and a loudspeaker are used through calls that the host carries out. The library does not
carry them out: it says which calls are made, with which arguments and in which order, as long as none of
them is refused.

* `DeviceCall` — the calls;
* `Traced` — a value together with the calls that were made on the way to it.
-/

namespace Chip8

/-- A call of the host's display or mixer. -/
inductive DeviceCall
  | openDisplay
  | setMode (width height : Int)
  | setCaption (text : String)
  /-- Makes an image from three bytes a pixel, row by row. -/
  | makeImage (bytes : List UInt8) (width height : Nat)
  /-- Stretches the image to a size. -/
  | stretch (width height : Int)
  /-- Copies the stretched image to a position of the window. -/
  | blit (x y : Int)
  | present
  | closeDisplay
  /-- Chooses how the mixer plays: samples a second, bits a sample, channels, and which of these
  it may change by itself. -/
  | configureMixer (frequency size channels allowedChanges : Int)
  | openMixer
  | makeSound (samples : List UInt8)
  /-- Sets the volume of the sound, as a part of the full one. -/
  | setVolume (volume : Float)
  /-- Plays the sound and repeats it; minus one repeats it without end. -/
  | playSound (loops : Int)
  | stopSound
  | closeMixer

/-- A value, and the calls that were made on the way to it, in order. -/
structure Traced (α : Type) where
  value : α
  calls : List DeviceCall := []

namespace Traced

variable {α β : Type}

instance : Monad Traced where
  pure a := ⟨a, []⟩
  bind t f := ⟨(f t.value).value, t.calls ++ (f t.value).calls⟩

/-- Makes one call. -/
def call (c : DeviceCall) : Traced Unit :=
  ⟨(), [c]⟩

@[simp] theorem value_pure (a : α) : (pure a : Traced α).value = a := rfl

@[simp] theorem calls_pure (a : α) : (pure a : Traced α).calls = [] := rfl

@[simp] theorem value_bind (t : Traced α) (f : α → Traced β) :
    (t >>= f).value = (f t.value).value := rfl

@[simp] theorem calls_bind (t : Traced α) (f : α → Traced β) :
    (t >>= f).calls = t.calls ++ (f t.value).calls := rfl

@[simp] theorem calls_call (c : DeviceCall) : (call c).calls = [c] := rfl

end Traced

end Chip8
