import Chip8.Input.Keymap

/-!
# Keyboards

How what happens on the host's keyboard reaches the pad. A window hands over events, each of a kind
and some with the code of a key. A key that goes down presses the key of the pad that it stands for,
and one that comes up releases it. Closing the window, and coming up of the escape key, ask to quit;
the events that come after such a request still count.

* `HostEvent.command?` — what an event asks for, if anything;
* `Keymap.obey`, `Keymap.play` — the pad after commands, and whether one of them was to quit;
* `Keyboard.poll` — a keyboard that is attached to a window plays its events, and any other ignores
  them;
* `Keymap.play_append` — a sequence of commands may be cut anywhere.
-/

namespace Chip8

/-- What the host's keyboard asks for. -/
inductive KeyCommand
  | press (code : Int)
  | release (code : Int)
  | quit
  deriving DecidableEq

/-- Something that happened to a window: a kind, and the code of the key if it has to do with one. -/
structure HostEvent where
  kind : Int
  code : Int := 0
  deriving DecidableEq

namespace HostEvent

/-! The numbers are those of PyGame 2, which takes them from SDL 2. Nothing depends on them but that the
three kinds are different. -/

/-- The kind of an event that tells that the window was closed: `QUIT` of PyGame 2. -/
def closed : Int := 256

/-- The kind of an event that tells that a key went down: `KEYDOWN` of PyGame 2. -/
def keyDown : Int := 768

/-- The kind of an event that tells that a key came up: `KEYUP` of PyGame 2. -/
def keyUp : Int := 769

/-- The code of the escape key: `K_ESCAPE` of PyGame 2. -/
def escape : Int := 27

def command? (e : HostEvent) : Option KeyCommand :=
  if e.kind = closed then some .quit
  else if e.kind = keyDown then some (.press e.code)
  else if e.kind = keyUp then some (if e.code = escape then .quit else .release e.code)
  else none

end HostEvent

namespace Keymap

/-- The pad after a command. Codes that stand for no key do nothing. -/
def obey (m : Keymap) (pad : Keypad) : KeyCommand → Keypad
  | .press code =>
    match m.key? code with
    | some key => pad.press key
    | none => pad
  | .release code =>
    match m.key? code with
    | some key => pad.release key
    | none => pad
  | .quit => pad

/-- The pad after commands in turn, and whether one of them was to quit. -/
def play (m : Keymap) (pad : Keypad) (commands : List KeyCommand) : Keypad × Bool :=
  (commands.foldl m.obey pad, commands.any (· == .quit))

@[simp] theorem play_nil (m : Keymap) (pad : Keypad) : m.play pad [] = (pad, false) := rfl

theorem play_append (m : Keymap) (pad : Keypad) (first second : List KeyCommand) :
    m.play pad (first ++ second) =
      ((m.play (m.play pad first).1 second).1,
        (m.play pad first).2 || (m.play (m.play pad first).1 second).2) := by
  simp [play]

end Keymap

/-- The host's keyboard. -/
structure Keyboard where
  keymap : Keymap
  /-- Whether a window hands over its events. -/
  attached : Bool

namespace Keyboard

/-- What the pending events ask for. -/
def commands (k : Keyboard) (events : List HostEvent) : List KeyCommand :=
  if k.attached then events.filterMap HostEvent.command? else []

/-- The pad after the pending events, and whether to quit. -/
def poll (k : Keyboard) (pad : Keypad) (events : List HostEvent) : Keypad × Bool :=
  k.keymap.play pad (k.commands events)

end Keyboard

end Chip8
