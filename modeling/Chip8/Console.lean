import Chip8.Clock
import Chip8.Device.Buzzer
import Chip8.Device.Deed
import Chip8.Device.Panel
import Chip8.Double
import Chip8.Input.Keyboard
import Chip8.Machine.Event
import Chip8.Speed

/-!
# Consoles

A console is a machine wired to the host: a panel that shows its screen, a buzzer, and a keyboard that
works its pad. A machine has no sense of time, and this is where it gets one. Three clocks run off the
time of the host, each by itself:

* cycles, at the speed that the user chose, or as fast as the host can;
* counts of the timers, sixty times a second;
* refreshes of the display, which also look at the keyboard and set the buzzer, sixty times a second.

Once a second the title shows how many refreshes and cycles there were.

A console keeps what it printed and which calls of the host's devices it made, in order, so that a run
can be looked at afterwards.

* `Console.beat` — all that is done at one moment of time, which ends with one cycle;
* `Console.refresh` — brings panel and buzzer up to date; the picture only if it may have changed;
* `Console.letGo`, `Console.letAllGo` — lets one plugin go, and all of them;
* `Console.dueTicks` — how many counts of the timers a moment asks for. They are made up for at once,
  but never more than `maxCatchUp`, since both timers are empty after that many.
-/

namespace Chip8

/-- A machine wired to the host. -/
structure Console where
  machine : Machine
  panel : Panel
  buzzer : Buzzer
  keymap : Keymap
  /-- What the keyboard asks for each time it is looked at from now on; nothing after these. -/
  polls : List (List KeyCommand) := []
  /-- The time between two cycles, unless they follow each other as fast as they can. -/
  interval : Option Float
  /-- When the timers are to be counted down next. -/
  nextTick : Float := 0.0
  /-- When the display is to be refreshed next. -/
  nextRefresh : Float := 0.0
  /-- When the title is to be renewed next. -/
  nextReport : Float := 0.0
  /-- The refreshes since the title was renewed. -/
  frames : Nat := 0
  /-- The cycles since the title was renewed. -/
  cycles : Nat := 0
  /-- The lines that were printed. -/
  printed : Array String := #[]
  /-- The calls that were made. -/
  calls : Array DeviceCall := #[]

/-- Why a console cannot go on. -/
inductive Halt
  | fault (cause : Fault)
  /-- A time is not within the range of numbers. -/
  | noTime (cause : Double.NotFinite)
  | clockSpent
  deriving DecidableEq

/-- What comes of one moment of time. -/
structure Beat where
  console : Console
  /-- Whether to go on, or why the console cannot. -/
  goOn : Except Halt Bool

namespace Console

/-- The time between two counts of the timers. -/
def tickInterval : Float := 1.0 / Layout.timerRate

/-- The time between two refreshes of the display. -/
def refreshInterval : Float := 1.0 / Layout.displayRate

/-- The most counts of the timers that are made up for at once. -/
def maxCatchUp : Int := 0x100

/-- A machine wired to the given devices, before it is started. -/
def assemble (machine : Machine) (panel : Panel) (buzzer : Buzzer) (keymap : Keymap)
    (speed : Option Speed) : Except Double.NotFinite Console := do
  let interval ← (speed.getD Speed.standard).interval
  return { machine, panel, buzzer, keymap, interval }

/-- Gives the panel a title with the rates of refreshes and cycles. -/
def report (c : Console) (frames cycles : Int) : Console :=
  let title := About.name ++ " - " ++ toString frames ++ " FPS, " ++ toString cycles ++ " OPS"
  let titled := c.panel.setTitle title
  { c with panel := titled.value, calls := c.calls ++ titled.calls }

/-- Sets the three clocks going. -/
def start (c : Console) (now : Float) : Console :=
  { c with nextTick := now + tickInterval, nextRefresh := now, nextReport := now }.report 0 0

/-- Shows the picture on the panel if it may have changed. -/
def showPicture (c : Console) : Console :=
  let (changed, machine) := c.machine.consumeChanged
  if changed then
    let shown := c.panel.display machine.screen.picture
    { c with machine, panel := shown.value, calls := c.calls ++ shown.calls }
  else { c with machine }

/-- Switches the buzzer as the sound timer asks. -/
def setBuzzer (c : Console) : Console :=
  let set := c.buzzer.enable (.flag c.machine.timers.soundOn)
  { c with buzzer := set.value, calls := c.calls ++ set.calls }

/-- Brings panel and buzzer up to date. -/
def refresh (c : Console) : Console :=
  c.showPicture.setBuzzer

/-- Looks at the keyboard and works the pad, and says whether to quit. -/
def pollKeys (c : Console) : Bool × Console :=
  match c.polls with
  | [] => (false, c)
  | commands :: polls =>
    let (keypad, quit) := c.keymap.play c.machine.keypad commands
    (quit, { c with machine := { c.machine with keypad }, polls })

/-- Renews the title once a second, at the first moment of a second. The start of a second is a
double as its moment is. -/
def reportWhenDue (c : Console) (now : Float) : Except Double.NotFinite Console := do
  if c.nextReport ≤ now then
    let second ← Double.wholePart now
    return { { c with nextReport := Double.nearest second + 1.0 }.report c.frames c.cycles with
      frames := 0, cycles := 0 }
  else return c

/-- Looks at the keyboard and refreshes the display when that is due, and says whether to quit. -/
def refreshWhenDue (c : Console) (now : Float) : Bool × Console :=
  if c.nextRefresh ≤ now then
    let (quit, c) := c.pollKeys
    if quit then (true, c)
    else
      let c := { c with nextRefresh := now + refreshInterval }.refresh
      (false, { c with frames := c.frames + 1 })
  else (false, c)

/-- How many counts of the timers are due at a moment. -/
def dueTicks (c : Console) (now : Float) : Except Double.NotFinite Int := do
  if c.nextTick ≤ now then
    return (← Double.wholePart ((now - c.nextTick) * Layout.timerRate)) + 1
  else return 0

/-- Counts the timers down as often as is due. The number of counts was read off a double and is one
larger, so it is not beyond the largest double either. -/
def tickWhenDue (c : Console) (now : Float) : Except Double.NotFinite Console := do
  if c.nextTick ≤ now then
    let due ← c.dueTicks now
    let timers := c.machine.timers.ticks (min due maxCatchUp).toNat
    return { c with
      machine := { c.machine with timers }
      nextTick := c.nextTick + Double.nearest due * tickInterval }
  else return c

def runCycle (c : Console) : Beat :=
  let outcome := c.machine.cycle
  let c := { c with machine := outcome.machine, printed := c.printed ++ outcome.printed }
  match outcome.fault with
  | none => ⟨{ c with cycles := c.cycles + 1 }, .ok true⟩
  | some cause => ⟨c, .error (.fault cause)⟩

/-- All that is done at one moment of time: the title, keyboard and display, the timers, and then one
cycle. A request to quit ends it before the timers. -/
def beat (c : Console) (now : Float) : Beat :=
  match c.reportWhenDue now with
  | .error cause => ⟨c, .error (.noTime cause)⟩
  | .ok c =>
    match c.refreshWhenDue now with
    | (true, c) => ⟨c, .ok false⟩
    | (false, c) =>
      -- The timers come first, so that a value stored by the cycle is not counted down at once.
      match c.tickWhenDue now with
      | .error cause => ⟨c, .error (.noTime cause)⟩
      | .ok c => c.runCycle

/-- Lets a plugin go: the buzzer falls silent and gives the mixer back, the keyboard releases all keys of
the pad, and the panel gives the display back. -/
def letGo (c : Console) (plugin : Plugin) : Done Console := do
  Done.deed (.stage (.letGo plugin))
  match plugin with
  | .buzzer => return { c with buzzer := ← Done.ofTraced c.buzzer.shutdown }
  | .keyboard => return { c with machine := c.machine.releaseAll }
  | .panel => return { c with panel := ← Done.ofTraced c.panel.shutdown }

/-- Lets all plugins go, in the order opposite to that in which a session makes them. -/
def letAllGo (c : Console) : Done Console := do
  let c ← c.letGo .buzzer
  let c ← c.letGo .keyboard
  c.letGo .panel

end Console

end Chip8
