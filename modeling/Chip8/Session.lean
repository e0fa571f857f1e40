import Chip8.Arguments
import Chip8.Console.Run
import Chip8.FileTree

/-!
# Sessions

From the wishes of the user to the end of a run. A session greets the user, chooses panel, keyboard
and buzzer by the renderer that is asked for, builds a machine with the program, makes the plugins one
after another, runs the console that they make up, and lets the plugins go.

Whatever stops a session before the console runs leaves the plugins as they are at that moment. Once
the console runs, the plugins are let go however the run ends.

* `Session.plan` — all that comes before the first plugin is made;
* `Session.openDevices` — panel, keyboard and buzzer, and the console that they make up;
* `Session.prepare` — both of these;
* `Session.run` — a whole session, with a host that does what it is asked to;
* `Settings.ofOptions` — what the options of a command line wish.

The wishes of the user come as a table of settings. An entry of the table may be missing, which stops
the session when it is asked for, or it may leave the choice to the program.
-/

namespace Chip8

/-- An entry of a table of settings. -/
inductive Entry (α : Type)
  | missing
  /-- The choice is left to the program. -/
  | unset
  | given (value : α)
  deriving DecidableEq

/-- The wishes of the user. -/
structure Settings where
  file : Entry String
  speed : Entry (Answer Speed)
  renderer : Entry (Answer String)
  scale : Entry (Answer Int)
  mute : Entry Bool
  keymap : Entry (Answer String)
  palette : Entry (Answer String)
  debug : Entry Bool

/-- Why a session comes to an end before the user quits it. -/
inductive SessionError
  | missing (setting : Switch)
  | missingFile
  /-- A window is asked for, but there are none. -/
  | noWindows
  | unknownRenderer (name : String)
  | file (cause : FileError)
  | fault (cause : Fault)
  | window (cause : WindowError)
  | keymap (cause : KeymapError)
  | noSpeed
  | speed (cause : Double.NotFinite)
  | halt (cause : Halt)
  deriving DecidableEq

/-- The text for the user, if there is one. -/
def SessionError.message? : SessionError → Option String
  | .noWindows =>
    some "PyGame does not appear to be installed.  Use the null renderer to run without a display."
  | .unknownRenderer name => some ("Unknown renderer '" ++ name ++ "'")
  | .fault cause | .halt (.fault cause) => some cause.message
  | .window cause => cause.message?
  | .keymap cause => some cause.message
  | .missing _ | .missingFile | .file _ | .noSpeed | .speed _ | .halt _ => none

namespace Entry

variable {α : Type}

/-- The user's choice, if there is one. -/
def choice? : Entry α → Option α
  | .missing | .unset => none
  | .given value => some value

/-- The user's choice, if there is one, of an entry that must be there. -/
def require (e : Entry α) (setting : Switch) : Except SessionError (Option α) :=
  match e with
  | .missing => .error (.missing setting)
  | .unset => .ok none
  | .given value => .ok (some value)

/-- An entry with the user's choice, or one that leaves it to the program. -/
def ofOption : Option α → Entry α
  | none => .unset
  | some value => .given value

end Entry

/-- The settings that the options of a command line wish. -/
def Settings.ofOptions (file : String) (o : Options) : Settings where
  file := .given file
  speed := .given (o.speed.map Speed.whole)
  renderer := .ofOption o.renderer
  scale := .ofOption o.scale
  mute := .given o.mute
  keymap := .given o.keymap
  palette := .ofOption o.palette
  debug := .given o.debug

/-- What a session needs of the host. -/
structure Host where
  /-- The content of the file at a path. -/
  fileContent : String → Except FileError (List UInt8)
  hasWindows : Bool
  /-- The events that the windows hand over each time they are asked; none after these. A window that is
  open never fails to answer. -/
  polls : List (List HostEvent) := []
  noise : Noise

/-- What a session decides on before it makes a plugin of the console. -/
structure Plan where
  windowed : Bool
  /-- Whether the buzzer is to be heard. -/
  audible : Bool
  machine : Machine

/-- What is left of a session when it has ended. -/
structure Report where
  /-- Why it ended, unless the user quit. -/
  outcome : Except SessionError Unit
  printed : List String
  /-- The calls of the host's devices, and what became of the plugins of the console. -/
  deeds : List Deed
  /-- The console when all of its plugins had been let go, if there was one. -/
  console : Option Console := none
  /-- The clock as the session left it. -/
  clock : Clock

/-- The calls of the host's devices. -/
def Report.calls (r : Report) : List DeviceCall :=
  Deed.calls r.deeds

/-- The start of a session: deeds are done on the way to a value, or to whatever stops the start. -/
abbrev Start := ExceptT SessionError Done

namespace Start

variable {α : Type}

/-- Goes on unless something is wrong. -/
def check (r : Except SessionError α) : Start α :=
  ExceptT.mk (pure r)

/-- Goes on when the calls have been made. -/
def use (t : Traced α) : Start α :=
  ExceptT.lift (Done.ofTraced t)

/-- Notes that a plugin is ready for use. -/
def made (plugin : Plugin) : Start Unit :=
  ExceptT.lift (Done.deed (.stage (.made plugin)))

end Start

namespace Session

/-- Whether a renderer brings a window; without a choice there is one. A blank is no renderer, and is
shown as a pair of brackets. -/
def windowed (renderer : Option (Answer String)) (host : Host) : Except SessionError Bool :=
  match renderer with
  | none | some (.given "pygame") => if host.hasWindows then .ok true else .error .noWindows
  | some (.given "null") => .ok false
  | some (.given name) => .error (.unknownRenderer name)
  | some .blank => .error (.unknownRenderer "[]")

/-- Decides on the devices and builds the machine with the program. -/
def plan (s : Settings) (host : Host) : Except SessionError Plan := do
  let renderer ← s.renderer.require .renderer
  let mute ← s.mute.require .mute
  let windowed ← windowed renderer host
  let debug ← s.debug.require .debug
  let path ← match s.file with
    | .missing => throw .missingFile
    | .unset => throw (.file .noPath)
    | .given path => pure path
  let rom ← (host.fileContent path).mapError .file
  let blank := Machine.boot ⟨debug.getD false⟩ host.noise
  let machine ← (blank.loadRom rom).mapError .fault
  return { windowed, audible := windowed && !mute.getD false, machine }

/-- The keymap that is asked for. One that is empty or blank leaves the choice to the program. -/
def keymapText (choice : Option (Answer String)) : String :=
  match choice with
  | none | some .blank | some (.given "") => Keymap.standardText
  | some (.given text) => text

def speed (choice : Option (Answer Speed)) : Except SessionError (Option Speed) :=
  match choice with
  | none => .ok none
  | some .blank => .error .noSpeed
  | some (.given speed) => .ok (some speed)

/-- The panel of a plan. -/
def openPanel (p : Plan) (s : Settings) (scale : Option (Answer Int)) :
    Traced (Except SessionError Panel) :=
  if p.windowed then do
    return (← Panel.openWindow scale s.palette.choice?).mapError .window
  else return .ok (Panel.headless (scale.bind Answer.value?))

/-- The buzzer of a plan. -/
def openBuzzer (p : Plan) : Traced Buzzer :=
  if p.audible then Buzzer.openMixer else return Buzzer.silent

/-- Makes panel, keyboard and buzzer, and wires the machine to them. -/
def openDevices (p : Plan) (s : Settings) (host : Host) : Start Console := do
  let scale ← Start.check (s.scale.require .scale)
  let opened ← Start.use (openPanel p s scale)
  let panel ← Start.check opened
  Start.made .panel
  let choice ← Start.check (s.keymap.require .keymap)
  let keymap ← Start.check ((Keymap.parse (keymapText choice)).mapError .keymap)
  Start.made .keyboard
  let buzzer ← Start.use (openBuzzer p)
  Start.made .buzzer
  let speed ← Start.check (s.speed.require .speed >>= speed)
  let console ← Start.check
    ((Console.assemble p.machine panel buzzer keymap speed).mapError .speed)
  let keyboard : Keyboard := ⟨keymap, p.windowed⟩
  return { console with polls := host.polls.map keyboard.commands }

/-- The console that the user wishes, and the deeds on the way to it. -/
def prepare (s : Settings) (host : Host) : Done (Except SessionError Console) :=
  match plan s host with
  | .error cause => pure (.error cause)
  | .ok p => (openDevices p s host).run

def run (s : Settings) (host : Host) (clock : Clock) : Report :=
  let opened := prepare s host
  match opened.value with
  | .error cause =>
    { outcome := .error cause, printed := [About.greeting], deeds := opened.deeds, clock }
  | .ok console =>
    let ended := console.run clock
    -- However the run ended, the plugins are let go.
    let left := ended.console.letAllGo
    { outcome := (ended.goOn.map fun _ => ()).mapError .halt
      printed := About.greeting :: ended.console.printed.toList
      deeds := opened.deeds ++ ended.console.calls.toList.map .call ++ left.deeds
      console := some left.value
      clock := ended.clock }

end Session

end Chip8
