import Chip8.Answer
import Chip8.Arguments.Help
import Chip8.Arguments.Token
import Chip8.Input.Keymap
import Chip8.Layout
import Chip8.Text.Integer
import Chip8.Text.Quoted

/-!
# The command line

How the arguments of the command line are read. There is one argument without a name, the file to be
run, and a number of switches. Arguments are read from left to right; the first plain one that no
switch takes as its value is the file. Switches without a value may be joined to one another behind a
single dash, the last of them with or without a value of its own. An equals sign between the first of
them and what follows counts for nothing; a later one is a character like any other.

* `Arguments.parse` — the options that the arguments ask for, or how they leave the program: with the
  help, or with a remark on what is wrong;
* `Arguments.Group.ofAttached` — the switches that one argument stands for;
* `UsageError.message` — the remark.

Whatever is wrong inside one argument is found before any of its switches takes effect, and arguments
take effect in turn. That the file is missing is only found at the end, and only if it is there, so is
what the program knows nothing of.
-/

namespace Chip8

/-- What the user asks for. -/
structure Options where
  speed : Answer Int := .given Layout.defaultSpeed
  renderer : Option (Answer String) := none
  scale : Option (Answer Int) := none
  mute : Bool := false
  keymap : Answer String := .given Keymap.standardText
  palette : Option (Answer String) := none
  debug : Bool := false
  deriving DecidableEq

/-- What can be wrong with the arguments. -/
inductive UsageError
  | ambiguous (cause : Ambiguity)
  | noValue (switch : Switch)
  | unwantedValue (switch : Switch) (value : String)
  | notAnInteger (switch : Switch) (value : String)
  | noSuchChoice (switch : Switch) (value : String) (choices : List String)
  | noFile
  /-- There are arguments that the program knows nothing of. -/
  | unrecognized (arguments : List String)
  deriving DecidableEq

/-- The remark for the user. -/
def UsageError.message : UsageError → String
  | .ambiguous cause =>
    "ambiguous option: " ++ cause.given ++ " could match " ++ ", ".intercalate cause.candidates
  | .noValue s => "argument " ++ s.title ++ ": expected one argument"
  | .unwantedValue s value =>
    "argument " ++ s.title ++ ": ignored explicit argument " ++ Text.Quoted.quote value
  | .notAnInteger s value =>
    "argument " ++ s.title ++ ": invalid int value: " ++ Text.Quoted.quote value
  | .noSuchChoice s value choices =>
    "argument " ++ s.title ++ ": invalid choice: " ++ Text.Quoted.quote value ++
      " (choose from " ++ ", ".intercalate (choices.map Text.Quoted.quote) ++ ")"
  | .noFile => "the following arguments are required: filename"
  | .unrecognized arguments => "unrecognized arguments: " ++ " ".intercalate arguments

namespace Arguments

/-- How the arguments can leave the program. -/
inductive Exit
  | help
  | usage (cause : UsageError)
  deriving DecidableEq

/-- The value that a switch is given. -/
inductive Operand
  | none
  /-- It stands in the same argument. -/
  | here (answer : Answer String)
  /-- It is the next argument. -/
  | next
  deriving DecidableEq

/-- The switches that one argument stands for, in turn, with their values. -/
abbrev Group := List (Switch × Operand)

namespace Group

/-- What a switch stands for to which nothing is attached. -/
def alone (s : Switch) : Group :=
  [(s, if s.takesValue then .next else .none)]

/-- A switch with the attached text as its value. -/
def valued (s : Switch) (text : List Char) : Group :=
  [(s, .here (Answer.ofText (String.ofList text)))]

/-- What a switch in its short spelling stands for: the attached text is its value, if it takes one,
and otherwise the letters of further switches. -/
def joined (s : Switch) : List Char → Except UsageError Group
  | [] => if s.takesValue then .ok (valued s []) else .error (.unwantedValue s "")
  | letter :: rest =>
    if s.takesValue then .ok (valued s (letter :: rest))
    else
      match Switch.ofSpelling? (String.ofList ['-', letter]) with
      | .none => .error (.unwantedValue s (String.ofList (letter :: rest)))
      | some other =>
        if rest = [] then .ok ((s, .none) :: alone other)
        else (joined other rest).map ((s, .none) :: ·)

/-- The switches that an argument stands for. No others follow a long spelling. -/
def ofAttached (s : Switch) (long : Bool) : Option (List Char) → Except UsageError Group
  | .none => .ok (alone s)
  | some text =>
    if !long then joined s text
    else if s.takesValue then .ok (valued s text)
    else .error (.unwantedValue s (String.ofList text))

/-- The switch of a group that takes the next argument as its value. -/
def wanting? (g : Group) : Option Switch :=
  (g.find? fun entry => entry.2 == .next).map Prod.fst

end Group

/-- What has been read so far: the options, the file, and what the program knows nothing of. -/
structure Progress where
  options : Options := {}
  file : Option String := .none
  extras : List String := []

/-- The renderers to choose from: the one with a window, and the one without. -/
def renderers : List String :=
  ["pygame", "null"]

/-- Reads the value of a switch as an integer. A blank stays blank. -/
def integer (s : Switch) : Answer String → Except Exit (Answer Int)
  | .blank => .ok .blank
  | .given value =>
    match Text.Integer.read? .decimal value.toList with
    | some n => .ok (.given n)
    | .none => .error (.usage (.notAnInteger s value))

/-- Checks that the value of a switch is among those to choose from. A blank passes. -/
def choice (s : Switch) (choices : List String) : Answer String → Except Exit (Answer String)
  | .blank => .ok .blank
  | .given value =>
    if choices.contains value then .ok (.given value)
    else .error (.usage (.noSuchChoice s value choices))

/-- The options after a switch takes effect. To a switch without a value the answer is blank. -/
def apply (o : Options) (s : Switch) (answer : Answer String) : Except Exit Options :=
  match s with
  | .help => .error .help
  | .speed => (integer s answer).map fun speed => { o with speed }
  | .renderer =>
    (choice s renderers answer).map fun renderer => { o with renderer := some renderer }
  | .scale => (integer s answer).map fun scale => { o with scale := some scale }
  | .mute => .ok { o with mute := true }
  | .keymap => .ok { o with keymap := answer }
  | .palette => .ok { o with palette := some answer }
  | .debug => .ok { o with debug := true }

/-- The options after the switches of one argument take effect in turn, where `following` is the
argument behind it. -/
def applyGroup (o : Options) (following : Answer String) : Group → Except Exit Options
  | [] => .ok o
  | (s, operand) :: rest => do
    let answer :=
      match operand with
      | .none => .blank
      | .here answer => answer
      | .next => following
    applyGroup (← apply o s answer) following rest

/-- Reads the arguments from left to right. A separator counts for nothing before the file and right
behind it; anywhere else it is an argument that the program knows nothing of. -/
def read (p : Progress) : List Token → Except Exit Progress
  | [] => .ok p
  -- The first plain argument is the file, and any further one is unknown.
  | .plain text :: rest =>
    match p.file, rest with
    | .none, .separator :: rest => read { p with file := some text } rest
    | .none, rest => read { p with file := some text } rest
    | some _, rest => read { p with extras := p.extras ++ [text] } rest
  | .separator :: rest =>
    match p.file with
    | .none => read p rest
    | some _ => read { p with extras := p.extras ++ ["--"] } rest
  | .unknown text :: rest => read { p with extras := p.extras ++ [text] } rest
  -- A switch may take the next argument as its value if that is plain.
  | .switch s long attached :: rest => do
    let group ← (Group.ofAttached s long attached).mapError .usage
    match group.wanting?, rest with
    | .none, rest =>
      let options ← applyGroup p.options .blank group
      read { p with options } rest
    | some _, .plain value :: rest =>
      let options ← applyGroup p.options (.given value) group
      read { p with options } rest
    | some wanting, _ => throw (.usage (.noValue wanting))

/-- The file to be run and the options that the arguments ask for. -/
def parse (arguments : List String) : Except Exit (String × Options) := do
  let tokens ← (Token.ofArguments arguments).mapError fun cause => .usage (.ambiguous cause)
  let p ← read {} tokens
  match p.file, p.extras with
  | .none, _ => throw (.usage .noFile)
  | some file, [] => return (file, p.options)
  | some _, extras => throw (.usage (.unrecognized extras))

end Arguments

end Chip8
