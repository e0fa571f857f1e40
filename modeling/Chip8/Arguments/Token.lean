import Chip8.Arguments.Switch
import Chip8.Text.DecimalDigit

/-!
# Tokens of the command line

What each argument of the command line is by itself, before it is known what comes of it.

* `--` ends the switches: everything after it is plain;
* a spelling of a switch is that switch, also with `=` and a text behind it;
* a long spelling may be cut short as long as only one switch begins that way;
* a short spelling may have a text joined to it, which is the same as with `=` between them;
* other arguments that start with a dash are plain if they are a dash alone, look like a negative
  number or hold a blank, and otherwise unknown.

* `Token.classify` — what one argument is;
* `Token.ofArguments` — what all arguments are, or a spelling that was cut too short;
* `Token.ofArguments_separator` — after the separator all is plain.
-/

namespace Chip8

/-- What an argument is by itself. -/
inductive Token
  /-- Something that is no switch. -/
  | plain (text : String)
  /-- The mark that ends the switches. -/
  | separator
  /-- A switch, whether it is spelt the long way, and what the same argument attaches to it. -/
  | switch (switch : Switch) (long : Bool) (attached : Option (List Char))
  | unknown (text : String)
  deriving DecidableEq

/-- A spelling that was cut too short to tell which switch is meant. -/
structure Ambiguity where
  given : String
  candidates : List String
  deriving DecidableEq

namespace Token

/-- A text parted at its first equals sign, if it has one. -/
def splitAssignment (text : List Char) : List Char × Option (List Char) :=
  match text.dropWhile (· != '=') with
  | [] => (text, none)
  | _ :: value => (text.takeWhile (· != '='), some value)

/-- Whether all characters are decimal digits. -/
def allDigits (text : List Char) : Bool :=
  text.all fun c => (Text.DecimalDigit.value? c).isSome

/-- Whether the text is a dash followed by a decimal number: digits, or any number of digits, a point
and further digits. One line break may follow. -/
def looksNegative (text : List Char) : Bool :=
  match text with
  | '-' :: number =>
    let number := if number.getLast? = some '\n' then number.dropLast else number
    match number.dropWhile (· != '.') with
    | [] => !number.isEmpty && allDigits number
    | _ :: fraction =>
      allDigits (number.takeWhile (· != '.')) && !fraction.isEmpty && allDigits fraction
  | _ => false

/-- What an argument is that starts with a dash and is no spelling of a switch, not even with a value
assigned to it. -/
def classifyOther (text : String) : Except Ambiguity Token :=
  let rest : Token :=
    if looksNegative text.toList ∨ ' ' ∈ text.toList then .plain text else .unknown text
  match text.toList with
  -- A long spelling may be cut short, with or without a value assigned to it.
  | '-' :: '-' :: _ =>
    let (start, value) := splitAssignment text.toList
    match Switch.spelled.filter fun entry => start.isPrefixOf entry.1.toList with
    | [] => .ok rest
    | [entry] => .ok (.switch entry.2 true value)
    | entries => .error ⟨text, entries.map Prod.fst⟩
  -- A short spelling may have a text joined to it.
  | '-' :: letter :: joined =>
    match Switch.ofSpelling? (String.ofList ['-', letter]) with
    | some s => .ok (.switch s false (some joined))
    | none => .ok rest
  | _ => .ok rest

/-- What one argument is, if the switches have not ended. -/
def classify (text : String) : Except Ambiguity Token :=
  match text.toList with
  | ['-'] => .ok (.plain text)
  | '-' :: second :: _ =>
    let long := second == '-'
    match Switch.ofSpelling? text with
    | some s => .ok (.switch s long none)
    | none =>
      match splitAssignment text.toList with
      | (spelling, some value) =>
        match Switch.ofSpelling? (String.ofList spelling) with
        | some s => .ok (.switch s long (some value))
        | none => classifyOther text
      | (_, none) => classifyOther text
  | _ => .ok (.plain text)

/-- What all arguments are. -/
def ofArguments : List String → Except Ambiguity (List Token)
  | [] => .ok []
  | text :: rest =>
    if text = "--" then .ok (.separator :: rest.map .plain)
    else do
      let token ← classify text
      let tokens ← ofArguments rest
      return token :: tokens

theorem ofArguments_separator (rest : List String) :
    ofArguments ("--" :: rest) = .ok (.separator :: rest.map .plain) := rfl

end Token

end Chip8
