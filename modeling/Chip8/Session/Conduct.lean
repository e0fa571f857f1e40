import Chip8.Session

/-!
# Hosts that refuse

A host need not do what it is asked to. It may refuse any call of its devices: there may be no mixer, and
a window whose width is below zero cannot be had. Nobody in a session expects that, so that a call that is
refused ends what is being done, and its reason reaches whoever asked for the session.

* `carry` — how far deeds are carried out by a host that may refuse;
* `Session.conduct` — what becomes of a session with such a host. A refusal at the start ends the session
  there, one while the console runs is followed by letting the plugins go, and one while the plugins are let go
  leaves the rest of them.

`Session.run` is a session with a host that refuses nothing.
-/

namespace Chip8

/-- What a host says to the calls that it refuses. The calls of a session are numbered from zero, since
what has been done once may be refused the next time. -/
abbrev Refusals := Nat → DeviceCall → Option String

/-- What has been carried out of deeds. -/
structure Carried where
  deeds : List Deed
  /-- Why there is no more of them, if a call was refused; that call is the last deed. -/
  refusal : Option String

/-- Carries out deeds in turn, up to the first call that is refused. The calls are numbered from a number
on. -/
def carry (refuses : Refusals) (number : Nat) : List Deed → Carried
  | [] => ⟨[], none⟩
  | .stage stage :: rest =>
    let carried := carry refuses number rest
    { carried with deeds := .stage stage :: carried.deeds }
  | .call call :: rest =>
    match refuses number call with
    | some reason => ⟨[.call call], some reason⟩
    | none =>
      let carried := carry refuses (number + 1) rest
      { carried with deeds := .call call :: carried.deeds }

/-- Why a session with a host that may refuse comes to an end before the user quits it. -/
inductive Ending
  | failed (cause : SessionError)
  /-- A call was refused, for the reason that the host gives. -/
  | refused (reason : String)

/-- What becomes of a session with a host that may refuse. -/
structure Conduct where
  deeds : List Deed
  outcome : Except Ending Unit

namespace Session

section

variable (refuses : Refusals) (s : Settings) (host : Host)

/-- The start of a session. -/
def opening : Carried :=
  carry refuses 0 (prepare s host).deeds

variable (console : Console) (clock : Clock)

/-- The run of the console that the start has led to. -/
def course : Carried :=
  carry refuses (Deed.calls (opening refuses s host).deeds).length
    ((console.run clock).console.calls.toList.map .call)

/-- Letting go the plugins. A run that was broken off has left the console with the plugins that it had. -/
def closing : Carried :=
  carry refuses (Deed.calls ((opening refuses s host).deeds ++
    (course refuses s host console clock).deeds)).length console.letAllGo.deeds

end

/-- A session with a host that may refuse. The last refusal is the one that is heard of. -/
def conduct (refuses : Refusals) (s : Settings) (host : Host) (clock : Clock) : Conduct :=
  let opening := opening refuses s host
  match opening.refusal, (prepare s host).value with
  | some reason, _ => ⟨opening.deeds, .error (.refused reason)⟩
  | none, .error cause => ⟨opening.deeds, .error (.failed cause)⟩
  | none, .ok console =>
    let course := course refuses s host console clock
    let closing := closing refuses s host console clock
    { deeds := opening.deeds ++ course.deeds ++ closing.deeds
      outcome :=
        match closing.refusal.or course.refusal with
        | some reason => .error (.refused reason)
        | none => ((console.run clock).goOn.map fun _ => ()).mapError fun halt =>
          .failed (.halt halt) }

end Session

end Chip8
