import Chip8.Session

/-!
# The program

The outer layer of the program: it reads the arguments and the file, takes its times from the host's
clock, prints, and leaves everything else to `Session` and `Console`. There are no windows here, so
only the renderer without one can be chosen.
-/

namespace Chip8

/-- The time of the host in seconds. -/
def hostTime : IO Float := do
  return Float.ofNat (← IO.monoNanosNow) / 1000000000.0

/-- Waits until the host's time is not before the deadline. -/
partial def waitFor (deadline : Float) : IO Unit := do
  if (← hostTime) < deadline then waitFor deadline

/-- The content of a file of the host. -/
def hostFile (path : String) : IO (Except FileError (List UInt8)) := do
  try
    return .ok (← IO.FS.readBinFile path).toList
  catch
    | .noFileOrDirectory .. => return .error .notFound
    | .inappropriateType .. => return .error .notADirectory
    | _ => return .error .isDirectory

/-- Runs a console by the host's clock, and prints each line as it comes. -/
partial def drive (c : Console) : IO (Except Halt Unit) := do
  let now ← hostTime
  let beat := c.beat now
  for line in beat.console.printed do
    IO.println line
  match beat.goOn with
  | .error cause => return .error cause
  | .ok false => return .ok ()
  | .ok true =>
    if let some interval := beat.console.interval then
      waitFor (now + interval)
    drive { beat.console with printed := #[], calls := #[] }

/-- Tells why a session came to an end. -/
def complain (cause : SessionError) : IO UInt32 := do
  IO.eprintln (cause.message?.getD "The program could not be run.")
  return 1

/-- Runs a file as the options ask for. -/
def runFile (file : String) (options : Options) : IO UInt32 := do
  IO.println About.greeting
  let content ← hostFile file
  let seed ← IO.rand 0 0xFFFFFFFF
  let host : Host :=
    { fileContent := fun _ => content, hasWindows := false, noise := Noise.ofSeed seed.toUInt64 }
  match (Session.prepare (Settings.ofOptions file options) host).value with
  | .error cause => complain cause
  | .ok console =>
    match ← drive (console.start (← hostTime)) with
    | .ok () => return 0
    | .error cause => complain (.halt cause)

end Chip8

def main (arguments : List String) : IO UInt32 := do
  match Chip8.Arguments.parse arguments with
  | .ok (file, options) => Chip8.runFile file options
  | .error .help =>
    IO.print Chip8.Arguments.help
    return 0
  | .error (.usage cause) =>
    for line in Chip8.Arguments.helpLines.takeWhile (· ≠ "") do
      IO.eprintln line
    IO.eprintln ("tinychip.py: error: " ++ cause.message)
    return 2
