import Chip8.About
import Chip8.Machine

/-!
# Reports

What the user is told about a machine. A line shows the registers from the last to the first, the
index, the timers, and the address, word and text of the instruction; a full report adds the call
stack and what the machine is doing. Numbers are hexadecimal in a least width that larger numbers
exceed.

* `Machine.line` — one line, written before an instruction is run;
* `Machine.fullReport` — the line with the stack and the phase;
* `Machine.haltMessage` — the message when a word stands for no instruction.
-/

namespace Chip8

namespace Machine

open Text.Hex (padded ofBytes)

/-- One line about the machine, with the text of an instruction at its end. -/
def line (m : Machine) (instruction : String) : String :=
  "V: 0x" ++ ofBytes m.registers.toList.reverse ++
  " I: 0x" ++ padded 4 m.index ++
  " DT: 0x" ++ padded 2 m.timers.delay.toNat ++
  " ST: 0x" ++ padded 2 m.timers.sound.toNat ++
  " PC: 0x" ++ padded 3 m.fetchedAt ++
  " OP: 0x" ++ padded 4 m.opcode ++
  " IN: " ++ instruction

/-- The items of the call stack, each after a blank, or a remark that there are none. -/
def stackText (s : CallStack) : String :=
  match s.oldestFirst with
  | [] => " (Empty)"
  | items => String.join (items.map fun item => " 0x" ++ padded 3 item)

/-- What the machine is doing, and which register a key is awaited for. -/
def phaseText : Phase → String
  | .running => "RUNNING"
  | .awaitingKey r => "AWAITING_KEY (V" ++ padded 1 r.val ++ ")"

/-- The line about the machine, followed by its call stack and its phase. -/
def fullReport (m : Machine) (instruction : String) : String :=
  m.line instruction ++ "\nStack:" ++ stackText m.stack ++ "\nState: " ++ phaseText m.phase

/-- A report on the machine, full or in one line. -/
def report (m : Machine) (instruction : String) (verbose : Bool) : String :=
  if verbose then m.fullReport instruction else m.line instruction

/-- The text that tells of a word at an address that stands for no instruction. In its middle there is
room for what else there is to say. -/
def haltText (details : String) (word address : Int) : String :=
  "Emulation halted.\n\n" ++ About.intro ++ "Debug info:\n" ++ details ++
  "\n\nOpcode 0x" ++ padded 4 word ++ " at address 0x" ++ padded 3 address ++
  " is not recognised."

/-- The message when the word fetched last stands for no instruction. -/
def haltMessage (m : Machine) : String :=
  haltText (m.fullReport "???") m.opcode m.fetchedAt

end Machine

end Chip8
