import Chip8.Machine.Execute
import Chip8.Machine.Report

/-!
# Cycles

One step of a machine. A running machine fetches the word at the program counter, moves the program
counter past it, decodes the word and runs the instruction. A machine that waits for a key only looks
at the pad; with the first cycle that sees a key held it stores the lowest such key and runs again,
from the instruction after the one that waited.

A cycle always has a machine as its result, also when it raises a fault: whatever the cycle had
changed before the fault is then changed.

* `Machine.cycle` — one step;
* `Machine.interpret` — decodes and runs the word fetched last, in any phase;
* `Machine.pollKeypad` — what a machine does that waits for a key;
* `Machine.cycle_awaitingKey` — such a machine raises no fault and prints nothing.
-/

namespace Chip8

/-- What comes of a cycle. -/
structure Outcome where
  machine : Machine
  /-- The fault that stopped it, if any. -/
  fault : Option Fault := none
  printed : List String := []

namespace Machine

/-- Looks for a key that is held and stores it in the register that waits for it. -/
def pollKeypad (m : Machine) (r : Register) : Machine :=
  match m.keypad.firstHeld? with
  | none => m
  | some key => { m.setRegister r (UInt8.ofNat key.val) with phase := .running }

/-- Reports an instruction if the machine is traced, and runs it. -/
def obey (m : Machine) (i : Instruction) : Outcome :=
  let printed := if m.tracing then [m.line i.text] else []
  match execute i m with
  | .ok _ after => ⟨after, none, printed⟩
  | .error fault after => ⟨after, some fault, printed⟩

/-- Decodes and runs the word fetched last. -/
def interpret (m : Machine) : Outcome :=
  match Instruction.ofWord? m.opcode with
  | some i => m.obey i
  | none => ⟨m, some (.unrecognizedOpcode m.opcode m.haltMessage), []⟩

/-- Runs a word in place of the one fetched last, without fetching and without moving the program
counter. -/
def perform (m : Machine) (word : Int) : Outcome :=
  { m with opcode := word }.interpret

/-- Fetches, decodes and runs the instruction at the program counter. -/
def runNext (m : Machine) : Outcome :=
  let m := { m with fetchedAt := m.pc }
  match m.fetch with
  | .ok word => { m with opcode := word }.advance.interpret
  | .error fault => ⟨m, some fault, []⟩

def cycle (m : Machine) : Outcome :=
  match m.phase with
  | .running => m.runNext
  | .awaitingKey r => ⟨m.pollKeypad r, none, []⟩

theorem cycle_awaitingKey {m : Machine} {r : Register} (h : m.phase = .awaitingKey r) :
    m.cycle = ⟨m.pollKeypad r, none, []⟩ := by
  simp [cycle, h]

theorem cycle_running {m : Machine} (h : m.phase = .running) : m.cycle = m.runNext := by
  simp [cycle, h]

end Machine

end Chip8
