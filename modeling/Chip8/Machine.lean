import Chip8.CallStack
import Chip8.Instruction
import Chip8.Keypad
import Chip8.Memory
import Chip8.Noise
import Chip8.Screen
import Chip8.Timers

/-!
# The machine

All that a running program can see or change, and the few things that are only there to be reported.
A machine owns all of its state. It never waits and knows nothing of real time: whoever drives it
decides when a cycle is run and when the timers are counted down.

* `Machine.boot` — a machine with the glyphs in memory, about to run at the start of programs;
* `Machine.reset` — goes on elsewhere, and no longer waits for a key;
* `Machine.advance` — moves the program counter past one instruction;
* `Machine.register_setRegister` — setting a register concerns that register alone.

The index, the program counter and the word last fetched are integers. That they stay within sixteen
bits on every machine that a program can reach is a law of the machine and no part of their types.
-/

namespace Chip8

/-- What a machine does in its next cycle. -/
inductive Phase
  | running
  /-- It looks for a key, to be stored in a register. -/
  | awaitingKey (register : Register)
  deriving DecidableEq

/-- Watches a machine on behalf of the user. -/
structure Monitor where
  /-- Whether instructions are to be reported as they are run. A machine takes note of this when it
  is built, and not again. -/
  live : Bool := false
  deriving DecidableEq

/-- A machine with everything that belongs to it. -/
structure Machine where
  memory : Memory
  stack : CallStack
  screen : Screen
  timers : Timers
  keypad : Keypad
  registers : Vector UInt8 16
  /-- The register that points into memory. -/
  index : Int
  /-- The address of the next instruction. -/
  pc : Int
  /-- The word that was fetched last. -/
  opcode : Int
  /-- Where that word was to be fetched. -/
  fetchedAt : Int
  phase : Phase
  noise : Noise
  monitor : Monitor
  /-- Whether every instruction is reported before it is run. -/
  tracing : Bool

namespace Machine

/-- A machine that has not run yet. -/
def boot (monitor : Monitor) (noise : Noise) : Machine where
  memory := (Memory.blank Layout.memorySize).put Layout.fontStart Layout.glyphs
  stack := CallStack.empty Layout.stackDepth
  screen := Screen.blank Layout.screenWidth Layout.screenHeight
  timers := {}
  keypad := Keypad.released
  registers := Vector.replicate 16 0
  index := 0
  pc := Layout.programStart
  opcode := 0
  fetchedAt := 0
  phase := .running
  noise
  monitor
  tracing := monitor.live

/-- Goes on at an address, without waiting for a key. -/
def reset (m : Machine) (address : Int) : Machine :=
  { m with pc := address, phase := .running }

def isAwaitingKey (m : Machine) : Bool :=
  match m.phase with
  | .running => false
  | .awaitingKey _ => true

def register (m : Machine) (r : Register) : UInt8 :=
  m.registers[r]

def setRegister (m : Machine) (r : Register) (value : UInt8) : Machine :=
  { m with registers := m.registers.set r value }

theorem register_setRegister (m : Machine) (r s : Register) (value : UInt8) :
    (m.setRegister r value).register s = if s = r then value else m.register s := by
  simp only [register, setRegister, Fin.getElem_fin, Vector.getElem_set]
  grind

/-- The register that a jump can be computed from. -/
def firstRegister : Register :=
  ⟨0x0, by decide⟩

/-- The register that takes the flags. -/
def flagRegister : Register :=
  ⟨0xF, by decide⟩

/-- Sets the flag register to one or zero. -/
def setFlag (m : Machine) (flag : Bool) : Machine :=
  m.setRegister flagRegister (if flag then 1 else 0)

/-- The registers from the first one up to `last`. -/
def registersTo (m : Machine) (last : Register) : List UInt8 :=
  m.registers.toList.take (last.val + 1)

/-- Sets the registers from the first one up to `last` to the given bytes. -/
def setRegistersTo (m : Machine) (last : Register) (bytes : List UInt8) : Machine :=
  { m with
    registers := Vector.ofFn fun r =>
      if r ≤ last then bytes.getD r.val 0 else m.register r }

/-- Moves the program counter past one instruction, within sixteen bits. -/
def advance (m : Machine) : Machine :=
  { m with pc := (m.pc + 2) % 0x10000 }

/-- Moves the program counter past one instruction if the condition holds. -/
def skipIf (m : Machine) (condition : Bool) : Machine :=
  if condition then m.advance else m

/-- The word at the program counter, high byte first. -/
def fetch (m : Machine) : Except Fault Int := do
  let bytes ← m.memory.readBlock m.pc 2
  return bytes.foldl (fun word byte => 0x100 * word + byte.toNat) 0

/-- The register that a number names, which counts from the end below zero. -/
def registerOf (number : Int) : Except Misuse Register :=
  match place? Layout.registerCount number with
  | some r => .ok r
  | none => .error (.noSuchRegister number)

/-- Sets the register with the given number to a value. That there is such a register is checked
before the value is. -/
def assign (m : Machine) (number value : Int) : Except Misuse Machine := do
  let r ← registerOf number
  let byte ← byteOf value
  return m.setRegister r byte

end Machine

end Chip8
