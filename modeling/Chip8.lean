import Chip8.Text.Fields
import Chip8.Text.Quoted
import Chip8.Text.Integer
import Chip8.Double
import Chip8.Memory
import Chip8.CallStack
import Chip8.Speed
import Chip8.Timers
import Chip8.Keypad
import Chip8.Screen
import Chip8.Instruction
import Chip8.Machine.Event
import Chip8.Device.Panel
import Chip8.Device.Buzzer
import Chip8.Input.Keyboard
import Chip8.Console.Run
import Chip8.Answer
import Chip8.Arguments.Help
import Chip8.Arguments.Switch
import Chip8.Arguments.Token
import Chip8.Arguments
import Chip8.Session
import Chip8.Main
import Chip8.Proofs.Text.Hex
import Chip8.Proofs.Text.Integer
import Chip8.Proofs.Text.Numeral
import Chip8.Proofs.Instruction.Pattern
import Chip8.Proofs.Instruction.Assembly
import Chip8.Proofs.Memory.Block
import Chip8.Proofs.Memory.LastStore
import Chip8.Proofs.Machine.Refusal
import Chip8.Proofs.Machine.Step
import Chip8.Proofs.Machine.Unseen
import Chip8.Proofs.Machine.Assembly
import Chip8.Proofs.Machine.Tracing
import Chip8.Proofs.Machine.Bounds
import Chip8.Proofs.Machine.Faults
import Chip8.Proofs.Machine.Frame
import Chip8.Proofs.Machine.Calls
import Chip8.Proofs.Machine.KeyWait
import Chip8.Proofs.Machine.Loading
import Chip8.Proofs.Machine.Ownership
import Chip8.Proofs.Machine.Independence
import Chip8.Proofs.Machine.Countdown
import Chip8.Proofs.Machine.Picture
import Chip8.Proofs.Machine.Drawing
import Chip8.Proofs.Machine.Arithmetic
import Chip8.Proofs.Machine.Flow
import Chip8.Proofs.Machine.RegisterBlocks
import Chip8.Proofs.Machine.Report
import Chip8.Proofs.Screen.DrawOrder
import Chip8.Proofs.Screen.Coverage
import Chip8.Proofs.Screen.Shown
import Chip8.Proofs.Device.Tone
import Chip8.Proofs.Device.PaletteText
import Chip8.Proofs.Double.Finite
import Chip8.Proofs.Input.NetEffect
import Chip8.Proofs.Input.KeymapText
import Chip8.Proofs.Console.Steps
import Chip8.Proofs.Console.Redraw
import Chip8.Proofs.Console.Faithful
import Chip8.Proofs.Console.Replay
import Chip8.Proofs.Console.CatchUp
import Chip8.Proofs.Console.Devices
import Chip8.Proofs.Console.Ledger
import Chip8.Proofs.Session.Release
