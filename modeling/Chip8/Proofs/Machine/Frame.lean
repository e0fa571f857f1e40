import Chip8.Machine.Event
import Chip8.Proofs.Machine.Refusal

/-!
# What stays as it is

Every part of a machine belongs to a few forms of instruction, and all others leave it as it was
(`Machine.Kept`). A law about one part of a machine is then proved for the forms that the part belongs
to, and `Machine.kept_of_execute` takes care of all the others at once.

The same goes for the events that come from outside. Most of them only work the timers and the pad
(`Event.isPeripheral`), and `Machine.after_peripheral` says that they change nothing else.
-/

namespace Chip8

/-- An event that works the timers and the pad only. -/
def Event.isPeripheral : Event → Bool
  | .tick | .press _ | .release _ | .releaseAll | .setDelay _ | .setSound _ => true
  | .askSound | .askPicture => true
  | .loadRom _ | .cycle | .consumeChanged => false

namespace Machine

/-- What is left alone by an instruction of the given form. -/
structure Kept (form : Form) (m after : Machine) : Prop where
  memory : form ≠ .decimal → form ≠ .store → after.memory = m.memory
  stack : form ≠ .call → form ≠ .ret → after.stack = m.stack
  screen : form ≠ .clear → form ≠ .draw → after.screen = m.screen
  index : form ≠ .setIndex → form ≠ .addIndex → form ≠ .glyph → after.index = m.index
  delay : form ≠ .setDelay → after.timers.delay = m.timers.delay
  sound : form ≠ .setSound → after.timers.sound = m.timers.sound
  phase : form ≠ .awaitKey → after.phase = m.phase
  noise : form ≠ .random → after.noise = m.noise
  keypad : after.keypad = m.keypad
  opcode : after.opcode = m.opcode
  fetchedAt : after.fetchedAt = m.fetchedAt

variable {m : Machine}

/-- A machine keeps all its parts when nothing happens to it. -/
theorem Kept.refl (form : Form) (m : Machine) : Kept form m m := by
  constructor <;> intros <;> rfl

/-- The registers belong to no form in particular, so that all forms may set them. -/
theorem Kept.withRegisters (form : Form) (m : Machine) (registers : Vector UInt8 16) :
    Kept form m { m with registers } := by
  constructor <;> intros <;> rfl

/-- So may all forms move the program counter. -/
theorem Kept.withPc (form : Form) (m : Machine) (pc : Int) : Kept form m { m with pc } := by
  constructor <;> intros <;> rfl

/-- A skip moves the program counter and nothing else. -/
theorem Kept.skipIf (form : Form) (m : Machine) (condition : Bool) :
    Kept form m (m.skipIf condition) := by
  cases condition with
  | false => exact .refl form m
  | true => exact .withPc form m _

/-- An instruction leaves alone whatever does not belong to its form. -/
theorem kept_of_execute {i : Instruction} {after : Machine} (hrefusal : m.refusal? i = none)
    (h : execute i m = .ok () after) : Kept i.form m after := by
  obtain ⟨form, o⟩ := i
  -- Each form has an equation for what it does. What it keeps is then what it keeps when nothing happens,
  -- but for the one part that belongs to it.
  cases form with
  | ret =>
    obtain ⟨address, rest, hitems⟩ := items_of_ret_admitted hrefusal
    rw [execute_ret_of_cons o hitems] at h
    cases h
    exact { Kept.refl .ret m with stack := fun _ hret => absurd rfl hret }
  | call =>
    rw [execute_call_of_room o (room_of_call_admitted hrefusal)] at h
    cases h
    exact { Kept.refl .call m with stack := fun hcall _ => absurd rfl hcall }
  | clear =>
    cases h
    exact { Kept.refl .clear m with screen := fun hclear _ => absurd rfl hclear }
  | draw =>
    rw [execute_draw_of_no_refusal o hrefusal] at h
    cases h
    exact { Kept.refl .draw m with screen := fun _ hdraw => absurd rfl hdraw }
  | decimal =>
    rw [execute_decimal_of_no_refusal o hrefusal] at h
    cases h
    exact { Kept.refl .decimal m with memory := fun hdecimal _ => absurd rfl hdecimal }
  | store =>
    rw [execute_store_of_no_refusal o hrefusal] at h
    cases h
    exact { Kept.refl .store m with memory := fun _ hstore => absurd rfl hstore }
  | load =>
    rw [execute_load_of_no_refusal o hrefusal] at h
    cases h
    exact .withRegisters .load m _
  | setIndex =>
    cases h
    exact { Kept.refl .setIndex m with index := fun hset _ _ => absurd rfl hset }
  | addIndex =>
    cases h
    exact { Kept.refl .addIndex m with index := fun _ hadd _ => absurd rfl hadd }
  | glyph =>
    cases h
    exact { Kept.refl .glyph m with index := fun _ _ hglyph => absurd rfl hglyph }
  | setDelay =>
    cases h
    exact { Kept.refl .setDelay m with delay := fun hdelay => absurd rfl hdelay }
  | setSound =>
    cases h
    exact { Kept.refl .setSound m with sound := fun hsound => absurd rfl hsound }
  | awaitKey =>
    cases h
    exact { Kept.refl .awaitKey m with phase := fun hawait => absurd rfl hawait }
  | random =>
    cases h
    exact { Kept.refl .random m with noise := fun hrandom => absurd rfl hrandom }
  | skipIfByte | skipUnlessByte | skipIfEqual | skipUnlessEqual | skipIfHeld | skipUnlessHeld =>
    cases h
    exact .skipIf _ m _
  | jump | jumpFrom =>
    cases h
    exact .withPc _ m _
  | _ =>
    -- What is left sets registers only.
    cases h
    exact .withRegisters _ m _

/-! ### Events beside the cycles -/

/-- An event of the timers or the pad changes nothing else. -/
theorem react_peripheral {event : Event} (h : event.isPeripheral = true) :
    (m.react event).machine = { m with
      timers := (m.react event).machine.timers
      keypad := (m.react event).machine.keypad } := by
  cases event with
  | loadRom rom => cases h
  | cycle => cases h
  | consumeChanged => cases h
  | _ => rfl

/-- Work on the timers and the pad changes nothing else. -/
theorem after_peripheral {events : List Event} (h : ∀ event ∈ events, event.isPeripheral = true) :
    m.after events = { m with
      timers := (m.after events).timers
      keypad := (m.after events).keypad } := by
  induction events generalizing m with
  | nil => rfl
  | cons event rest ih =>
    obtain ⟨hfirst, hrest⟩ := List.forall_mem_cons.mp h
    rw [after_cons]
    have hreact := react_peripheral (m := m) hfirst
    -- What the first event has left is only known by its timers and its pad, and that is enough.
    generalize (m.react event).machine = next at hreact ⊢
    rw [ih hrest, hreact]

end Machine

end Chip8
