import Chip8.Proofs.Machine.Frame
import Chip8.Proofs.Machine.Step
import Chip8.Proofs.Screen.Flips

/-!
# Every change of the picture is noted

Whoever shows the screen asks it whether it may have changed, and shows nothing if it has not. That
nothing is lost in this way rests on one law: unless the screen is asked, an event that leaves it
marked as unchanged has left it alone (`Machine.screen_of_unchanged`). Instructions that fail, and a
cycle that turns over a pixel and then back again, are covered by it as well.
-/

namespace Chip8

namespace Screen

variable {s : Screen} {x y : Int}

/-- A drawing that does not mark the screen turns no pixel over. -/
theorem draw_of_unchanged {sprite : List UInt8} (h : (s.draw x y sprite).2.changed = false) :
    (s.draw x y sprite).2 = s := by
  rw [draw, changed_flipAll, Bool.or_eq_false_iff] at h
  have hnone : Sprite.pixels sprite = [] := by simpa using h.2
  rw [draw, hnone]
  rfl

end Screen

namespace Machine

variable {m : Machine}

theorem screen_execute_of_unchanged {i : Instruction} {after : Machine} (hrefusal : m.refusal? i = none)
    (h : execute i m = .ok () after) (hunchanged : after.screen.changed = false) :
    after.screen = m.screen := by
  have hkept := kept_of_execute hrefusal h
  obtain ⟨form, o⟩ := i
  by_cases hclear : form = .clear
  · -- A cleared screen is a new one, and so it is marked.
    subst hclear
    cases h
    cases hunchanged
  by_cases hdraw : form = .draw
  · subst hdraw
    rw [execute_draw_of_no_refusal o hrefusal] at h
    cases h
    exact Screen.draw_of_unchanged hunchanged
  · exact hkept.screen hclear hdraw

/-- A cycle that leaves the screen marked as unchanged has left it alone. -/
theorem screen_cycle_of_unchanged (hunchanged : m.cycle.machine.screen.changed = false) :
    m.cycle.machine.screen = m.screen := by
  have hstep := m.step_cycle
  generalize m.cycle = o at hstep hunchanged ⊢
  cases hstep with
  | poll r =>
    unfold Machine.pollKeypad
    split <;> rfl
  | unfetched => rfl
  | unrecognized => rfl
  | refused => rfl
  | obeyed word i after hphase hfetch hword hrefusal hexecute =>
    -- Fetching the word has not touched the screen either.
    have hsame := screen_execute_of_unchanged hrefusal hexecute hunchanged
    exact hsame

/-- Unless the screen is asked, an event that leaves it marked as unchanged has left it alone. -/
theorem screen_of_unchanged {event : Event} (hevent : event ≠ .consumeChanged)
    (hunchanged : (m.react event).machine.screen.changed = false) :
    (m.react event).machine.screen = m.screen := by
  cases event with
  | cycle => exact screen_cycle_of_unchanged hunchanged
  | loadRom rom =>
    simp only [Machine.react, Machine.loadRom]
    cases m.memory.loadRom rom <;> rfl
  | consumeChanged => exact absurd rfl hevent
  | _ => rfl

end Machine

end Chip8
