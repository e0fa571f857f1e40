import Chip8.Device.Call

/-!
# Deeds

The plugins that a session puts together, a panel, a keyboard and a buzzer, are made one after another and
let go again in the end. Not all of that can be told from the calls: a headless panel, a silent buzzer and
any keyboard come and go without one. So a session keeps a list of its deeds, in which it stands among the
calls when a plugin was ready for use and when it was let go.

* `Stage`, `Deed` — what is kept;
* `Done` — a value together with the deeds on the way to it;
* `Deed.calls`, `Deed.stages` — the calls among deeds, and what becomes of the plugins.
-/

namespace Chip8

/-- The parts of a console that deal with the host. -/
inductive Plugin
  | panel
  | keyboard
  | buzzer
  deriving DecidableEq

/-- What becomes of a plugin. -/
inductive Stage
  /-- It is ready for use. -/
  | made (plugin : Plugin)
  /-- It is told to give back what it has of the host. -/
  | letGo (plugin : Plugin)
  deriving DecidableEq

/-- What a session does that has to do with the host. -/
inductive Deed
  | call (call : DeviceCall)
  | stage (stage : Stage)

namespace Deed

/-- The call that a deed is, if it is one. -/
def call? : Deed → Option DeviceCall
  | .call made => some made
  | .stage _ => none

/-- What becomes of a plugin by a deed, if anything. -/
def stage? : Deed → Option Stage
  | .call _ => none
  | .stage reached => some reached

/-- The calls among deeds. -/
def calls (deeds : List Deed) : List DeviceCall :=
  deeds.filterMap call?

/-- What becomes of the plugins by deeds. -/
def stages (deeds : List Deed) : List Stage :=
  deeds.filterMap stage?

@[simp] theorem calls_append (first second : List Deed) :
    calls (first ++ second) = calls first ++ calls second :=
  List.filterMap_append

@[simp] theorem stages_append (first second : List Deed) :
    stages (first ++ second) = stages first ++ stages second :=
  List.filterMap_append

@[simp] theorem calls_map_call (made : List DeviceCall) : calls (made.map .call) = made := by
  rw [calls, List.filterMap_map]
  exact List.filterMap_some

@[simp] theorem stages_map_call (made : List DeviceCall) : stages (made.map .call) = [] := by
  rw [stages, List.filterMap_map]
  exact List.filterMap_eq_nil_iff.mpr fun _ _ => rfl

end Deed

/-- A value, and the deeds that were done on the way to it, in order. -/
structure Done (α : Type) where
  value : α
  deeds : List Deed := []

namespace Done

variable {α : Type}

instance : Monad Done where
  pure a := ⟨a, []⟩
  bind t f := ⟨(f t.value).value, t.deeds ++ (f t.value).deeds⟩

/-- Does one deed. -/
def deed (d : Deed) : Done Unit :=
  ⟨(), [d]⟩

/-- The calls that were made on the way to a value are deeds. -/
def ofTraced (t : Traced α) : Done α :=
  ⟨t.value, t.calls.map .call⟩

end Done

end Chip8
