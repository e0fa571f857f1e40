import Chip8.Input.Keyboard
import Mathlib.Data.List.DropRight

/-!
# What the events come to

A window hands its events over in polls, and now and then a keyboard lets all keys go. The pad after
any number of such turns can be told from the events alone. A key of the pad depends on the strokes of
one host key (`HostEvent.stroke?`), and of these on the last since the keys were let go; where the
polls begin and end makes no difference. To let the escape key up is to ask to quit and no stroke, also
for a keymap in which the escape key stands for a key of the pad.

The proof follows one key through one event (`Keymap.isHeld_absorb`). No two keys of the pad have a
host key in common, so what becomes of the key can be told without the rest of the pad. A poll is such
events one after the other (`Keyboard.isHeld_poll`), and the induction on turns adds them at the end,
where the last stroke is.

* `Keyboard.pad_is_net_effect`: which keys are held, what does not matter to them, when a poll asks to
  quit, and that a stream of events may be cut into polls anywhere.
-/

namespace Chip8

/-- What a host key does. -/
inductive Stroke
  | down
  | up
  deriving DecidableEq

namespace HostEvent

/-- The stroke of a host key that an event is, if it is one. -/
def stroke? (code : Int) (e : HostEvent) : Option Stroke :=
  if e.kind = keyDown ∧ e.code = code then some .down
  else if e.kind = keyUp ∧ e.code = code ∧ code ≠ escape then some .up
  else none

/-- Whether an event asks to quit. -/
def AsksToQuit (e : HostEvent) : Prop :=
  e.kind = closed ∨ e.kind = keyUp ∧ e.code = escape

instance (e : HostEvent) : Decidable e.AsksToQuit :=
  inferInstanceAs (Decidable (_ ∨ _))

/-- The last stroke of a host key among events. -/
def lastStroke? (code : Int) (events : List HostEvent) : Option Stroke :=
  (events.filterMap (stroke? code)).getLast?

theorem lastStroke?_append (code : Int) (first second : List HostEvent) :
    lastStroke? code (first ++ second) = (lastStroke? code second).or (lastStroke? code first) := by
  simp only [lastStroke?, List.filterMap_append, List.getLast?_append]

theorem lastStroke?_cons (code : Int) (e : HostEvent) (events : List HostEvent) :
    lastStroke? code (e :: events) = (lastStroke? code events).or (e.stroke? code) := by
  rw [← List.singleton_append, lastStroke?_append]
  cases h : e.stroke? code <;> simp [lastStroke?, h]

/-- An event of another host key is no stroke of this one. -/
theorem stroke?_of_code_ne {code : Int} {e : HostEvent} (h : e.code ≠ code) :
    e.stroke? code = none := by
  simp [stroke?, h]

/-- An event that is neither the press nor the release of a host key is no stroke of any. -/
theorem stroke?_of_kind_ne {e : HostEvent} (code : Int) (hdown : e.kind ≠ keyDown)
    (hup : e.kind ≠ keyUp) : e.stroke? code = none := by
  simp [stroke?, hdown, hup]

/-- An event that asks to quit is no stroke, not even of the key that it came from. -/
theorem stroke?_of_asksToQuit {e : HostEvent} (code : Int) (h : e.AsksToQuit) :
    e.stroke? code = none := by
  -- The window is closed, or the escape key comes up. The second is a release, and that is why strokes
  -- leave out the release of this one key.
  rcases h with hclosed | ⟨hup, hescape⟩
  · refine stroke?_of_kind_ne code ?_ ?_ <;> rw [hclosed] <;> decide
  · have hdown : e.kind ≠ keyDown := by
      rw [hup]
      decide
    simp +contextual [stroke?, hdown, hescape, eq_comm]

/-- Any other key that comes up gives a command to release it. -/
theorem command?_keyUp {code : Int} (h : code ≠ escape) :
    command? ⟨keyUp, code⟩ = some (.release code) := by
  simp [command?, closed, keyDown, keyUp, h]

/-- The events that become a command to quit are those that ask for it. -/
theorem command?_eq_quit_iff (e : HostEvent) : e.command? = some .quit ↔ e.AsksToQuit := by
  obtain ⟨kind, code⟩ := e
  by_cases hdown : kind = keyDown
  · subst hdown
    simp [command?, AsksToQuit, closed, keyDown, keyUp]
  · by_cases hescape : code = escape <;>
      simp [command?, AsksToQuit, hdown, hescape, or_iff_not_imp_left]

end HostEvent

/-- What a keyboard is asked for. -/
inductive Turn
  /-- To play the events that are pending. -/
  | poll (events : List HostEvent)
  /-- To let all keys go. -/
  | shutdown

namespace Turn

def isPoll : Turn → Bool
  | .poll _ => true
  | .shutdown => false

def events : Turn → List HostEvent
  | .poll events => events
  | .shutdown => []

/-- The events that came after all keys were let go for the last time. -/
def recent (turns : List Turn) : List HostEvent :=
  (turns.rtakeWhile isPoll).flatMap events

/-- The events of a turn, or a mark that all keys were let go. -/
def items : Turn → List (Option HostEvent)
  | .poll events => events.map some
  | .shutdown => [none]

/-- All that happens in turns, in one row: where a poll ends cannot be told from it. -/
def stream (turns : List Turn) : List (Option HostEvent) :=
  turns.flatMap items

/-- A poll at the end adds its events to the recent ones. -/
theorem recent_poll (turns : List Turn) (events : List HostEvent) :
    recent (turns ++ [.poll events]) = recent turns ++ events := by
  rw [recent, List.rtakeWhile_concat_pos _ _ _ rfl, List.flatMap_append]
  simp [recent, Turn.events]

/-- Letting go at the end leaves no recent events. -/
theorem recent_shutdown (turns : List Turn) : recent (turns ++ [.shutdown]) = [] := by
  rw [recent, List.rtakeWhile_concat_neg _ _ _ (by simp [isPoll])]
  rfl

end Turn

/-- Two pads are the same if each key is held on both or on neither. -/
theorem Keypad.ext_isHeld {pad other : Keypad}
    (h : ∀ key, pad.isHeld key = other.isHeld key) : pad = other := by
  obtain ⟨held⟩ := pad
  obtain ⟨held'⟩ := other
  congr 1
  refine Vector.ext ?_
  intro i hi
  exact h ⟨i, hi⟩

/-! ### One event -/

namespace Keymap

variable {m : Keymap} {pad : Keypad} {key : Key} {code : Int}

/-- A code that stands for no key is the code of none. -/
theorem ne_code_of_key?_eq_none (h : m.key? code = none) (key : Key) : code ≠ m.code key := by
  rintro rfl
  rw [m.key?_code] at h
  cases h

/-- A code that stands for a key is the code of that one alone, since a keymap has no code twice. -/
theorem eq_code_iff_of_key?_eq_some {found : Key} (h : m.key? code = some found) :
    code = m.code key ↔ key = found := by
  calc code = m.code key ↔ m.key? code = some key := by rw [m.key?_eq_some_iff, eq_comm]
    _ ↔ key = found := by rw [h, Option.some_inj, eq_comm]

/-- After a press the key that the code stands for is held, and all others are as they were. -/
theorem isHeld_obey_press :
    (m.obey pad (.press code)).isHeld key = (decide (code = m.code key) || pad.isHeld key) := by
  -- A code that stands for no key changes nothing, and is the code of no key either.
  cases hkey : m.key? code with
  | none => simp [obey, hkey, ne_code_of_key?_eq_none hkey]
  | some pressed =>
    simp [obey, hkey, eq_code_iff_of_key?_eq_some hkey, Keypad.isHeld_press, beq_eq_decide]

/-- After a release the key that the code stands for is free, and all others are as they were. -/
theorem isHeld_obey_release :
    (m.obey pad (.release code)).isHeld key = (decide (code ≠ m.code key) && pad.isHeld key) := by
  cases hkey : m.key? code with
  | none => simp [obey, hkey, ne_code_of_key?_eq_none hkey]
  | some freed =>
    simp [obey, hkey, eq_code_iff_of_key?_eq_some hkey, Keypad.isHeld_release, bne, beq_eq_decide]

/-- The pad after an event. -/
def absorb (m : Keymap) (pad : Keypad) (e : HostEvent) : Keypad :=
  match e.command? with
  | some command => m.obey pad command
  | none => pad

/-- A stroke of its host key decides about a key. Every other event leaves the key as it is. -/
theorem isHeld_absorb (e : HostEvent) :
    (m.absorb pad e).isHeld key = (e.stroke? (m.code key)).elim (pad.isHeld key) (· == .down) := by
  -- The kinds of events are gone through as the keyboard does it: key down, key up, and all others, among
  -- them the closing of the window.
  obtain ⟨kind, code⟩ := e
  by_cases hdown : kind = HostEvent.keyDown
  · subst hdown
    show (m.obey pad (.press code)).isHeld key = _
    rw [isHeld_obey_press]
    by_cases hcode : code = m.code key <;>
      simp [HostEvent.stroke?, hcode, HostEvent.keyDown, HostEvent.keyUp]
  by_cases hup : kind = HostEvent.keyUp
  · subst hup
    by_cases hescape : code = HostEvent.escape
    · -- Asking to quit leaves the pad alone, and is no stroke of any key.
      subst hescape
      rw [HostEvent.stroke?_of_asksToQuit _ (.inr ⟨rfl, rfl⟩)]
      rfl
    · simp only [absorb, HostEvent.command?_keyUp hescape, isHeld_obey_release]
      by_cases hcode : code = m.code key
      · subst hcode
        simp [HostEvent.stroke?, hescape, HostEvent.keyDown, HostEvent.keyUp]
      · simp [HostEvent.stroke?, hcode]
  · rw [HostEvent.stroke?_of_kind_ne _ hdown hup]
    by_cases hclosed : kind = HostEvent.closed <;>
      simp [absorb, HostEvent.command?, obey, hclosed, hdown, hup]

/-- The keyboard of a window. -/
def keyboard (m : Keymap) : Keyboard :=
  ⟨m, true⟩

end Keymap

open HostEvent Turn

namespace Keyboard

variable {pad other : Keypad} {key : Key} {m : Keymap}

/-- The pad after a turn. -/
def serve (k : Keyboard) (pad : Keypad) : Turn → Keypad
  | .poll events => (k.poll pad events).1
  | .shutdown => Keypad.released

/-- The pad after turns. -/
def serveAll (k : Keyboard) (pad : Keypad) (turns : List Turn) : Keypad :=
  turns.foldl k.serve pad

/-- Whether one of the polls among turns asks to quit. -/
def asksToQuit (k : Keyboard) (pad : Keypad) : List Turn → Bool
  | [] => false
  | .poll events :: turns => (k.poll pad events).2 || k.asksToQuit (k.poll pad events).1 turns
  | .shutdown :: turns => k.asksToQuit Keypad.released turns

/-! ### One poll -/

/-- A poll takes its events one by one. That it first makes commands of them all cannot be told from the pad.
-/
theorem fst_poll (events : List HostEvent) :
    (m.keyboard.poll pad events).1 = events.foldl m.absorb pad := by
  simp only [poll, Keymap.play, commands, Keymap.keyboard, if_true, List.foldl_filterMap]
  congr 1
  funext pad e
  unfold Keymap.absorb
  cases e.command? <;> rfl

/-- A poll asks to quit if one of its events does, wherever it stands among them. -/
theorem snd_poll (events : List HostEvent) :
    (m.keyboard.poll pad events).2 = true ↔ ∃ e ∈ events, e.AsksToQuit := by
  simp only [poll, Keymap.play, commands, Keymap.keyboard, if_true, List.any_eq_true,
    List.mem_filterMap, beq_iff_eq, command?_eq_quit_iff, exists_eq_right]

/-- After a poll a key is as the last stroke among the events left it. -/
theorem isHeld_poll (events : List HostEvent) :
    (m.keyboard.poll pad events).1.isHeld key =
      (lastStroke? (m.code key) events).elim (pad.isHeld key) (· == .down) := by
  rw [fst_poll]
  induction events generalizing pad with
  | nil => rfl
  | cons e events ih =>
    rw [List.foldl_cons, ih, Keymap.isHeld_absorb, lastStroke?_cons]
    cases lastStroke? (m.code key) events <;> rfl

/-- An event that is no stroke of the key's host key does not matter to the key. -/
theorem isHeld_poll_insert {e : HostEvent} (before after : List HostEvent)
    (h : e.stroke? (m.code key) = none) :
    (m.keyboard.poll pad (before ++ e :: after)).1.isHeld key =
      (m.keyboard.poll pad (before ++ after)).1.isHeld key := by
  simp only [isHeld_poll, lastStroke?_append, lastStroke?_cons, h, Option.or_none]

/-! ### Any number of turns -/

/-- Turns are served one after the other. -/
theorem serveAll_append (k : Keyboard) (pad : Keypad) (first second : List Turn) :
    k.serveAll pad (first ++ second) = k.serveAll (k.serveAll pad first) second :=
  List.foldl_append

theorem serveAll_cons (k : Keyboard) (pad : Keypad) (turn : Turn) (turns : List Turn) :
    k.serveAll pad (turn :: turns) = k.serveAll (k.serve pad turn) turns := rfl

/-- A key is as the last stroke left it since all keys were let go; without one it is as at the
beginning, unless all keys were let go. -/
theorem isHeld_serveAll (turns : List Turn) :
    (m.keyboard.serveAll pad turns).isHeld key = true ↔
      lastStroke? (m.code key) (recent turns) = some .down ∨
        lastStroke? (m.code key) (recent turns) = none ∧
          pad.isHeld key = true ∧ .shutdown ∉ turns := by
  induction turns using List.reverseRecOn with
  | nil => simp [serveAll, recent, lastStroke?]
  -- The induction takes turns off the end, since it is the latest stroke that counts.
  | append_singleton turns turn ih =>
    rw [serveAll_append]
    cases turn with
    | shutdown => simp [serveAll, serve, recent_shutdown, lastStroke?]
    | poll events =>
      -- A stroke in the poll is later than all others; without one it is for the earlier turns to say.
      show (m.keyboard.poll _ events).1.isHeld key = true ↔ _
      rw [isHeld_poll, recent_poll, lastStroke?_append]
      cases lastStroke? (m.code key) events with
      | none => simpa using ih
      | some stroke => simp

/-- What becomes of a key depends on that key alone. -/
theorem isHeld_serveAll_congr (h : pad.isHeld key = other.isHeld key) (turns : List Turn) :
    (m.keyboard.serveAll pad turns).isHeld key = (m.keyboard.serveAll other turns).isHeld key := by
  rw [Bool.eq_iff_iff, isHeld_serveAll, isHeld_serveAll, h]

/-- An event that is no stroke of a key's host key makes no difference to that key, whatever comes later. -/
theorem isHeld_serveAll_insert {e : HostEvent} (turns more : List Turn)
    (before after : List HostEvent) (h : e.stroke? (m.code key) = none) :
    (m.keyboard.serveAll pad (turns ++ .poll (before ++ e :: after) :: more)).isHeld key =
      (m.keyboard.serveAll pad (turns ++ .poll (before ++ after) :: more)).isHeld key := by
  -- With and without the event the pads may differ in other keys, and this key does not learn of them.
  simp only [serveAll_append, serveAll_cons]
  exact isHeld_serveAll_congr (isHeld_poll_insert before after h) more

/-! ### Cutting a stream into polls -/

/-- The pad after an event, or after all keys were let go. -/
def follow (m : Keymap) (pad : Keypad) : Option HostEvent → Keypad
  | some e => m.absorb pad e
  | none => Keypad.released

/-- The pad can be worked out from the stream, and so without knowing where a poll ends. -/
theorem serveAll_eq_foldl_stream (turns : List Turn) :
    m.keyboard.serveAll pad turns = (stream turns).foldl (follow m) pad := by
  induction turns generalizing pad with
  | nil => rfl
  | cons turn turns ih =>
    -- A turn is followed item by item, and what comes after it does not ask how it was made up.
    rw [serveAll_cons, ih, stream, stream, List.flatMap_cons, List.foldl_append]
    cases turn with
    | shutdown => rfl
    | poll events =>
      congr 1
      simp only [serve, fst_poll, items, List.foldl_map, follow]

/-- So can the question whether one of the polls asks to quit. -/
theorem asksToQuit_iff (turns : List Turn) :
    m.keyboard.asksToQuit pad turns = true ↔ ∃ e, some e ∈ stream turns ∧ e.AsksToQuit := by
  induction turns generalizing pad with
  | nil => simp [asksToQuit, stream]
  | cons turn turns ih =>
    rw [stream, List.flatMap_cons]
    cases turn with
    | shutdown => simp [asksToQuit, ih, items, stream]
    | poll events => simp [asksToQuit, snd_poll, ih, items, stream, or_and_right, exists_or]

/-- The pad is the net effect of the host's events. A key is held if the last stroke of its host key
was down, of those since all keys were let go; if there was none, then if it was held at the beginning
and the keys were never let go. Events of other kinds, those of host keys that stand for no key and
those that ask to quit do not matter, and those of one key do not matter to another. A poll asks to
quit if one of its events does, wherever it stands. How a stream of events is cut into polls makes no
difference. -/
theorem pad_is_net_effect (m : Keymap) (pad : Keypad) :
    (∀ turns key, (m.keyboard.serveAll pad turns).isHeld key = true ↔
      lastStroke? (m.code key) (recent turns) = some .down ∨
        lastStroke? (m.code key) (recent turns) = none ∧
          pad.isHeld key = true ∧ .shutdown ∉ turns) ∧
    (∀ turns before e after more,
      (e.kind ≠ keyDown ∧ e.kind ≠ keyUp) ∨ e.code ∉ m.codes ∨ e.AsksToQuit →
      m.keyboard.serveAll pad (turns ++ .poll (before ++ e :: after) :: more) =
        m.keyboard.serveAll pad (turns ++ .poll (before ++ after) :: more)) ∧
    (∀ turns before e after more key, e.code ≠ m.code key →
      (m.keyboard.serveAll pad (turns ++ .poll (before ++ e :: after) :: more)).isHeld key =
        (m.keyboard.serveAll pad (turns ++ .poll (before ++ after) :: more)).isHeld key) ∧
    (∀ events, (m.keyboard.poll pad events).2 = true ↔ ∃ e ∈ events, e.AsksToQuit) ∧
    (∀ first second, stream first = stream second →
      m.keyboard.serveAll pad first = m.keyboard.serveAll pad second ∧
        m.keyboard.asksToQuit pad first = m.keyboard.asksToQuit pad second) := by
  refine ⟨fun turns key => isHeld_serveAll turns, ?_, ?_, snd_poll, ?_⟩
  · -- No key takes the event for a stroke of its own.
    intro turns before e after more hidle
    refine Keypad.ext_isHeld fun key => isHeld_serveAll_insert turns more before after ?_
    rcases hidle with ⟨hdown, hup⟩ | hcode | hquit
    · exact stroke?_of_kind_ne _ hdown hup
    · refine stroke?_of_code_ne ?_
      intro heq
      exact hcode (heq ▸ List.get_mem ..)
    · exact stroke?_of_asksToQuit _ hquit
  · -- An event of another key may matter to that key, so this is said of one key only.
    intro turns before e after more key hcode
    exact isHeld_serveAll_insert turns more before after (stroke?_of_code_ne hcode)
  · -- Both the pad and the question whether to quit can be worked out from the stream.
    intro first second hstream
    refine ⟨?_, ?_⟩
    · rw [serveAll_eq_foldl_stream, serveAll_eq_foldl_stream, hstream]
    · rw [Bool.eq_iff_iff, asksToQuit_iff, asksToQuit_iff, hstream]

/-- A keymap with the escape key in the place of key `1`. -/
def escaping : Keymap :=
  ⟨[120, 27, 50, 51, 113, 119, 101, 97, 115, 100, 122, 99, 52, 114, 102, 118], rfl, by decide⟩

/-- The escape key goes down and comes up, and in between the window is closed. Key `1` stays held, as
it does without the closing and in three polls; key `2` would not notice if it had not gone down. -/
theorem pad_is_net_effect_escaping :
    (escaping.keyboard.serveAll Keypad.released
      [.poll [⟨keyDown, escape⟩, ⟨closed, 0⟩, ⟨keyUp, escape⟩]]).isHeld 1 = true ∧
    escaping.keyboard.serveAll Keypad.released
        [.poll [⟨keyDown, escape⟩, ⟨closed, 0⟩, ⟨keyUp, escape⟩]] =
      escaping.keyboard.serveAll Keypad.released
        [.poll [⟨keyDown, escape⟩, ⟨keyUp, escape⟩]] ∧
    (escaping.keyboard.serveAll Keypad.released
        [.poll [⟨keyDown, escape⟩, ⟨closed, 0⟩, ⟨keyUp, escape⟩]]).isHeld 2 =
      (escaping.keyboard.serveAll Keypad.released
        [.poll [⟨closed, 0⟩, ⟨keyUp, escape⟩]]).isHeld 2 ∧
    (escaping.keyboard.poll Keypad.released [⟨keyDown, escape⟩, ⟨closed, 0⟩]).2 = true ∧
    escaping.keyboard.serveAll Keypad.released
        [.poll [⟨keyDown, escape⟩, ⟨closed, 0⟩, ⟨keyUp, escape⟩]] =
      escaping.keyboard.serveAll Keypad.released
        [.poll [⟨keyDown, escape⟩], .poll [⟨closed, 0⟩], .poll [⟨keyUp, escape⟩]] := by
  obtain ⟨hheld, hidle, hother, hquit, hcut⟩ := pad_is_net_effect escaping Keypad.released
  refine ⟨?_, ?_, ?_, ?_, ?_⟩
  · exact (hheld _ _).mpr (.inl (by decide))
  · exact hidle [] [⟨keyDown, escape⟩] ⟨closed, 0⟩ [⟨keyUp, escape⟩] [] (by decide)
  · exact hother [] [] ⟨keyDown, escape⟩ [⟨closed, 0⟩, ⟨keyUp, escape⟩] [] _ (by decide)
  · exact (hquit _).mpr ⟨⟨closed, 0⟩, by decide, by decide⟩
  · exact (hcut _ _ (by decide)).1

end Keyboard

end Chip8
