/-!
# Switches

The named arguments of the command line. Each switch has one or two spellings, a short one of a dash
and a letter and a long one of two dashes and a word, and takes either one value or none.

* `Switch.spellings` — the table;
* `Switch.ofSpelling?` — the switch that is spelt so;
* `Switch.ofSpelling?_eq_some_iff` — no two switches share a spelling.
-/

namespace Chip8

/-- A named argument of the command line. -/
inductive Switch
  | help
  | speed
  | renderer
  | scale
  | mute
  | keymap
  | palette
  | debug
  deriving DecidableEq

namespace Switch

/-- The switches in the order in which they are listed. -/
def all : List Switch :=
  [help, speed, renderer, scale, mute, keymap, palette, debug]

/-- How a switch may be written, the short way first. -/
def spellings : Switch → List String
  | .help => ["-h", "--help"]
  | .speed => ["-c", "--clock_speed"]
  | .renderer => ["-r", "--renderer"]
  | .scale => ["-s", "--scale"]
  | .mute => ["-m", "--mute"]
  | .keymap => ["-k", "--keymap"]
  | .palette => ["--pygame_palette"]
  | .debug => ["-d", "--debug"]

/-- Whether a switch takes a value. -/
def takesValue : Switch → Bool
  | .help | .mute | .debug => false
  | .speed | .renderer | .scale | .keymap | .palette => true

/-- A switch as it is called in messages. -/
def title (s : Switch) : String :=
  "/".intercalate s.spellings

/-- The switch that is spelt so. -/
def ofSpelling? (spelling : String) : Option Switch :=
  all.find? fun s => s.spellings.contains spelling

/-- All spellings with their switches, in the order in which they are listed. -/
def spelled : List (String × Switch) :=
  all.flatMap fun s => s.spellings.map fun spelling => (spelling, s)

theorem mem_all (s : Switch) : s ∈ all := by
  cases s <;> decide

theorem ofSpelling?_eq_some_iff {spelling : String} {s : Switch} :
    ofSpelling? spelling = some s ↔ spelling ∈ s.spellings := by
  constructor
  · intro h
    have hfound : s.spellings.contains spelling = true :=
      List.find?_some (p := fun s : Switch => s.spellings.contains spelling) h
    simpa using hfound
  · intro h
    cases s <;> simp only [spellings, List.mem_cons, List.not_mem_nil, or_false] at h <;>
      (try rcases h with rfl | rfl) <;> rfl

end Switch

end Chip8
