import Chip8.Fault
import Chip8.Keypad
import Chip8.Text.Fields
import Chip8.Text.Integer

/-!
# Keymaps

A keymap gives each of the sixteen keys a key of the host, named by its code. The user writes it as
sixteen numbers with commas between them, for the keys `0` to `F` in turn. No code may serve two keys,
in whatever way it is written.

* `Keymap.parse` — reads a keymap, or says what is wrong with it. A wrong number of fields is found
  before anything else, and after that the first bad field from the left counts;
* `Keymap.key?` — the key that a host key stands for;
* `Keymap.key?_code` — every key is found by its own code.
-/

namespace Chip8

/-- The codes of the sixteen keys, each another. -/
structure Keymap where
  codes : List Int
  length_codes : codes.length = 16
  nodup_codes : codes.Nodup

/-- What can be wrong with a keymap. -/
inductive KeymapError
  /-- There are not sixteen fields. -/
  | count
  | number
  | duplicate
  deriving DecidableEq

def KeymapError.message : KeymapError → String
  | .count => "Incorrect number of keys defined -- 16 required.  Use commas to split numbers"
  | .number => "Defined keys are not all integer values"
  | .duplicate => "Duplicate keys defined"

namespace Keymap

/-- The keymap that is used when the user asks for none: a block of four by four keys on the left of
the usual keyboard. -/
def standardText : String :=
  "120,49,50,51,113,119,101,97,115,100,122,99,52,114,102,118"

/-- Reads codes from the left, none of which may be among those seen before. -/
def readCodes (seen : List Int) : List (List Char) → Except KeymapError (List Int)
  | [] => .ok []
  | field :: rest =>
    match Text.Integer.read? .decimal field with
    | none => .error .number
    | some code =>
      if code ∈ seen then .error .duplicate
      else (readCodes (code :: seen) rest).map (code :: ·)

/-- What is read has one code for each field, and no code twice, nor one that was seen before. -/
theorem readCodes_ok {seen : List Int} {fields : List (List Char)} {codes : List Int}
    (h : readCodes seen fields = .ok codes) :
    codes.length = fields.length ∧ codes.Nodup ∧ ∀ c ∈ codes, c ∉ seen := by
  induction fields generalizing seen codes with
  | nil =>
    simp only [readCodes, Except.ok.injEq] at h
    subst h
    simp
  | cons field rest ih =>
    simp only [readCodes] at h
    split at h
    · simp at h
    · rename_i code _
      split at h
      · simp at h
      · rename_i hseen
        cases hrest : readCodes (code :: seen) rest with
        | error e => simp [hrest, Except.map] at h
        | ok others =>
          simp only [hrest, Except.map, Except.ok.injEq] at h
          subst h
          obtain ⟨hlength, hnodup, hothers⟩ := ih hrest
          -- The other codes avoid this one, because it had been seen when they were read.
          refine ⟨by simp [hlength], ?_, ?_⟩
          · refine List.nodup_cons.mpr ⟨fun hmem => ?_, hnodup⟩
            exact hothers code hmem (List.mem_cons_self ..)
          · intro c hc
            rcases List.mem_cons.mp hc with rfl | hc
            · exact hseen
            · exact fun hmem => hothers c hc (List.mem_cons_of_mem _ hmem)

def parse (text : String) : Except KeymapError Keymap :=
  let fields := Text.fields ',' text.toList
  if hfields : fields.length = Layout.keyCount then
    match hcodes : readCodes [] fields with
    | .error e => .error e
    | .ok codes =>
      .ok ⟨codes, (readCodes_ok hcodes).1.trans hfields, (readCodes_ok hcodes).2.1⟩
  else .error .count

def code (m : Keymap) (key : Key) : Int :=
  m.codes.get ⟨key.val, by rw [m.length_codes]; exact key.isLt⟩

/-- The key that a host key stands for. -/
def key? (m : Keymap) (code : Int) : Option Key :=
  (List.finRange 16).find? fun key => m.code key == code

theorem code_ne_of_lt (m : Keymap) {j k : Key} (h : j.val < k.val) : m.code j ≠ m.code k :=
  List.pairwise_iff_getElem.mp m.nodup_codes j.val k.val _ _ h

theorem code_injective (m : Keymap) {j k : Key} (h : m.code j = m.code k) : j = k := by
  rcases Nat.lt_trichotomy j.val k.val with hlt | heq | hgt
  · exact absurd h (m.code_ne_of_lt hlt)
  · exact Fin.ext heq
  · exact absurd h.symm (m.code_ne_of_lt hgt)

/-- A code stands for the key that has it, and for no other. -/
theorem key?_eq_some_iff (m : Keymap) {code : Int} {key : Key} :
    m.key? code = some key ↔ m.code key = code := by
  constructor
  · intro h
    have hfound : (m.code key == code) = true :=
      List.find?_some (p := fun key => m.code key == code) h
    exact eq_of_beq hfound
  · intro h
    cases hfound : m.key? code with
    | none =>
      exact absurd (by simp [h]) (List.find?_eq_none.mp hfound key (List.mem_finRange key))
    | some other =>
      have hother : (m.code other == code) = true :=
        List.find?_some (p := fun key => m.code key == code) hfound
      rw [m.code_injective ((eq_of_beq hother).trans h.symm)]

theorem key?_code (m : Keymap) (key : Key) : m.key? (m.code key) = some key :=
  m.key?_eq_some_iff.mpr rfl

end Keymap

end Chip8
