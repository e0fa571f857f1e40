import Chip8.Instruction
import Mathlib.Data.List.Forall2

/-!
# Patterns of words

How the words of each form are written: four characters, of which a hexadecimal digit stands for
itself and a small letter for any digit of an operand. Decoding works on masked bits instead; the two
descriptions agree on all words of sixteen bits (`Form.ofWord?_eq_some_iff_fits`), so a word stands for
no instruction exactly if it fits no pattern (`Instruction.ofWord?_eq_none_iff`).
-/

namespace Chip8

/-- The four hexadecimal digits of a word, the highest first. -/
def digits (word : Int) : List Int :=
  [word / 0x1000, word / 0x100 % 0x10, word / 0x10 % 0x10, word % 0x10]

/-- The digit that a character of a pattern stands for, if it does not stand for any digit. -/
def fixedDigit? (c : Char) : Option Int :=
  if c.isDigit then some (c.toNat - '0'.toNat)
  else if c.isUpper then some (c.toNat - 'A'.toNat + 10)
  else none

namespace Form

/-- How the words of a form are written. -/
def pattern : Form → String
  | .clear => "00E0"
  | .ret => "00EE"
  | .jump => "1nnn"
  | .call => "2nnn"
  | .skipIfByte => "3xkk"
  | .skipUnlessByte => "4xkk"
  | .skipIfEqual => "5xy0"
  | .setByte => "6xkk"
  | .addByte => "7xkk"
  | .copy => "8xy0"
  | .or => "8xy1"
  | .and => "8xy2"
  | .xor => "8xy3"
  | .add => "8xy4"
  | .sub => "8xy5"
  | .shiftRight => "8xy6"
  | .subFrom => "8xy7"
  | .shiftLeft => "8xyE"
  | .skipUnlessEqual => "9xy0"
  | .setIndex => "Annn"
  | .jumpFrom => "Bnnn"
  | .random => "Cxkk"
  | .draw => "Dxyn"
  | .skipIfHeld => "Ex9E"
  | .skipUnlessHeld => "ExA1"
  | .readDelay => "Fx07"
  | .awaitKey => "Fx0A"
  | .setDelay => "Fx15"
  | .setSound => "Fx18"
  | .addIndex => "Fx1E"
  | .glyph => "Fx29"
  | .decimal => "Fx33"
  | .store => "Fx55"
  | .load => "Fx65"

/-- A word is written in the pattern of a form. -/
def Fits (form : Form) (word : Int) : Prop :=
  List.Forall₂ (fun c digit => ∀ fixed, fixedDigit? c = some fixed → digit = fixed)
    form.pattern.toList (digits word)

instance (form : Form) (word : Int) : Decidable (form.Fits word) :=
  inferInstanceAs (Decidable (List.Forall₂ (fun c digit => ∀ fixed ∈ fixedDigit? c, digit = fixed)
    form.pattern.toList (digits word)))

/-- A word that fits a pattern starts with the digit that the form's key starts with. -/
theorem Fits.leading {form : Form} {word : Int} (h : form.Fits word) :
    word / 0x1000 = form.key / 0x1000 := by
  -- In every pattern the first character is a digit.
  cases form <;> simp [Fits, pattern, digits, fixedDigit?] at h <;> simp only [key] <;> omega

/-- A pattern has four digits, and so has every word that fits it. -/
theorem Fits.bounds {form : Form} {word : Int} (h : form.Fits word) :
    0 ≤ word ∧ word < 0x10000 := by
  have hlead := h.leading
  cases form <;> simp only [key] at hlead <;> omega

end Form

/-- No mask touches the leading digit. -/
theorem wordKey_div {word : Int} (h0 : 0 ≤ word) (h1 : word < 0x10000) :
    wordKey word / 0x1000 = word / 0x1000 := by
  unfold wordKey
  cases Mask.ofLeading (word / 0x1000) <;> simp only [Mask.apply] <;> omega

/-- Decoding finds a form exactly if the word is written in its pattern. -/
theorem Form.ofWord?_eq_some_iff_fits {word : Int} (h0 : 0 ≤ word) (h1 : word < 0x10000)
    (form : Form) : Form.ofWord? word = some form ↔ form.Fits word := by
  rw [Form.ofWord?_eq_some_iff]
  by_cases hlead : word / 0x1000 = form.key / 0x1000
  · -- The leading digit is known, so the mask is, and the rest is arithmetic on the other digits.
    rw [wordKey, hlead]
    cases form <;>
      simp [Fits, pattern, digits, fixedDigit?, key, Mask.ofLeading, Mask.apply] at hlead ⊢ <;>
      omega
  · -- With another leading digit there is neither a match of keys nor one of patterns.
    refine ⟨fun h => absurd ?_ hlead, fun h => absurd h.leading hlead⟩
    rw [← h, wordKey_div h0 h1]

/-- A word fits one pattern at most. -/
theorem Form.Fits.unique {form other : Form} {word : Int} (h0 : 0 ≤ word) (h1 : word < 0x10000)
    (h : form.Fits word) (hother : other.Fits word) : form = other := by
  rw [← Form.ofWord?_eq_some_iff_fits h0 h1] at h hother
  exact Option.some.inj (h.symm.trans hother)

namespace Operands

/-- Operands are read off the last three digits. -/
theorem ofWord_congr {v w : Int} (h : v % 0x1000 = w % 0x1000) : ofWord v = ofWord w := by
  rw [ofWord, ofWord, mk.injEq]
  simp only [Fin.mk.injEq]
  refine ⟨?_, ?_, ?_, congrArg (fun n : Int => UInt8.ofNat n.toNat) ?_, ?_⟩ <;> omega

theorem x_ofWord (word : Int) : ((ofWord word).x.val : Int) = word / 0x100 % 0x10 :=
  Int.toNat_of_nonneg (Int.emod_nonneg _ (by decide))

theorem n_ofWord (word : Int) : ((ofWord word).n.val : Int) = word % 0x10 :=
  Int.toNat_of_nonneg (Int.emod_nonneg _ (by decide))

end Operands

namespace Instruction

variable {word : Int}

/-- A word stands for an instruction if it is written in the pattern of its form and has its operands. -/
theorem ofWord?_eq_some_iff (h0 : 0 ≤ word) (h1 : word < 0x10000) (i : Instruction) :
    ofWord? word = some i ↔ i.form.Fits word ∧ i.operands = Operands.ofWord word := by
  rw [← Form.ofWord?_eq_some_iff_fits h0 h1, ofWord?, Option.map_eq_some_iff]
  constructor
  · rintro ⟨form, hform, rfl⟩
    exact ⟨hform, rfl⟩
  · rintro ⟨hform, hoperands⟩
    exact ⟨i.form, hform, by rw [← hoperands]⟩

/-- A word in the pattern of a form stands for an instruction of that form. -/
theorem ofWord?_of_fits {form : Form} (h : form.Fits word) :
    ofWord? word = some ⟨form, Operands.ofWord word⟩ := by
  obtain ⟨h0, h1⟩ := h.bounds
  exact (ofWord?_eq_some_iff h0 h1 _).mpr ⟨h, rfl⟩

/-- A word stands for no instruction exactly if it fits no pattern. -/
theorem ofWord?_eq_none_iff (h0 : 0 ≤ word) (h1 : word < 0x10000) :
    ofWord? word = none ↔ ∀ form : Form, ¬ form.Fits word := by
  rw [ofWord?, Option.map_eq_none_iff, Option.eq_none_iff_forall_ne_some]
  exact forall_congr' fun form => not_congr (Form.ofWord?_eq_some_iff_fits h0 h1 form)

end Instruction

end Chip8
