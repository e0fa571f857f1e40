import Chip8.Text.Integer
import Mathlib.Data.List.TakeWhile

/-!
# Integers read back

A number written in the usual digits is read as itself, unless it has more digits than may be read
(`read?_toString`). Such a number has no blanks around it and no low lines in it, and its sign is the
first character or there is none; so none of what reading allows besides digits takes part.
-/

namespace Chip8.Text.Integer

/-! ### Usual digits -/

/-- The usual digits stand side by side among the characters. -/
theorem toNat_of_isDigit {c : Char} (h : c.isDigit = true) : 48 ≤ c.toNat ∧ c.toNat ≤ 57 :=
  Char.isDigit_iff_toNat.mp h

/-- A usual digit is read as the number that it stands for. -/
theorem value?_of_isDigit {c : Char} (h : c.isDigit = true) :
    DecimalDigit.value? c = some (c.toNat - '0'.toNat) := by
  obtain ⟨hlow, hhigh⟩ := toNat_of_isDigit h
  have hin : 0x30 ≤ c.toNat ∧ c.toNat < 0x30 + 10 := ⟨hlow, by omega⟩
  -- The first script of the table has these digits.
  rw [DecimalDigit.value?, DecimalDigit.zeros, List.findSome?_cons, if_pos hin]
  rfl

theorem isBlank_of_isDigit {c : Char} (h : c.isDigit = true) : isBlank c = false := by
  obtain ⟨hlow, hhigh⟩ := toNat_of_isDigit h
  simp only [isBlank, Bool.or_eq_false_iff, Bool.and_eq_false_iff, beq_eq_false_iff_ne,
    decide_eq_false_iff_not]
  omega

/-- A digit differs from any character that is none, such as a sign or a low line. -/
theorem ne_of_isDigit {c d : Char} (h : c.isDigit = true) (hd : d.isDigit = false) : c ≠ d := by
  rintro rfl
  rw [h] at hd
  cases hd

/-! ### Rows of digits -/

theorem trim_of_notBlank {text : List Char} (h : ∀ c ∈ text, isBlank c = false) :
    trim text = text := by
  -- Trimming drops blanks from either end, and so the same fact is used of the text and of its reverse.
  have hdrop : ∀ text : List Char, (∀ c ∈ text, isBlank c = false) →
      text.dropWhile isBlank = text := by
    intro text hall
    refine List.dropWhile_eq_self_iff.mpr fun hpos => ?_
    rw [hall _ (List.getElem_mem hpos)]
    exact Bool.false_ne_true
  rw [trim, hdrop text h, hdrop text.reverse fun c hc => h c (List.mem_reverse.mp hc),
    List.reverse_reverse]

/-- A digit before anything but a low line. -/
theorem digitRun?_cons {digit? : Char → Option Nat} {c c' : Char} {rest : List Char} (h : c' ≠ '_') :
    digitRun? digit? (c :: c' :: rest) =
      (digit? c).bind fun d => (digitRun? digit? (c' :: rest)).bind fun ds => some (d :: ds) := by
  rw [digitRun?]
  · rfl
  · exact List.cons_ne_nil _ _
  · intro rest' heq
    exact h (List.cons.inj heq).1

/-- A row of usual digits is read as such, each as its value. -/
theorem digitRun?_of_isDigit {text : List Char} (hne : text ≠ []) (h : ∀ c ∈ text, c.isDigit = true) :
    digitRun? DecimalDigit.value? text = some (text.map fun c => c.toNat - '0'.toNat) := by
  induction text with
  | nil => exact absurd rfl hne
  | cons c rest ih =>
    obtain ⟨hc, hrest⟩ := List.forall_mem_cons.mp h
    -- Reading looks one character ahead, for a low line; behind the last digit there is nothing to look
    -- at.
    cases rest with
    | nil =>
      rw [digitRun?, value?_of_isDigit hc]
      rfl
    | cons c' rest =>
      have hline : c' ≠ '_' := ne_of_isDigit (hrest c' (List.mem_cons_self ..)) (by decide)
      rw [digitRun?_cons hline, value?_of_isDigit hc, ih (List.cons_ne_nil _ _) hrest]
      rfl

/-- The values of a row of digits make up the number that the library reads off the row. -/
theorem ofDigits_map (text : List Char) :
    ofDigits 10 (text.map fun c => c.toNat - '0'.toNat) = Nat.ofDigitChars 10 text 0 := by
  rw [ofDigits, List.foldl_map, Nat.ofDigitChars]
  congr 1
  funext n c
  rw [Nat.mul_comm]

/-! ### Whole numbers -/

/-- Digits with nothing but a sign before them. -/
theorem read?_of_splitSign {text digits : List Char} {negative : Bool}
    (hblank : ∀ c ∈ text, isBlank c = false) (hsign : splitSign text = (negative, digits))
    (hne : digits ≠ []) (hdigits : ∀ c ∈ digits, c.isDigit = true) :
    read? .decimal text =
      if digits.length ≤ digitLimit then
        some (if negative then -(Nat.ofDigitChars 10 digits 0 : Int) else Nat.ofDigitChars 10 digits 0)
      else none := by
  have hrun : digitRun? Radix.decimal.digit? digits =
      some (digits.map fun c => c.toNat - '0'.toNat) :=
    digitRun?_of_isDigit hne hdigits
  have hvalue : ofDigits Radix.decimal.size (digits.map fun c => c.toNat - '0'.toNat) =
      Nat.ofDigitChars 10 digits 0 :=
    ofDigits_map digits
  simp only [read?, trim_of_notBlank hblank, hsign, hrun, Option.bind_eq_bind, Option.bind_some,
    List.length_map, hvalue, true_and]
  -- The one thing that may still be wrong with such a text is its length.
  by_cases hlimit : digits.length ≤ digitLimit
  · rw [if_pos hlimit, if_neg (Nat.not_lt.mpr hlimit)]
    rfl
  · rw [if_neg hlimit, if_pos (Nat.lt_of_not_le hlimit)]

/-- A number is written in usual digits. -/
theorem isDigit_of_mem_toDigits {n : Nat} {c : Char} (h : c ∈ Nat.toDigits 10 n) : c.isDigit = true :=
  Nat.isDigit_of_mem_toDigits (by decide) (by decide) h

/-- Every number has a digit, zero among them. -/
theorem toDigits_ne_nil (n : Nat) : Nat.toDigits 10 n ≠ [] :=
  List.ne_nil_of_length_pos Nat.length_toDigits_pos

/-- What is written of an integer: a sign, if it is negative, and the digits of its magnitude. -/
theorem toList_toString (n : Int) :
    (toString n).toList = (if n < 0 then ['-'] else []) ++ Nat.toDigits 10 n.natAbs := by
  cases n with
  | ofNat k =>
    have hsign : ¬ Int.ofNat k < 0 := Int.not_lt.mpr (Int.natCast_nonneg k)
    rw [if_neg hsign]
    exact Nat.toList_repr
  | negSucc k =>
    rw [if_pos (Int.negSucc_lt_zero k), Int.toString_eq_repr, Int.repr, String.toList_append,
      Nat.toList_repr]
    rfl

theorem mem_toString {n : Int} {c : Char} (h : c ∈ (toString n).toList) :
    c = '-' ∨ c.isDigit = true := by
  rw [toList_toString] at h
  rcases List.mem_append.mp h with hsign | hdigit
  · split at hsign
    · exact .inl (List.mem_singleton.mp hsign)
    · exact absurd hsign List.not_mem_nil
  · exact .inr (isDigit_of_mem_toDigits hdigit)

/-- The sign is taken off what is written, and leaves the digits. -/
theorem splitSign_toString (n : Int) :
    splitSign (toString n).toList = (decide (n < 0), Nat.toDigits 10 n.natAbs) := by
  rw [toList_toString]
  by_cases hneg : n < 0
  · rw [if_pos hneg, decide_eq_true hneg]
    rfl
  · rw [if_neg hneg, decide_eq_false hneg, List.nil_append]
    -- The first character is a digit, and so no sign.
    obtain ⟨c, rest, heq⟩ := List.exists_cons_of_ne_nil (toDigits_ne_nil n.natAbs)
    have hc : c.isDigit = true := isDigit_of_mem_toDigits (heq ▸ List.mem_cons_self ..)
    rw [heq, splitSign]
    · intro rest' h
      exact ne_of_isDigit hc (by decide) (List.cons.inj h).1
    · intro rest' h
      exact ne_of_isDigit hc (by decide) (List.cons.inj h).1

/-- **What is written is read**, if it has no more digits than may be read. -/
theorem read?_toString (n : Int) :
    read? .decimal (toString n).toList =
      if (Nat.toDigits 10 n.natAbs).length ≤ digitLimit then some n else none := by
  have hblank : ∀ c ∈ (toString n).toList, isBlank c = false := by
    intro c hc
    rcases mem_toString hc with rfl | hdigit
    · decide
    · exact isBlank_of_isDigit hdigit
  have hvalue : Nat.ofDigitChars 10 (Nat.toDigits 10 n.natAbs) 0 = n.natAbs :=
    Nat.ofDigitChars_toDigits (by decide) (by decide)
  have hsigned : (if decide (n < 0) then -(n.natAbs : Int) else n.natAbs) = n := by
    by_cases hneg : n < 0
    · rw [if_pos (decide_eq_true hneg)]
      omega
    · rw [if_neg (by rwa [decide_eq_true_eq])]
      omega
  -- Read as a magnitude with a sign, and the two put together again.
  rw [read?_of_splitSign hblank (splitSign_toString n) (toDigits_ne_nil _)
    fun c hc => isDigit_of_mem_toDigits hc, hvalue, hsigned]

end Chip8.Text.Integer
