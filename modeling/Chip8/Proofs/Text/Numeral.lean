import Chip8.Proofs.Text.Integer
import Mathlib.Algebra.Group.Nat.Defs
import Mathlib.Data.List.Induction

/-!
# The grammar of numbers in base sixteen

Which texts are read as numbers in base sixteen, and as which. `Numeral` says so without reading anything:
a text stands for a number if it is made of blanks, a sign or none, the mark of the base or none, digits
with single low lines between them, and blanks again. `read?` accepts these texts and no others, with the
numbers that they stand for (`read?_hexadecimal_iff`).

In one direction each stage of reading tells what it has taken off the text. In the other one it has to be
seen that no stage takes off too much or too little, however the text is made up. That is a matter of the
characters: what a stage takes off is never a digit, and a digit is what each part but the first begins
with.
-/

namespace Chip8.Text.Integer

/-- Digits with single low lines between them, and the values of the digits. -/
inductive Run (digit? : Char → Option Nat) : List Char → List Nat → Prop
  | last {c : Char} {d : Nat} (hdigit : digit? c = some d) : Run digit? [c] [d]
  | next {c : Char} {d : Nat} {rest : List Char} {ds : List Nat} (hdigit : digit? c = some d)
    (hrest : Run digit? rest ds) : Run digit? (c :: rest) (d :: ds)
  | gap {c : Char} {d : Nat} {rest : List Char} {ds : List Nat} (hdigit : digit? c = some d)
    (hrest : Run digit? rest ds) : Run digit? (c :: '_' :: rest) (d :: ds)

/-- What may stand before the digits for the sign, and whether it makes the number negative. -/
inductive Sign : List Char → Bool → Prop
  | none : Sign [] false
  | plus : Sign ['+'] false
  | minus : Sign ['-'] true

/-- What may stand before the digits for the base. -/
inductive Mark : List Char → Prop
  | none : Mark []
  | plain {z x : Char} (hzero : DecimalDigit.value? z = some 0) (hx : x = 'x' ∨ x = 'X') : Mark [z, x]
  | lined {z x : Char} (hzero : DecimalDigit.value? z = some 0) (hx : x = 'x' ∨ x = 'X') :
    Mark [z, x, '_']

/-- The number with the given sign and digits. -/
def signed (negative : Bool) (digits : List Nat) : Int :=
  if negative then -(ofDigits 16 digits : Int) else ofDigits 16 digits

/-- The texts that stand for numbers in base sixteen, and the numbers that they stand for. -/
inductive Numeral : List Char → Int → Prop
  | made {lead sign mark body trail : List Char} {negative : Bool} {digits : List Nat}
    (hlead : ∀ c ∈ lead, isBlank c = true) (hsign : Sign sign negative) (hmark : Mark mark)
    (hbody : Run (Radix.digit? .hexadecimal) body digits) (htrail : ∀ c ∈ trail, isBlank c = true) :
    Numeral (lead ++ (sign ++ (mark ++ body)) ++ trail) (signed negative digits)

/-! ### Runs of digits -/

section Runs

variable {digit? : Char → Option Nat} {text rest : List Char} {digits : List Nat}

/-- A run begins with a digit. -/
theorem Run.exists_first (h : Run digit? text digits) :
    ∃ c d rest, text = c :: rest ∧ digit? c = some d := by
  cases h with
  | last hdigit => exact ⟨_, _, _, rfl, hdigit⟩
  | next hdigit => exact ⟨_, _, _, rfl, hdigit⟩
  | gap hdigit => exact ⟨_, _, _, rfl, hdigit⟩

/-- A run ends with a digit. -/
theorem Run.exists_last (h : Run digit? text digits) :
    ∃ init c d, text = init ++ [c] ∧ digit? c = some d := by
  induction h with
  | @last c d hdigit => exact ⟨[], c, d, rfl, hdigit⟩
  | @next c _ _ _ _ _ ih =>
    obtain ⟨init, last, d, rfl, hlast⟩ := ih
    exact ⟨c :: init, last, d, rfl, hlast⟩
  | @gap c _ _ _ _ _ ih =>
    obtain ⟨init, last, d, rfl, hlast⟩ := ih
    exact ⟨c :: '_' :: init, last, d, rfl, hlast⟩

/-- Behind the first digit of a run comes a digit or a low line, if anything. -/
theorem Run.second {c c' : Char} (h : Run digit? (c :: c' :: rest) digits) :
    c' = '_' ∨ (digit? c').isSome := by
  -- Behind the first digit the run goes on with another one, unless there is a low line between them.
  cases h with
  | next _ hrest =>
    obtain ⟨_, d, _, heq, hdigit⟩ := hrest.exists_first
    obtain ⟨rfl, -⟩ := List.cons.inj heq
    exact .inr (Option.isSome_of_eq_some hdigit)
  | gap => exact .inl rfl

theorem Run.length_le (h : Run digit? text digits) : digits.length ≤ text.length := by
  induction h with
  | last => exact Nat.le_refl _
  | next _ _ ih => exact Nat.succ_le_succ ih
  | gap _ _ ih => exact Nat.succ_le_succ (Nat.le_succ_of_le ih)

/-- What is read as digits is a run. -/
theorem run_of_digitRun? (h : digitRun? digit? text = some digits) : Run digit? text digits := by
  -- By the recursion that reads the digits: nothing, a last character, one before a low line, and one
  -- before anything else.
  induction text using digitRun?.induct generalizing digits with
  | case1 => cases h
  | case2 c =>
    obtain ⟨d, hdigit, rfl⟩ := Option.map_eq_some_iff.mp h
    exact .last hdigit
  | case3 c rest ih =>
    obtain ⟨d, hdigit, hrest⟩ := Option.bind_eq_some_iff.mp h
    obtain ⟨ds, hds, heq⟩ := Option.bind_eq_some_iff.mp hrest
    cases heq
    exact .gap hdigit (ih hds)
  | case4 c rest hne hline ih =>
    cases rest with
    | nil => exact absurd rfl hne
    | cons c' rest =>
      rw [digitRun?_cons fun heq => hline rest (by rw [heq])] at h
      obtain ⟨d, hdigit, hrest⟩ := Option.bind_eq_some_iff.mp h
      obtain ⟨ds, hds, heq⟩ := Option.bind_eq_some_iff.mp hrest
      cases heq
      exact .next hdigit (ih hds)

/-- A run is read if the low line is no digit. -/
theorem Run.digitRun? (hline : digit? '_' = none) (h : Run digit? text digits) :
    digitRun? digit? text = some digits := by
  induction h with
  | last hdigit => rw [Integer.digitRun?, hdigit, Option.map_some]
  | next hdigit hrest ih =>
    obtain ⟨c', d', rest', rfl, hdigit'⟩ := hrest.exists_first
    -- The next character is a digit and so no low line, which decides how reading goes on.
    have hne : c' ≠ '_' := by
      rintro rfl
      rw [hline] at hdigit'
      cases hdigit'
    rw [digitRun?_cons hne, hdigit, ih]
    rfl
  | gap hdigit hrest ih =>
    rw [Integer.digitRun?, hdigit, ih]
    rfl

end Runs

/-! ### Digits of base sixteen among other characters -/

/-- A letter stands for a number below sixteen. -/
theorem letterValue?_lt {c : Char} {d : Nat} (h : letterValue? c = some d) : d < 16 := by
  unfold letterValue? at h
  split at h
  case isTrue hsmall =>
    cases h
    have hle : c.toNat ≤ 'f'.toNat := hsmall.2
    have hf : 'f'.toNat = 102 := rfl
    have ha : 'a'.toNat = 97 := rfl
    omega
  case isFalse =>
    split at h
    case isTrue hcapital =>
      cases h
      have hle : c.toNat ≤ 'F'.toNat := hcapital.2
      have hf : 'F'.toNat = 70 := rfl
      have ha : 'A'.toNat = 65 := rfl
      omega
    case isFalse => cases h

/-- So does every digit of base sixteen, of whatever script. -/
theorem digit?_lt {c : Char} {d : Nat} (h : Radix.digit? .hexadecimal c = some d) : d < 16 := by
  rcases Option.or_eq_some_iff.mp h with hvalue | ⟨-, hletter⟩
  · exact Nat.lt_trans (DecimalDigit.value?_lt hvalue) (by decide)
  · exact letterValue?_lt hletter

theorem digit?_of_value? {c : Char} {d : Nat} (h : DecimalDigit.value? c = some d) :
    Radix.digit? .hexadecimal c = some d :=
  Option.or_eq_some_iff.mpr (.inl h)

/-- No script has its digits among the blanks. -/
theorem value?_of_isBlank {c : Char} (h : isBlank c = true) : DecimalDigit.value? c = none := by
  -- The blanks lie in a few ranges, and each script has its ten digits beside all of them.
  have hapart : ∀ z ∈ DecimalDigit.zeros, (0x21 ≤ z ∧ z + 10 ≤ 0x85 ∨ 0xA1 ≤ z) ∧
      (z + 10 ≤ 0x1680 ∨ 0x1681 ≤ z) ∧ (z + 10 ≤ 0x2000 ∨ 0x3001 ≤ z) := by decide
  refine List.findSome?_eq_none_iff.mpr fun z hz => if_neg ?_
  obtain ⟨hascii, hogham, hspaces⟩ := hapart z hz
  simp only [isBlank, Bool.or_eq_true, Bool.and_eq_true, beq_iff_eq, decide_eq_true_eq] at h
  omega

theorem letterValue?_of_isBlank {c : Char} (h : isBlank c = true) : letterValue? c = none := by
  have hletters : ¬ ('a'.toNat ≤ c.toNat ∧ c.toNat ≤ 'f'.toNat) ∧
      ¬ ('A'.toNat ≤ c.toNat ∧ c.toNat ≤ 'F'.toNat) := by
    simp only [isBlank, Bool.or_eq_true, Bool.and_eq_true, beq_iff_eq, decide_eq_true_eq] at h
    have hcodes : 'a'.toNat = 97 ∧ 'f'.toNat = 102 ∧ 'A'.toNat = 65 ∧ 'F'.toNat = 70 :=
      ⟨rfl, rfl, rfl, rfl⟩
    omega
  rw [letterValue?]
  exact (if_neg hletters.1).trans (if_neg hletters.2)

/-- A digit is no blank. -/
theorem isBlank_of_digit? {c : Char} {d : Nat} (h : Radix.digit? .hexadecimal c = some d) :
    isBlank c = false := by
  cases hblank : isBlank c with
  | false => rfl
  | true =>
    have hnone : Radix.digit? .hexadecimal c = none :=
      Option.or_eq_none_iff.mpr ⟨value?_of_isBlank hblank, letterValue?_of_isBlank hblank⟩
    rw [hnone] at h
    cases h

/-- A character that is no digit is not the digit at hand. -/
theorem ne_of_digit? {c other : Char} {d : Nat} (h : Radix.digit? .hexadecimal c = some d)
    (hother : Radix.digit? .hexadecimal other = none) : c ≠ other := by
  rintro rfl
  rw [h] at hother
  cases hother

/-! ### Taking off blanks, sign and mark -/

/-- Trimming takes blanks off both ends, and nothing else. -/
theorem exists_trim (text : List Char) :
    ∃ lead trail, (∀ c ∈ lead, isBlank c = true) ∧ (∀ c ∈ trail, isBlank c = true) ∧
      text = lead ++ trim text ++ trail := by
  -- The blanks at the end are those at the beginning of the text read backwards.
  have hfront := List.takeWhile_append_dropWhile (p := isBlank) (l := text)
  have hback := List.takeWhile_append_dropWhile (p := isBlank) (l := (text.dropWhile isBlank).reverse)
  refine ⟨text.takeWhile isBlank, ((text.dropWhile isBlank).reverse.takeWhile isBlank).reverse,
    fun c hc => List.mem_takeWhile_imp hc,
    fun c hc => List.mem_takeWhile_imp (List.mem_reverse.mp hc), ?_⟩
  rw [List.append_assoc, trim, ← List.reverse_append, hback, List.reverse_reverse, hfront]

/-- Trimming takes off the blanks around what begins and ends with other characters. -/
theorem trim_of_ends {lead trail rest init : List Char} {first last : Char}
    (hlead : ∀ c ∈ lead, isBlank c = true) (htrail : ∀ c ∈ trail, isBlank c = true)
    (hfirst : isBlank first = false) (hlast : isBlank last = false)
    (hends : first :: rest = init ++ [last]) :
    trim (lead ++ (first :: rest) ++ trail) = first :: rest := by
  -- From the front the first character stops it, and from the back the last one does.
  have hfront : (lead ++ ((first :: rest) ++ trail)).dropWhile isBlank = first :: rest ++ trail := by
    rw [List.dropWhile_append_of_pos hlead, List.cons_append, List.dropWhile_cons_of_neg]
    rw [hfirst]
    exact Bool.false_ne_true
  have hback : (trail.reverse ++ (init ++ [last]).reverse).dropWhile isBlank =
      (init ++ [last]).reverse := by
    rw [List.dropWhile_append_of_pos fun c hc => htrail c (List.mem_reverse.mp hc),
      List.reverse_concat, List.dropWhile_cons_of_neg]
    rw [hlast]
    exact Bool.false_ne_true
  rw [trim, List.append_assoc, hfront, List.reverse_append, hends, hback, List.reverse_reverse]

/-- What is taken off for the sign is a sign or nothing. -/
theorem sign_splitSign (text : List Char) :
    ∃ sign, Sign sign (splitSign text).1 ∧ text = sign ++ (splitSign text).2 := by
  fun_cases splitSign text with
  | case1 rest => exact ⟨['-'], .minus, rfl⟩
  | case2 rest => exact ⟨['+'], .plus, rfl⟩
  | case3 => exact ⟨[], .none, rfl⟩

/-- The sign is taken off before a digit. -/
theorem splitSign_append {sign rest : List Char} {negative : Bool} {c : Char} {d : Nat}
    (hsign : Sign sign negative) (h : Radix.digit? .hexadecimal c = some d) :
    splitSign (sign ++ c :: rest) = (negative, c :: rest) := by
  cases hsign with
  | plus => rfl
  | minus => rfl
  | none =>
    -- A digit is neither of the two signs, and so it is left alone.
    have hminus : c ≠ '-' := ne_of_digit? h (by decide)
    have hplus : c ≠ '+' := ne_of_digit? h (by decide)
    rw [List.nil_append, splitSign]
    · intro rest' heq
      exact hminus (List.cons.inj heq).1
    · intro rest' heq
      exact hplus (List.cons.inj heq).1

/-- What is taken off for the base is a mark or nothing. -/
theorem mark_dropMark (text : List Char) : ∃ mark, Mark mark ∧ text = mark ++ dropMark text := by
  fun_cases dropMark text with
  | case1 z x hmark => exact ⟨[z, x, '_'], .lined hmark.1 hmark.2, rfl⟩
  | case2 z x hmark => exact ⟨[z, x], .plain hmark.1 hmark.2, rfl⟩
  | case3 => exact ⟨[], .none, rfl⟩
  | case4 => exact ⟨[], .none, rfl⟩

/-- The mark is taken off before a run of digits. -/
theorem dropMark_append {mark body : List Char} {digits : List Nat} (hmark : Mark mark)
    (hbody : Run (Radix.digit? .hexadecimal) body digits) : dropMark (mark ++ body) = body := by
  obtain ⟨c, d, rest, rfl, hdigit⟩ := hbody.exists_first
  cases hmark with
  | none =>
    cases rest with
    | nil => rfl
    | cons c' rest =>
      -- What would be the second character of a mark can be neither a digit nor a low line.
      refine if_neg fun hmarked => ?_
      have hsecond := hbody.second
      rcases hmarked.2 with rfl | rfl
      · revert hsecond
        decide
      · revert hsecond
        decide
  | @plain z x hzero hx =>
    -- Behind a mark without a low line comes a digit, which is none.
    have hline : c ≠ '_' := ne_of_digit? hdigit (by decide)
    change (if _ then _ else _) = _
    rw [if_pos ⟨hzero, hx⟩]
    split
    · rename_i heq
      exact absurd (List.cons.inj heq).1 hline
    · rfl
  | @lined z x hzero hx => exact if_pos ⟨hzero, hx⟩

/-- A mark or none, and digits behind it, begin with a digit and end with one. -/
theorem exists_ends {mark body : List Char} {digits : List Nat} (hmark : Mark mark)
    (hbody : Run (Radix.digit? .hexadecimal) body digits) :
    (∃ c d rest, mark ++ body = c :: rest ∧ Radix.digit? .hexadecimal c = some d) ∧
      ∃ init c d, mark ++ body = init ++ [c] ∧ Radix.digit? .hexadecimal c = some d := by
  constructor
  · cases hmark with
    | none => exact hbody.exists_first
    | plain hzero => exact ⟨_, _, _, rfl, digit?_of_value? hzero⟩
    | lined hzero => exact ⟨_, _, _, rfl, digit?_of_value? hzero⟩
  · obtain ⟨init, c, d, rfl, hdigit⟩ := hbody.exists_last
    exact ⟨mark ++ init, c, d, (List.append_assoc ..).symm, hdigit⟩

/-! ### Reading and the grammar -/

/-- Reading takes off blanks, sign and mark, and then reads digits. -/
theorem read?_hexadecimal_eq (text : List Char) :
    read? .hexadecimal text =
      (digitRun? (Radix.digit? .hexadecimal) (dropMark (splitSign (trim text)).2)).map
        (signed (splitSign (trim text)).1) := by
  rw [read?]
  generalize splitSign (trim text) = split
  obtain ⟨negative, unsigned⟩ := split
  dsimp only
  cases digitRun? (Radix.digit? .hexadecimal) (dropMark unsigned) <;> rfl

/-- A text of the grammar is read as the number that it stands for. -/
theorem Numeral.read? {text : List Char} {n : Int} (h : Numeral text n) :
    read? .hexadecimal text = some n := by
  obtain @⟨lead, sign, mark, body, trail, negative, digits, hlead, hsign, hmark, hbody, htrail⟩ := h
  obtain ⟨⟨first, d, rest, hfront, hfirst⟩, init, last, d', hback, hlast⟩ := exists_ends hmark hbody
  -- The sign comes before a digit, and so the whole begins and ends with no blank.
  have htrim : trim (lead ++ (sign ++ (mark ++ body)) ++ trail) = sign ++ (mark ++ body) := by
    have hblank := isBlank_of_digit? hlast
    cases hsign with
    | none =>
      rw [List.nil_append, hfront]
      exact trim_of_ends hlead htrail (isBlank_of_digit? hfirst) hblank (hfront.symm.trans hback)
    | plus =>
      have hends : '+' :: (mark ++ body) = ('+' :: init) ++ [last] := congrArg ('+' :: ·) hback
      exact trim_of_ends hlead htrail (by decide) hblank hends
    | minus =>
      have hends : '-' :: (mark ++ body) = ('-' :: init) ++ [last] := congrArg ('-' :: ·) hback
      exact trim_of_ends hlead htrail (by decide) hblank hends
  -- With or without a mark, a digit is what the sign stands before.
  have hsplit : splitSign (sign ++ (mark ++ body)) = (negative, mark ++ body) := by
    rw [hfront]
    exact splitSign_append hsign hfirst
  rw [read?_hexadecimal_eq, htrim, hsplit, dropMark_append hmark hbody, hbody.digitRun? (by decide)]
  rfl

/-- **What is read in base sixteen** are the texts of the grammar, as the numbers that they stand for. -/
theorem read?_hexadecimal_iff {text : List Char} {n : Int} :
    read? .hexadecimal text = some n ↔ Numeral text n := by
  refine ⟨fun h => ?_, Numeral.read?⟩
  rw [read?_hexadecimal_eq] at h
  obtain ⟨digits, hdigits, rfl⟩ := Option.map_eq_some_iff.mp h
  -- Each stage gives back what it has taken off, and together this is the text.
  obtain ⟨lead, trail, hlead, htrail, htext⟩ := exists_trim text
  obtain ⟨sign, hsign, htrim⟩ := sign_splitSign (trim text)
  obtain ⟨mark, hmark, hunsigned⟩ := mark_dropMark (splitSign (trim text)).2
  have hmade := Numeral.made hlead hsign hmark (run_of_digitRun? hdigits) htrail
  rwa [← hunsigned, ← htrim, ← htext] at hmade

/-! ### How large a number is -/

/-- The last digit counts for itself, and the others for the base times as much. -/
theorem ofDigits_concat (base : Nat) (digits : List Nat) (d : Nat) :
    ofDigits base (digits ++ [d]) = ofDigits base digits * base + d := by
  rw [ofDigits, List.foldl_append]
  rfl

/-- A number is less than the power of the base with as many digits. -/
theorem ofDigits_lt {base : Nat} {digits : List Nat} (h : ∀ d ∈ digits, d < base) :
    ofDigits base digits < base ^ digits.length := by
  -- The digits are added at the end, as the number is made up.
  induction digits using List.reverseRecOn with
  | nil => exact Nat.one_pos
  | append_singleton digits d ih =>
    have hlast : d < base := h d (by simp)
    have hothers := ih fun d' hd' => h d' (List.mem_append_left _ hd')
    rw [ofDigits_concat, List.length_append, List.length_singleton, Nat.pow_succ]
    calc ofDigits base digits * base + d
        < ofDigits base digits * base + base := Nat.add_lt_add_left hlast _
      _ = (ofDigits base digits + 1) * base := (Nat.succ_mul _ _).symm
      _ ≤ base ^ digits.length * base := Nat.mul_le_mul_right base hothers

/-- The values of a run are below the base. -/
theorem Run.lt {text : List Char} {digits : List Nat}
    (h : Run (Radix.digit? .hexadecimal) text digits) : ∀ d ∈ digits, d < 16 := by
  induction h with
  | last hdigit => exact List.forall_mem_singleton.mpr (digit?_lt hdigit)
  | next hdigit _ ih => exact List.forall_mem_cons.mpr ⟨digit?_lt hdigit, ih⟩
  | gap hdigit _ ih => exact List.forall_mem_cons.mpr ⟨digit?_lt hdigit, ih⟩

/-- A text of some characters stands for no number of more digits. -/
theorem Numeral.natAbs_lt {text : List Char} {n : Int} (h : Numeral text n) :
    n.natAbs < 16 ^ text.length := by
  obtain @⟨lead, sign, mark, body, trail, negative, digits, -, -, -, hbody, -⟩ := h
  have hdigits : (signed negative digits).natAbs = ofDigits 16 digits := by
    cases negative
    · rfl
    · exact Int.natAbs_neg _
  -- Low lines, blanks, sign and mark only make the text longer.
  have hlength : digits.length ≤ (lead ++ (sign ++ (mark ++ body)) ++ trail).length := by
    have hle := hbody.length_le
    simp only [List.length_append]
    omega
  calc (signed negative digits).natAbs
      = ofDigits 16 digits := hdigits
    _ < 16 ^ digits.length := ofDigits_lt hbody.lt
    _ ≤ 16 ^ _ := Nat.pow_le_pow_right (by decide) hlength

end Chip8.Text.Integer
