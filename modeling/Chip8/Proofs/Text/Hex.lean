import Chip8.Text.Hex
import Mathlib.Algebra.Group.Nat.Defs

/-!
# Reading hexadecimal text

What the digits of a number tell about it. A padded number reads back as itself, whatever width it was
padded to (`value_paddedChars`), so that two numbers with the same text are equal
(`eq_of_paddedChars_eq`), whatever their signs (`paddedChars_injective`). A number with few enough digits
fills its width exactly (`length_paddedChars`), which is what separates neighbouring fields of a text from
each other; so the two digits of each byte in a row tell the bytes (`ofBytes_injective`).
-/

namespace Chip8.Text.Hex

/-- A digit of lower-case hexadecimal. -/
def isDigit (c : Char) : Bool :=
  c.isDigit || ('a' ≤ c && c ≤ 'f')

/-- The value of such a digit. -/
def digitValue (c : Char) : Nat :=
  if c.isDigit then c.toNat - '0'.toNat else c.toNat - 'a'.toNat + 10

/-- The number that a row of digits stands for, most significant first. -/
def value (text : List Char) : Nat :=
  text.foldl (fun n c => 16 * n + digitValue c) 0

/-! ### Single digits -/

/-- The digit of a number below sixteen is a digit. -/
theorem isDigit_digit {d : Nat} (h : d < 16) : isDigit (digit d) = true := by
  have hall : ∀ d < 16, isDigit (digit d) = true := by decide
  exact hall d h

theorem digitValue_digit {d : Nat} (h : d < 16) : digitValue (digit d) = d := by
  have hall : ∀ d < 16, digitValue (digit d) = d := by decide
  exact hall d h

/-! ### Rows of digits -/

/-- The last digit counts for itself, and moves the others one place up. -/
theorem value_concat (text : List Char) (c : Char) :
    value (text ++ [c]) = 16 * value text + digitValue c := by
  simp only [value, List.foldl_append, List.foldl_cons, List.foldl_nil]

/-- Leading zeros count for nothing. -/
theorem value_replicate_append (count : Nat) (text : List Char) :
    value (List.replicate count '0' ++ text) = value text := by
  induction count with
  | zero => rfl
  | succ count ih =>
    rw [List.replicate_succ, List.cons_append]
    show value (List.replicate count '0' ++ text) = value text
    exact ih

/-- The digits of a number stand for it. -/
theorem value_digits (n : Nat) : value (digits n) = n := by
  -- By the recursion that writes the digits, which takes the last one off.
  induction n using digits.induct with
  | case1 n h =>
    rw [digits, if_pos h]
    show 16 * 0 + digitValue (digit n) = n
    rw [digitValue_digit h]
    omega
  | case2 n h ih =>
    rw [digits, if_neg h, value_concat, ih, digitValue_digit (Nat.mod_lt n (by decide))]
    omega

/-- Nothing else is written. -/
theorem isDigit_of_mem_digits {n : Nat} {c : Char} (h : c ∈ digits n) : isDigit c = true := by
  induction n using digits.induct with
  | case1 n hn =>
    rw [digits, if_pos hn, List.mem_singleton] at h
    rw [h, isDigit_digit hn]
  | case2 n hn ih =>
    rw [digits, if_neg hn, List.mem_append, List.mem_singleton] at h
    rcases h with h | rfl
    · exact ih h
    · exact isDigit_digit (Nat.mod_lt n (by decide))

/-- A number below a power of sixteen has no more digits than the exponent says. -/
theorem length_digits_le {n width : Nat} (hwidth : 0 < width) (h : n < 16 ^ width) :
    (digits n).length ≤ width := by
  induction n using digits.induct generalizing width with
  | case1 n hn =>
    rw [digits, if_pos hn]
    exact hwidth
  | case2 n hn ih =>
    -- More than one digit: the last one takes a place, and the others stand for a sixteenth.
    obtain ⟨rest, rfl⟩ : ∃ rest, width = rest + 1 := ⟨width - 1, by omega⟩
    have hrest : 0 < rest := by
      rcases Nat.eq_zero_or_pos rest with rfl | hpos
      · exact absurd h (by omega)
      · exact hpos
    have hsixteenth : n / 16 < 16 ^ rest := by
      rw [Nat.pow_succ] at h
      omega
    rw [digits, if_neg hn, List.length_append]
    exact Nat.succ_le_succ (ih hrest hsixteenth)

/-! ### Padded numbers -/

/-- A number that is not below zero is padded with zeros up to its width. -/
theorem paddedChars_natCast (width n : Nat) :
    paddedChars width n = List.replicate (width - (digits n).length) '0' ++ digits n := by
  have hnonneg : ¬ (n : Int) < 0 := by omega
  simp only [paddedChars, if_neg hnonneg, Int.natAbs_natCast]

@[simp] theorem toList_padded (width : Nat) (n : Int) : (padded width n).toList = paddedChars width n :=
  String.toList_ofList

/-- A padded number reads back as itself. -/
theorem value_paddedChars (width n : Nat) : value (paddedChars width n) = n := by
  rw [paddedChars_natCast, value_replicate_append, value_digits]

theorem eq_of_paddedChars_eq {width m n : Nat} (h : paddedChars width m = paddedChars width n) :
    m = n := by
  rw [← value_paddedChars width m, h, value_paddedChars]

/-- Padded or not, only digits are written. -/
theorem isDigit_of_mem_paddedChars {width n : Nat} {c : Char} (h : c ∈ paddedChars width n) :
    isDigit c = true := by
  rw [paddedChars_natCast, List.mem_append] at h
  rcases h with h | h
  · rw [List.eq_of_mem_replicate h]
    rfl
  · exact isDigit_of_mem_digits h

/-- A number that fits its width fills it. -/
theorem length_paddedChars {width n : Nat} (hwidth : 0 < width) (h : n < 16 ^ width) :
    (paddedChars width n).length = width := by
  have hle := length_digits_le hwidth h
  rw [paddedChars_natCast, List.length_append, List.length_replicate]
  omega

/-! ### Signs -/

/-- The characters of a number below zero: a sign, zeros, and the digits of its size. -/
theorem paddedChars_of_neg (width : Nat) {n : Int} (h : n < 0) :
    ∃ zeros, paddedChars width n = '-' :: (List.replicate zeros '0' ++ digits n.natAbs) :=
  ⟨_, by rw [paddedChars, if_pos h, List.cons_append]⟩

/-- With a number below zero there is a sign besides them. -/
theorem mem_paddedChars {width : Nat} {n : Int} {c : Char} (h : c ∈ paddedChars width n) :
    c = '-' ∨ isDigit c = true := by
  rcases Int.lt_or_le n 0 with hneg | hnonneg
  · obtain ⟨zeros, hchars⟩ := paddedChars_of_neg width hneg
    rw [hchars, List.mem_cons, List.mem_append] at h
    rcases h with rfl | h | h
    · exact .inl rfl
    · rw [List.eq_of_mem_replicate h]
      exact .inr rfl
    · exact .inr (isDigit_of_mem_digits h)
  · obtain ⟨k, rfl⟩ := Int.eq_ofNat_of_zero_le hnonneg
    exact .inr (isDigit_of_mem_paddedChars h)

/-- A number of either sign can be told from its text. -/
theorem paddedChars_injective (width : Nat) : Function.Injective (paddedChars width) := by
  -- Numbers of different signs are told apart by the sign, and those of the same by their digits.
  have hsign : ∀ {m n : Int}, m < 0 → 0 ≤ n → paddedChars width m ≠ paddedChars width n := by
    intro m n hneg hnonneg heq
    obtain ⟨k, rfl⟩ := Int.eq_ofNat_of_zero_le hnonneg
    obtain ⟨zeros, hchars⟩ := paddedChars_of_neg width hneg
    -- A sign is no digit.
    have hmem : '-' ∈ paddedChars width k := by
      rw [← heq, hchars]
      exact List.mem_cons_self
    exact absurd (isDigit_of_mem_paddedChars hmem) (by decide)
  intro m n heq
  rcases Int.lt_or_le m 0 with hm | hm
  · rcases Int.lt_or_le n 0 with hn | hn
    · obtain ⟨zeros, hchars⟩ := paddedChars_of_neg width hm
      obtain ⟨zeros', hchars'⟩ := paddedChars_of_neg width hn
      rw [hchars, hchars'] at heq
      -- How many zeros there are behind the sign does not matter to the size.
      have hvalue := congrArg value (List.cons.inj heq).2
      rw [value_replicate_append, value_replicate_append, value_digits, value_digits] at hvalue
      omega
    · exact absurd heq (hsign hm hn)
  · rcases Int.lt_or_le n 0 with hn | hn
    · exact absurd heq.symm (hsign hn hm)
    · obtain ⟨k, rfl⟩ := Int.eq_ofNat_of_zero_le hm
      obtain ⟨l, rfl⟩ := Int.eq_ofNat_of_zero_le hn
      exact congrArg Int.ofNat (eq_of_paddedChars_eq heq)

/-! ### Bytes -/

/-- Bytes can be told from their digits, two for each. -/
theorem ofBytes_injective : Function.Injective ofBytes := by
  intro bytes bytes' h
  replace h := String.ofList_injective h
  -- Each byte takes up two digits, so that the text is cut in one way only.
  have hlength : ∀ b : UInt8, (paddedChars 2 b.toNat).length = 2 := fun b =>
    length_paddedChars (by decide) b.toNat_lt
  induction bytes generalizing bytes' with
  | nil =>
    cases bytes' with
    | nil => rfl
    | cons b' rest' =>
      have hnone := congrArg List.length h
      rw [List.flatMap_cons, List.length_append, hlength, List.flatMap_nil, List.length_nil] at hnone
      omega
  | cons b rest ih =>
    cases bytes' with
    | nil =>
      have hnone := congrArg List.length h
      rw [List.flatMap_cons, List.length_append, hlength, List.flatMap_nil, List.length_nil] at hnone
      omega
    | cons b' rest' =>
      rw [List.flatMap_cons, List.flatMap_cons] at h
      obtain ⟨hfirst, hrest⟩ := List.append_inj h ((hlength b).trans (hlength b').symm)
      rw [UInt8.toNat_inj.mp (eq_of_paddedChars_eq hfirst), ih hrest]

end Chip8.Text.Hex
