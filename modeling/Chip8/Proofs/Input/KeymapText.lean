import Chip8.Input.Keymap
import Chip8.Proofs.Text.Integer
import Mathlib.Data.Set.Card

/-!
# What makes a keymap

Which texts are keymaps, which keymaps they are, and what is said about the others
(`Keymap.parse_exact`). All of it is told by the *values* of a text: for each field the number that
it stands for, or that it stands for none.

The values are read from the left with those before them in mind. As long as they are numbers, each
another, nothing is wrong with the text; the first value for which this fails is its first *offence*,
and a text has one at most (`Keymap.FirstOffence.unique`). One induction along the fields gives both
outcomes (`Keymap.readCodes_verdict`), and since no text can have both, each of them holds exactly if
it should.
-/

namespace Chip8

namespace Keymap

open Text.Integer (read? digitLimit)

/-- The numbers that the fields of a text stand for. -/
def values (text : String) : List (Option Int) :=
  (Text.fields ',' text.toList).map (read? .decimal)

/-- A keymap as a user may write it. -/
def text (m : Keymap) : String :=
  ",".intercalate (m.codes.map toString)

/-! ### Offences -/

/-- What is wrong with one of the values: it is no number, or a number that also stands further to the
left. -/
inductive Offends (values : List (Option Int)) (i : Nat) : KeymapError → Prop
  | number (h : values[i]? = some none) : Offends values i .number
  | duplicate {code : Int} {j : Nat} (hcode : values[i]? = some (some code)) (hj : j < i)
      (hseen : values[j]? = some (some code)) : Offends values i .duplicate

/-- The first of the values with which something is wrong. -/
structure FirstOffence (values : List (Option Int)) (i : Nat) (e : KeymapError) : Prop where
  offends : Offends values i e
  first : ∀ j < i, ∀ e', ¬ Offends values j e'

/-- A value is wrong for one reason only: what is no number cannot be a number seen before. -/
theorem Offends.unique {values : List (Option Int)} {i : Nat} {e e' : KeymapError}
    (h : Offends values i e) (h' : Offends values i e') : e = e' := by
  cases h with
  | number hnone =>
    cases h' with
    | number => rfl
    | duplicate hcode => exact absurd (hnone.symm.trans hcode) (by simp)
  | duplicate hcode =>
    cases h' with
    | number hnone => exact absurd (hnone.symm.trans hcode) (by simp)
    | duplicate => rfl

/-- A text has one first offence at most. -/
theorem FirstOffence.unique {values : List (Option Int)} {i i' : Nat} {e e' : KeymapError}
    (h : FirstOffence values i e) (h' : FirstOffence values i' e') : e = e' := by
  -- Of two offences in different places the one further to the right is not the first.
  rcases Nat.lt_trichotomy i i' with hlt | rfl | hlt
  · exact absurd h.offends (h'.first i hlt e)
  · exact h.offends.unique h'.offends
  · exact absurd h'.offends (h.first i' hlt e')

/-- The values that have been read as numbers stand before the rest. -/
theorem getElem?_map_some_append {before : List Int} {rest : List (Option Int)} {i : Nat}
    (hi : i < before.length) : (before.map some ++ rest)[i]? = some (some before[i]) := by
  rw [List.getElem?_append_left (by rwa [List.length_map]), List.getElem?_map,
    List.getElem?_eq_getElem hi]
  rfl

theorem getElem?_map_some_append_length (before : List Int) (value : Option Int)
    (rest : List (Option Int)) :
    (before.map some ++ value :: rest)[before.length]? = some value := by
  rw [List.getElem?_append_right (by rw [List.length_map]), List.length_map, Nat.sub_self]
  rfl

/-- Nothing is wrong with numbers that are all different, whatever comes behind them. -/
theorem not_offends_of_nodup {before : List Int} (hnodup : before.Nodup) (rest : List (Option Int))
    {i : Nat} (hi : i < before.length) (e : KeymapError) :
    ¬ Offends (before.map some ++ rest) i e := by
  intro h
  cases h with
  | number hnone =>
    rw [getElem?_map_some_append hi] at hnone
    cases hnone
  | @duplicate code j hcode hj hseen =>
    rw [getElem?_map_some_append hi] at hcode
    rw [getElem?_map_some_append (hj.trans hi)] at hseen
    have heq : before[j] = before[i] :=
      (Option.some.inj (Option.some.inj hseen)).trans (Option.some.inj (Option.some.inj hcode)).symm
    exact absurd (hnodup.getElem_inj_iff.mp heq) (Nat.ne_of_lt hj)

/-- The value behind codes that are all different is the first that can offend. -/
theorem FirstOffence.behind {before : List Int} (hnodup : before.Nodup) {rest : List (Option Int)}
    {e : KeymapError} (h : Offends (before.map some ++ rest) before.length e) :
    FirstOffence (before.map some ++ rest) before.length e :=
  ⟨h, fun _ hj => not_offends_of_nodup hnodup rest hj⟩

/-- A list of different codes has no offence in it. -/
theorem not_firstOffence_of_nodup {codes : List Int} (hnodup : codes.Nodup) (i : Nat)
    (e : KeymapError) : ¬ FirstOffence (codes.map some) i e := by
  intro h
  by_cases hi : i < codes.length
  · have hnone := not_offends_of_nodup hnodup [] hi e
    rw [List.append_nil] at hnone
    exact hnone h.offends
  · -- There is no value to be wrong.
    have hout : (codes.map some)[i]? = none := by
      rw [List.getElem?_eq_none_iff, List.length_map]
      exact Nat.le_of_not_lt hi
    cases h.offends with
    | number hvalue => cases hout.symm.trans hvalue
    | duplicate hcode => cases hout.symm.trans hcode

/-! ### Reading the codes -/

/-- What it takes for an outcome of reading to be right, if other codes have been read before. -/
def Verdict (before : List Int) (values : List (Option Int)) :
    Except KeymapError (List Int) → Prop
  | .ok codes => values = codes.map some ∧ (before ++ codes).Nodup
  | .error e => ∃ i, FirstOffence (before.map some ++ values) i e

/-- **Reading gives the right outcome.** The codes seen so far are all different, and they stay so as long as
fields are read. -/
theorem readCodes_verdict {before : List Int} (hnodup : before.Nodup) (fields : List (List Char)) :
    Verdict before (fields.map (read? .decimal)) (readCodes before.reverse fields) := by
  -- By the fields from the left. Reading carries the codes seen so far in reverse, and they are always
  -- different.
  induction fields generalizing before with
  | nil =>
    refine ⟨rfl, ?_⟩
    rwa [List.append_nil]
  | cons field rest ih =>
    rw [readCodes, List.map_cons]
    cases read? .decimal field with
    -- The field is no number, and everything before it is in order.
    | none =>
      refine ⟨before.length, FirstOffence.behind hnodup (.number ?_)⟩
      exact getElem?_map_some_append_length before none _
    | some code =>
      dsimp only
      by_cases hseen : code ∈ before
      · rw [if_pos (List.mem_reverse.mpr hseen)]
        -- The number stands further to the left already, and the offence names both places.
        obtain ⟨j, hj, hcode⟩ := List.getElem_of_mem hseen
        have hhere := getElem?_map_some_append_length before (some code) (rest.map (read? .decimal))
        have hthere : (before.map some ++ some code :: rest.map (read? .decimal))[j]? =
            some (some code) := by
          rw [getElem?_map_some_append hj, hcode]
        exact ⟨before.length, FirstOffence.behind hnodup (.duplicate hhere hj hthere)⟩
      · rw [if_neg (mt List.mem_reverse.mp hseen)]
        -- The code joins those read before, and the rest is read with it in mind.
        have hnodup' : (before ++ [code]).Nodup := by
          rw [List.nodup_append_comm]
          exact List.nodup_cons.mpr ⟨hseen, hnodup⟩
        have hrest := ih hnodup'
        rw [List.reverse_append, List.reverse_singleton, List.singleton_append] at hrest
        -- The outcome for the rest is the outcome for the whole, with the code put in its place.
        cases hread : readCodes (code :: before.reverse) rest with
        | error e =>
          rw [hread] at hrest
          obtain ⟨i, hfirst⟩ := hrest
          refine ⟨i, ?_⟩
          rwa [List.map_append, List.map_singleton, List.append_assoc] at hfirst
        | ok codes =>
          rw [hread] at hrest
          obtain ⟨hvalues, hcodes⟩ := hrest
          refine ⟨by rw [hvalues, List.map_cons], ?_⟩
          rwa [List.append_assoc] at hcodes

/-! ### Keymaps -/

theorem length_values (text : String) : (values text).length = (Text.fields ',' text.toList).length :=
  List.length_map _

/-- The count of fields is looked at first, before any of them is read. -/
theorem parse_of_count_ne {text : String} (hcount : (values text).length ≠ 16) :
    parse text = .error .count := by
  rw [length_values] at hcount
  exact dif_neg hcount

/-- With the right count of fields a keymap is what its codes are read as. -/
theorem map_codes_parse {text : String} (hcount : (values text).length = 16) :
    (parse text).map codes = readCodes [] (Text.fields ',' text.toList) := by
  have hfields : (Text.fields ',' text.toList).length = Layout.keyCount := by
    rw [← length_values, hcount]
    rfl
  -- A keymap is put together with the proof that its codes are different, and only its codes are compared
  -- here.
  unfold parse
  dsimp only
  rw [dif_pos hfields]
  split
  · rename_i e hcodes
    exact hcodes.symm
  · rename_i codes hcodes
    exact hcodes.symm

/-- What comes of reading a keymap, told by the values. -/
theorem parse_verdict (text : String) :
    match parse text with
    | .ok m => values text = m.codes.map some
    | .error e =>
      (values text).length ≠ 16 ∧ e = .count ∨
        (values text).length = 16 ∧ ∃ i, FirstOffence (values text) i e := by
  by_cases hcount : (values text).length = 16
  · have hverdict := readCodes_verdict List.nodup_nil (Text.fields ',' text.toList)
    rw [List.reverse_nil, ← map_codes_parse hcount] at hverdict
    cases hparse : parse text with
    | ok m =>
      rw [hparse] at hverdict
      exact hverdict.1
    | error e =>
      rw [hparse] at hverdict
      exact .inr ⟨hcount, hverdict⟩
  · rw [parse_of_count_ne hcount]
    exact .inl ⟨hcount, rfl⟩

/-- Keymaps with the same codes are the same. -/
theorem eq_of_codes_eq {m n : Keymap} (h : m.codes = n.codes) : m = n := by
  cases m
  cases n
  cases h
  rfl

theorem length_values_of_eq {text : String} {m : Keymap} (h : values text = m.codes.map some) :
    (values text).length = 16 := by
  rw [h, List.length_map, m.length_codes]

/-- A text is a keymap if its values are the codes of that keymap. -/
theorem parse_eq_ok_iff {text : String} {m : Keymap} :
    parse text = .ok m ↔ values text = m.codes.map some := by
  have hverdict := parse_verdict text
  constructor
  · intro h
    rw [h] at hverdict
    exact hverdict
  · intro h
    -- There is one verdict for a text, and its values say that it is in order.
    cases hparse : parse text with
    | ok m' =>
      rw [hparse] at hverdict
      have hcodes : m'.codes = m.codes :=
        (List.map_inj_right fun _ _ => Option.some.inj).mp (hverdict.symm.trans h)
      rw [eq_of_codes_eq hcodes]
    | error e =>
      rw [hparse] at hverdict
      rcases hverdict with ⟨hcount, -⟩ | ⟨-, i, hfirst⟩
      · exact absurd (length_values_of_eq h) hcount
      · rw [h] at hfirst
        exact absurd hfirst (not_firstOffence_of_nodup m.nodup_codes i e)

/-- A text is turned down with an error if its count is wrong, or if that error is its first offence. -/
theorem parse_eq_error_iff {text : String} {e : KeymapError} :
    parse text = .error e ↔
      (values text).length ≠ 16 ∧ e = .count ∨
        (values text).length = 16 ∧ ∃ i, FirstOffence (values text) i e := by
  have hverdict := parse_verdict text
  constructor
  · intro h
    rw [h] at hverdict
    exact hverdict
  · intro h
    cases hparse : parse text with
    | ok m =>
      rw [hparse] at hverdict
      rcases h with ⟨hcount, -⟩ | ⟨-, i, hfirst⟩
      · exact absurd (length_values_of_eq hverdict) hcount
      · rw [hverdict] at hfirst
        exact absurd hfirst (not_firstOffence_of_nodup m.nodup_codes i e)
    | error e' =>
      rw [hparse] at hverdict
      congr 1
      -- The count decides between the two kinds of error, and then the first offence is the only one.
      rcases h with ⟨hcount, rfl⟩ | ⟨hcount, i, hfirst⟩
      · rcases hverdict with ⟨-, rfl⟩ | ⟨hcount', -⟩
        · rfl
        · exact absurd hcount' hcount
      · rcases hverdict with ⟨hcount', -⟩ | ⟨-, i', hfirst'⟩
        · exact absurd hcount hcount'
        · exact hfirst'.unique hfirst

/-- Values that are numbers are those of a list of numbers. -/
theorem exists_eq_map_some {values : List (Option Int)} (h : ∀ value ∈ values, value.isSome) :
    ∃ codes : List Int, values = codes.map some := by
  induction values with
  | nil => exact ⟨[], rfl⟩
  | cons value rest ih =>
    obtain ⟨hvalue, hrest⟩ := List.forall_mem_cons.mp h
    obtain ⟨code, rfl⟩ := Option.isSome_iff_exists.mp hvalue
    obtain ⟨codes, rfl⟩ := ih hrest
    exact ⟨code :: codes, rfl⟩

/-- A text is a keymap if its values are sixteen different numbers. -/
theorem exists_parse_eq_ok_iff {text : String} :
    (∃ m, parse text = .ok m) ↔
      (values text).length = 16 ∧ (∀ value ∈ values text, value.isSome) ∧ (values text).Nodup := by
  constructor
  · rintro ⟨m, hparse⟩
    have hvalues := parse_eq_ok_iff.mp hparse
    refine ⟨length_values_of_eq hvalues, ?_, ?_⟩
    · rw [hvalues]
      intro value hvalue
      obtain ⟨code, -, rfl⟩ := List.mem_map.mp hvalue
      rfl
    · rw [hvalues]
      exact m.nodup_codes.map fun _ _ => Option.some.inj
  · rintro ⟨hcount, hsome, hnodup⟩
    obtain ⟨codes, hvalues⟩ := exists_eq_map_some hsome
    rw [hvalues] at hcount hnodup
    rw [List.length_map] at hcount
    exact ⟨⟨codes, hcount, hnodup.of_map⟩, parse_eq_ok_iff.mpr hvalues⟩

/-! ### What a keymap assigns -/

/-- A code serves the key that has its position in the keymap. -/
theorem key?_eq_some_iff_getElem? (m : Keymap) {code : Int} {key : Key} :
    m.key? code = some key ↔ m.codes[key.val]? = some code := by
  have hkey : key.val < m.codes.length := by
    rw [m.length_codes]
    exact key.isLt
  rw [m.key?_eq_some_iff, List.getElem?_eq_getElem hkey, Option.some.injEq]
  rfl

/-- A keymap serves as many host keys as there are keys. -/
theorem ncard_served (m : Keymap) : {code | (m.key? code).isSome}.ncard = 16 := by
  -- The codes that serve some key are the ones that the keys have.
  have hserved : {code | (m.key? code).isSome} = Set.range m.code := by
    ext code
    rw [Set.mem_ofPred_eq, Option.isSome_iff_exists, Set.mem_range]
    exact exists_congr fun key => m.key?_eq_some_iff
  rw [hserved, Set.ncard_range_of_injective fun _ _ => m.code_injective]
  exact Nat.card_fin 16

/-- The values of a keymap as it is written are its codes. -/
theorem values_text {m : Keymap}
    (h : ∀ code ∈ m.codes, (Nat.toDigits 10 code.natAbs).length ≤ digitLimit) :
    values m.text = m.codes.map some := by
  have hne : m.codes.map (fun code => (toString code).toList) ≠ [] := by
    rw [Ne, List.map_eq_nil_iff]
    exact List.ne_nil_of_length_eq_add_one m.length_codes
  -- No number is written with a comma, so the text is cut where it was put together.
  have hcomma : ∀ part ∈ m.codes.map (fun code => (toString code).toList), ',' ∉ part := by
    intro part hpart hmem
    obtain ⟨code, -, rfl⟩ := List.mem_map.mp hpart
    rcases Text.Integer.mem_toString hmem with hsign | hdigit
    · exact absurd hsign (by decide)
    · exact absurd hdigit (by decide)
  have htext : m.text.toList = [','].intercalate (m.codes.map fun code => (toString code).toList) := by
    rw [text, String.toList_intercalate, List.map_map]
    rfl
  rw [values, htext, Text.fields_intercalate hne hcomma, List.map_map]
  refine List.map_congr_left fun code hcode => ?_
  rw [Function.comp_apply, Text.Integer.read?_toString, if_pos (h code hcode)]

/-- **Reading a keymap is right for every text.** It gives a keymap exactly if there are sixteen fields, all
of them stand for numbers, and these are all different. That keymap serves sixteen host keys, and the number
of a field serves the key with its position. What is said about any other text is that it has the wrong count
of fields, or, if it has not, what is wrong with the first bad field from the left. A keymap that is written
down, with no number longer than may be read, is read as itself. -/
theorem parse_exact :
    (∀ text : String,
      ((∃ m, parse text = .ok m) ↔
        (values text).length = 16 ∧ (∀ value ∈ values text, value.isSome) ∧ (values text).Nodup) ∧
      (∀ m, parse text = .ok m →
        {code | (m.key? code).isSome}.ncard = 16 ∧
          ∀ code key, m.key? code = some key ↔ (values text)[key.val]? = some (some code)) ∧
      ∀ e, parse text = .error e ↔
        (values text).length ≠ 16 ∧ e = .count ∨
          (values text).length = 16 ∧ ∃ i, FirstOffence (values text) i e) ∧
    ∀ m : Keymap, (∀ code ∈ m.codes, (Nat.toDigits 10 code.natAbs).length ≤ digitLimit) →
      parse m.text = .ok m := by
  refine ⟨fun text => ⟨exists_parse_eq_ok_iff, fun m hparse => ⟨m.ncard_served, ?_⟩, ?_⟩, ?_⟩
  · intro code key
    -- The values are the codes, and position by position they stand for the same.
    rw [key?_eq_some_iff_getElem?, parse_eq_ok_iff.mp hparse, List.getElem?_map,
      Option.map_eq_some_iff]
    constructor
    · intro hcode
      exact ⟨code, hcode, rfl⟩
    · rintro ⟨code', hcode, heq⟩
      rwa [Option.some.inj heq] at hcode
  · exact fun e => parse_eq_error_iff
  · intro m hdigits
    exact parse_eq_ok_iff.mpr (values_text hdigits)

/-- Codes on both sides of zero. -/
def signed : Keymap where
  codes := [-300, -7, -6, -5, -4, -3, -2, -1, 0, 1, 2, 3, 4, 5, 6, 1000]
  length_codes := rfl
  nodup_codes := by decide

/-- The second spelling of a number is found before the field behind it that is no number, and neither is
looked at if a field is missing; keymaps with signs are read back. -/
theorem parse_exact_signed :
    parse "0,1,2,3,4,5,6,7,8,9,10,11,12,13, +0_7 ,x" = .error .duplicate ∧
      parse "1,1,x" = .error .count ∧
      parse signed.text = .ok signed := by
  -- The fifteenth value is the seven that stands in the eighth field already.
  obtain ⟨hread, hwritten⟩ := parse_exact
  refine ⟨?_, ?_, hwritten signed (by decide)⟩
  · obtain ⟨-, -, herror⟩ := hread "0,1,2,3,4,5,6,7,8,9,10,11,12,13, +0_7 ,x"
    have hvalues : values "0,1,2,3,4,5,6,7,8,9,10,11,12,13, +0_7 ,x" =
        ([0, 1, 2, 3, 4, 5, 6, 7, 8, 9, 10, 11, 12, 13] : List Int).map some ++ [some 7, none] := by
      decide +kernel
    rw [hvalues] at herror
    refine (herror .duplicate).mpr (.inr ⟨rfl, 14, ?_⟩)
    exact FirstOffence.behind (by decide) (.duplicate (j := 7) rfl (by decide) rfl)
  · obtain ⟨-, -, herror⟩ := hread "1,1,x"
    exact (herror .count).mpr (.inl ⟨by decide +kernel, rfl⟩)

end Keymap

end Chip8
