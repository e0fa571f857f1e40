import Chip8.Device.Panel
import Chip8.Proofs.Text.Numeral

/-!
# Palettes as they are written and as they are read

A palette is meant to be written as two colours of six digits each, with a comma between them
(`Palette.Written`), and every palette that is so written is read as the colours that its digits spell.
But reading is content with any six characters that spell a number in base sixteen, and there are other
ways to do so: with a sign, with the mark of the base, with low lines, blanks, or the digits of another
script. `Palette.Loose` says which texts get through, or are turned down without a reason, although they
are not written as they should be; for all other texts, and for no other, reading and writing agree
(`Palette.read_as_written_iff`).

Everything about the characters of a field is in `Colour.Passes`, and what that amounts to in the grammar
of numbers (`Text.Integer.read?_hexadecimal_iff`).
-/

namespace Chip8

open Text.Integer

namespace Colour

/-- The digits in which a colour is meant to be written. -/
def plainDigits : List Char :=
  "0123456789abcdefABCDEF".toList

/-- The value of such a digit, in which capitals count for nothing. -/
def plainValue (c : Char) : Nat :=
  "0123456789abcdef".toList.idxOf c.toLower

/-- The part of a colour for which two digits stand. -/
def part (high low : Char) : UInt8 :=
  UInt8.ofNat (16 * plainValue high + plainValue low)

/-- Colours as they are meant to be written: two digits for each part, red first. -/
inductive Written : List Char → Colour → Prop
  | six {a b c d e f : Char} (hplain : ∀ x ∈ [a, b, c, d, e, f], x ∈ plainDigits) :
    Written [a, b, c, d, e, f] ⟨part a b, part c d, part e f⟩

/-- A field with the length of a colour that spells a number, in whatever way. -/
structure Passes (field : List Char) (n : Int) : Prop where
  length : field.length = 6
  numeral : Numeral field n

variable {field : List Char} {n : Int}

/-- A field that passes is read, unless its number is below zero; that has no reason to go with it. -/
theorem parse_of_passes (h : Passes field n) :
    parse field = if n < 0 then .error (.negative n) else .ok (ofNumber n.toNat) := by
  rw [parse, if_neg (not_not_intro h.length), read?_hexadecimal_iff.mpr h.numeral]

theorem parse_of_passes_nat {n : Nat} (h : Passes field n) : parse field = .ok (ofNumber n) := by
  rw [parse_of_passes h, if_neg (Int.not_lt.mpr (Int.natCast_nonneg n)), Int.toNat_natCast]

/-- A number below zero is what the error names. -/
theorem parse_of_passes_neg (h : Passes field n) (hneg : n < 0) :
    parse field = .error (.negative n) := by
  rw [parse_of_passes h, if_pos hneg]

/-- A field passes, as a number that is right or as one below zero, or there is a reason to give. -/
theorem parse_cases (field : List Char) :
    (∃ n : Nat, Passes field n) ∨ (∃ n : Int, Passes field n ∧ n < 0) ∨
      ∃ cause message, parse field = .error cause ∧ cause.message? = some message := by
  -- The length is asked first, and then whether the field spells a number at all. Both have their own
  -- reason.
  by_cases hlength : field.length = 6
  · cases hread : read? .hexadecimal field with
    | none =>
      refine .inr (.inr ⟨.number, _, ?_, rfl⟩)
      rw [parse, if_neg (not_not_intro hlength), hread]
    | some n =>
      have hpasses : Passes field n := ⟨hlength, read?_hexadecimal_iff.mp hread⟩
      cases n with
      | ofNat n => exact .inl ⟨n, hpasses⟩
      | negSucc n => exact .inr (.inl ⟨_, hpasses, Int.negSucc_lt_zero n⟩)
  · refine .inr (.inr ⟨.length, _, ?_, rfl⟩)
    rw [parse, if_pos hlength]

/-- A number of six digits loses nothing when it is cut into three bytes. -/
theorem Passes.lt {n : Nat} (h : Passes field n) : n < 0x1000000 := by
  have hlt := h.numeral.natAbs_lt
  rwa [h.length] at hlt

/-! ### Plain digits -/

theorem Written.plain {colour : Colour} (h : Written field colour) : ∀ c ∈ field, c ∈ plainDigits := by
  obtain ⟨hplain⟩ := h
  exact hplain

/-- Six plain digits always write a colour. -/
theorem exists_written (hlength : field.length = 6) (hplain : ∀ c ∈ field, c ∈ plainDigits) :
    ∃ colour, Written field colour :=
  match field, hlength with
  | [_, _, _, _, _, _], _ => ⟨_, .six hplain⟩

/-- The plain digits are among those that are read, with their values. -/
theorem digit?_of_plain {c : Char} (h : c ∈ plainDigits) :
    Radix.digit? .hexadecimal c = some (plainValue c) := by
  have hall : plainDigits.all fun c => Radix.digit? .hexadecimal c == some (plainValue c) := by decide
  exact eq_of_beq (List.all_eq_true.mp hall c h)

/-- Six digits put together as one number, and cut into three bytes again, are taken two by two. -/
theorem ofNumber_ofDigits {a b c d e f : Nat} (h : ∀ x ∈ [a, b, c, d, e, f], x < 16) :
    ofNumber (ofDigits 16 [a, b, c, d, e, f]) =
      ⟨UInt8.ofNat (16 * a + b), UInt8.ofNat (16 * c + d), UInt8.ofNat (16 * e + f)⟩ := by
  simp only [List.forall_mem_cons] at h
  -- The number is a nested sum, and each byte is a question of division and remainder.
  have hvalue : ofDigits 16 [a, b, c, d, e, f] =
      ((((a * 16 + b) * 16 + c) * 16 + d) * 16 + e) * 16 + f := by
    simp [ofDigits]
  rw [ofNumber, hvalue]
  congr 1 <;> rw [← UInt8.toNat_inj, UInt8.toNat_ofNat', UInt8.toNat_ofNat'] <;> omega

/-- A colour that is written in plain digits passes, as the number with these digits. -/
theorem Written.exists_passes {colour : Colour} (h : Written field colour) :
    ∃ n : Nat, Passes field n ∧ colour = ofNumber n := by
  obtain @⟨a, b, c, d, e, f, hplain⟩ := h
  have hvalue := fun x hx => digit?_of_plain (hplain x hx)
  have hsmall := fun x hx => digit?_lt (digit?_of_plain (hplain x hx))
  simp only [List.forall_mem_cons] at hvalue
  obtain ⟨ha, hb, hc, hd, he, hf, -⟩ := hvalue
  -- Plain digits are read without any of what else is allowed: no blanks around them, no sign, no mark
  -- and no low line.
  have hrun : Run (Radix.digit? .hexadecimal) [a, b, c, d, e, f] ([a, b, c, d, e, f].map plainValue) :=
    .next ha (.next hb (.next hc (.next hd (.next he (.last hf)))))
  have hblanks : ∀ x ∈ ([] : List Char), Text.isBlank x = true := fun _ hx => absurd hx List.not_mem_nil
  have hmade := Numeral.made hblanks .none .none hrun hblanks
  rw [List.append_nil] at hmade
  refine ⟨_, ⟨rfl, hmade⟩, (ofNumber_ofDigits ?_).symm⟩
  intro x hx
  have hmem : x ∈ [a, b, c, d, e, f].map plainValue := hx
  obtain ⟨y, hy, rfl⟩ := List.mem_map.mp hmem
  exact hsmall y hy

end Colour

namespace Palette

/-- A text of two fields with a comma between them. -/
def Pair (text : String) (first second : List Char) : Prop :=
  text.toList = first ++ ',' :: second ∧ ',' ∉ first ∧ ',' ∉ second

/-- Palettes as they are meant to be written, the background before the foreground. -/
def Written (text : String) (p : Palette) : Prop :=
  ∃ first second, Pair text first second ∧
    Colour.Written first p.background ∧ Colour.Written second p.foreground

/-- The palettes that are not treated as they are written. -/
inductive Loose (text : String) : Prop
  /-- Both fields pass, and something else than plain digits is in one of them. -/
  | spelled {first second : List Char} {m n : Nat} {c : Char} (hpair : Pair text first second)
    (hfirst : Colour.Passes first m) (hsecond : Colour.Passes second n)
    (hmem : c ∈ first ++ second) (hodd : c ∉ Colour.plainDigits)
  | background {first second : List Char} {m : Int} (hpair : Pair text first second)
    (hfirst : Colour.Passes first m) (hneg : m < 0)
  | foreground {first second : List Char} {m : Nat} {n : Int} (hpair : Pair text first second)
    (hfirst : Colour.Passes first m) (hsecond : Colour.Passes second n) (hneg : n < 0)

variable {text : String} {first second : List Char}

/-- Two fields are read one after the other, the background first. -/
theorem parse_of_pair (h : Pair text first second) :
    parse text = (Colour.parse first).bind fun background =>
      (Colour.parse second).bind fun foreground => .ok { background, foreground } := by
  rw [parse, Text.fields_eq_pair_iff.mpr h]
  rfl

/-- Any other number of fields has its own reason. -/
theorem parse_of_no_pair (h : ∀ first second, ¬ Pair text first second) :
    parse text = .error .count := by
  rw [parse]
  split
  · rename_i first second hfields
    exact absurd (Text.fields_eq_pair_iff.mp hfields) (h first second)
  · rfl

/-- What reading a palette comes to. -/
inductive Verdict (text : String) : Except PaletteError Palette → Prop
  | accepted {first second : List Char} {m n : Nat} (hpair : Pair text first second)
    (hfirst : Colour.Passes first m) (hsecond : Colour.Passes second n) :
    Verdict text (.ok ⟨Colour.ofNumber m, Colour.ofNumber n⟩)
  | below (hloose : Loose text) (n : Int) : Verdict text (.error (.negative n))
  | reasoned {cause : PaletteError} {message : String} (hmessage : cause.message? = some message) :
    Verdict text (.error cause)

/-- Two fields that pass without a sign are accepted. -/
theorem parse_of_passes {m n : Nat} (hpair : Pair text first second)
    (hfirst : Colour.Passes first m) (hsecond : Colour.Passes second n) :
    parse text = .ok ⟨Colour.ofNumber m, Colour.ofNumber n⟩ := by
  rw [parse_of_pair hpair, Colour.parse_of_passes_nat hfirst, Colour.parse_of_passes_nat hsecond]
  rfl

/-- A background below zero has the text turned down, whatever comes after it. -/
theorem parse_of_negative_first {m : Int} (hpair : Pair text first second)
    (hfirst : Colour.Passes first m) (hneg : m < 0) : parse text = .error (.negative m) := by
  rw [parse_of_pair hpair, Colour.parse_of_passes_neg hfirst hneg]
  rfl

/-- A foreground below zero has it turned down if the background passes. -/
theorem parse_of_negative_second {m : Nat} {n : Int} (hpair : Pair text first second)
    (hfirst : Colour.Passes first m) (hsecond : Colour.Passes second n) (hneg : n < 0) :
    parse text = .error (.negative n) := by
  rw [parse_of_pair hpair, Colour.parse_of_passes_nat hfirst, Colour.parse_of_passes_neg hsecond hneg]
  rfl

/-- The fields are read one after the other, and the first one that fails decides. -/
theorem verdict_parse (text : String) : Verdict text (parse text) := by
  -- First the number of fields, and then either field with the three things that can become of it.
  by_cases hpairs : ∃ first second, Pair text first second
  case neg =>
    rw [parse_of_no_pair fun first second h => hpairs ⟨first, second, h⟩]
    exact .reasoned rfl
  obtain ⟨first, second, hpair⟩ := hpairs
  rcases Colour.parse_cases first with
    ⟨m, hfirst⟩ | ⟨m, hfirst, hneg⟩ | ⟨cause, message, hcause, hmessage⟩
  · rcases Colour.parse_cases second with
      ⟨n, hsecond⟩ | ⟨n, hsecond, hneg⟩ | ⟨cause, message, hcause, hmessage⟩
    · rw [parse_of_passes hpair hfirst hsecond]
      exact .accepted hpair hfirst hsecond
    · rw [parse_of_negative_second hpair hfirst hsecond hneg]
      exact .below (.foreground hpair hfirst hsecond hneg) n
    · rw [parse_of_pair hpair, Colour.parse_of_passes_nat hfirst, hcause]
      exact .reasoned hmessage
  · rw [parse_of_negative_first hpair hfirst hneg]
    exact .below (.background hpair hfirst hneg) m
  · rw [parse_of_pair hpair, hcause]
    exact .reasoned hmessage

/-- What is accepted are two fields that pass. -/
theorem parse_eq_ok_iff {p : Palette} :
    parse text = .ok p ↔ ∃ first second, ∃ m n : Nat, Pair text first second ∧
      Colour.Passes first m ∧ Colour.Passes second n ∧
        p = ⟨Colour.ofNumber m, Colour.ofNumber n⟩ := by
  constructor
  · intro h
    have hverdict := verdict_parse text
    rw [h] at hverdict
    cases hverdict with
    | accepted hpair hfirst hsecond => exact ⟨_, _, _, _, hpair, hfirst, hsecond, rfl⟩
  · rintro ⟨first, second, m, n, hpair, hfirst, hsecond, rfl⟩
    exact parse_of_passes hpair hfirst hsecond

/-- A palette that is written as it should be is read as it is written. -/
theorem Written.parse {p : Palette} (h : Written text p) : parse text = .ok p := by
  obtain ⟨first, second, hpair, hbackground, hforeground⟩ := h
  obtain ⟨m, hm, hfirst⟩ := hbackground.exists_passes
  obtain ⟨n, hn, hsecond⟩ := hforeground.exists_passes
  refine parse_eq_ok_iff.mpr ⟨first, second, m, n, hpair, hm, hn, ?_⟩
  rw [← hfirst, ← hsecond]

theorem Written.plain {p : Palette} (h : Written text p) (hpair : Pair text first second) :
    ∀ c ∈ first ++ second, c ∈ Colour.plainDigits := by
  obtain ⟨first', second', hpair', hbackground, hforeground⟩ := h
  -- There is only one way to cut the text in two.
  have hsame := (Text.fields_eq_pair_iff.mpr hpair).symm.trans (Text.fields_eq_pair_iff.mpr hpair')
  cases hsame
  intro c hc
  rcases List.mem_append.mp hc with hc | hc
  · exact hbackground.plain c hc
  · exact hforeground.plain c hc

/-! ### Windows with a palette -/

/-- Opens a window, of a width or of the standard one, with the palette that a text asks for. -/
def openWith (width : Option Int) (text : String) : Except WindowError Panel :=
  (Panel.openWindow (width.map .given) (some (.given text))).value

/-- A panel whose window has been opened and shows nothing yet. -/
def windowed (width : Option Int) (p : Palette) : Panel :=
  let across := width.getD Panel.standardWidth
  { window := some { width := across, height := across / 2, palette := p }
    scale := across
    title := About.name }

/-- Opening a window fails with its palette, and with nothing else. -/
theorem openWith_eq (width : Option Int) (text : String) :
    openWith width text = ((parse text).mapError .palette).map (windowed width) := by
  have hpalette : Panel.palette (some (.given text)) = (parse text).mapError .palette := rfl
  cases width <;>
    simp only [openWith, Panel.openWindow, hpalette, Option.map_none, Option.map_some,
      Option.getD_none, Option.getD_some, Traced.value_bind] <;>
    cases parse text <;> rfl

/-- A window is opened in the colours that are read. -/
theorem openWith_eq_ok_iff {width : Option Int} {panel : Panel} :
    openWith width text = .ok panel ↔ ∃ p, parse text = .ok p ∧ panel = windowed width p := by
  rw [openWith_eq]
  cases parse text with
  | error cause => simp [Except.mapError, Except.map]
  | ok p => simp [Except.mapError, Except.map, eq_comm]

/-- It is not opened exactly if the palette cannot be read. -/
theorem openWith_eq_error_iff {width : Option Int} {cause : WindowError} :
    openWith width text = .error cause ↔ ∃ e, parse text = .error e ∧ cause = .palette e := by
  rw [openWith_eq]
  cases parse text with
  | error e => simp [Except.mapError, Except.map, eq_comm]
  | ok p => simp [Except.mapError, Except.map]

/-- Opening a window goes by how a palette is meant to be written: it succeeds for what is so written, with
the colours that are written down, and gives a reason for everything else. -/
structure ReadAsWritten (width : Option Int) (text : String) : Prop where
  opened : ∀ panel, openWith width text = .ok panel ↔ ∃ p, Written text p ∧ panel = windowed width p
  refused : ∀ cause, openWith width text = .error cause → ∃ message, cause.message? = some message

variable {width : Option Int}

theorem Written.openWith {p : Palette} (h : Written text p) :
    openWith width text = .ok (windowed width p) :=
  openWith_eq_ok_iff.mpr ⟨p, h.parse, rfl⟩

/-- A loose text is accepted without being written, or turned down without a reason. -/
theorem Loose.not_readAsWritten (h : Loose text) : ¬ ReadAsWritten width text := by
  intro hread
  -- A number below zero is the one error that has no reason.
  have hreason : ∀ n, parse text ≠ .error (.negative n) := by
    intro n hparse
    obtain ⟨message, hmessage⟩ := hread.refused _ (openWith_eq_error_iff.mpr ⟨_, hparse, rfl⟩)
    cases hmessage
  cases h with
  | @spelled _ _ _ _ c hpair hfirst hsecond hmem hodd =>
    obtain ⟨p, hp, -⟩ :=
      (hread.opened _).mp (openWith_eq_ok_iff.mpr ⟨_, parse_of_passes hpair hfirst hsecond, rfl⟩)
    exact hodd (hp.plain hpair c hmem)
  | background hpair hfirst hneg => exact hreason _ (parse_of_negative_first hpair hfirst hneg)
  | foreground hpair hfirst hsecond hneg =>
    exact hreason _ (parse_of_negative_second hpair hfirst hsecond hneg)

/-- What is not loose is either written as it should be, or turned down with a reason. -/
theorem readAsWritten_of_not_loose (h : ¬ Loose text) : ReadAsWritten width text := by
  refine ⟨fun panel => ⟨fun hopen => ?_, ?_⟩, fun cause hopen => ?_⟩
  · obtain ⟨p, hparse, rfl⟩ := openWith_eq_ok_iff.mp hopen
    obtain ⟨first, second, m, n, hpair, hfirst, hsecond, rfl⟩ := parse_eq_ok_iff.mp hparse
    -- Two fields that pass have plain digits only, or the text would be loose.
    have hplain : ∀ c ∈ first ++ second, c ∈ Colour.plainDigits := fun c hc =>
      Decidable.byContradiction fun hodd => h (.spelled hpair hfirst hsecond hc hodd)
    obtain ⟨background, hbackground⟩ :=
      Colour.exists_written hfirst.length fun c hc => hplain c (List.mem_append_left _ hc)
    obtain ⟨foreground, hforeground⟩ :=
      Colour.exists_written hsecond.length fun c hc => hplain c (List.mem_append_right _ hc)
    have hp : Written text ⟨background, foreground⟩ :=
      ⟨first, second, hpair, hbackground, hforeground⟩
    -- The colours that the fields were read as are those that they are written as.
    have hsame := hp.parse
    rw [hparse] at hsame
    cases hsame
    exact ⟨_, hp, rfl⟩
  · rintro ⟨p, hp, rfl⟩
    exact hp.openWith
  · obtain ⟨e, hparse, rfl⟩ := openWith_eq_error_iff.mp hopen
    -- Of the errors only that of a number below zero has no reason, and that would be loose.
    have hverdict := verdict_parse text
    rw [hparse] at hverdict
    cases hverdict with
    | below hloose => exact absurd hloose h
    | reasoned hmessage => exact ⟨_, hmessage⟩

/-- **Palettes are read as they are written, and some others as well.** Whatever the width of the window,
a palette that is written as it should be opens it in the colours that are written down. Opening goes by
what is written for exactly the texts that are not `Loose`. What it does accept are two fields of six
characters that stand for numbers below the sixth power of sixteen, none of them negative, in the colours
with these numbers. -/
theorem read_as_written_iff (width : Option Int) (text : String) :
    (∀ p, Written text p → openWith width text = .ok (windowed width p)) ∧
      (ReadAsWritten width text ↔ ¬ Loose text) ∧
        ∀ panel, openWith width text = .ok panel ↔ ∃ first second, ∃ m < 0x1000000, ∃ n < 0x1000000,
          Pair text first second ∧ Colour.Passes first (m : Nat) ∧ Colour.Passes second (n : Nat) ∧
            panel = windowed width ⟨Colour.ofNumber m, Colour.ofNumber n⟩ := by
  refine ⟨fun p hp => hp.openWith,
    ⟨fun hread hloose => hloose.not_readAsWritten hread, readAsWritten_of_not_loose⟩,
    fun panel => ⟨fun hopen => ?_, ?_⟩⟩
  · obtain ⟨p, hparse, rfl⟩ := openWith_eq_ok_iff.mp hopen
    obtain ⟨first, second, m, n, hpair, hfirst, hsecond, rfl⟩ := parse_eq_ok_iff.mp hparse
    exact ⟨first, second, m, hfirst.lt, n, hsecond.lt, hpair, hfirst, hsecond, rfl⟩
  · rintro ⟨first, second, m, -, n, -, hpair, hfirst, hsecond, rfl⟩
    exact openWith_eq_ok_iff.mpr ⟨_, parse_of_passes hpair hfirst hsecond, rfl⟩

/-- A sign has a palette turned down without a reason, and the mark of the base lets another one through. -/
theorem not_read_as_written_sign_mark :
    ¬ ReadAsWritten none "-00001,FFFFFF" ∧ ¬ ReadAsWritten none "0x1234,FFFFFF" := by
  constructor
  · intro hread
    have hopen : openWith none "-00001,FFFFFF" = .error (.palette (.negative (-1))) := rfl
    obtain ⟨message, hmessage⟩ := hread.refused _ hopen
    cases hmessage
  · intro hread
    have hopen : openWith none "0x1234,FFFFFF" =
        .ok (windowed none ⟨⟨0x00, 0x12, 0x34⟩, ⟨0xFF, 0xFF, 0xFF⟩⟩) := rfl
    obtain ⟨p, hp, -⟩ := (hread.opened _).mp hopen
    have hpair : Pair "0x1234,FFFFFF" "0x1234".toList "FFFFFF".toList :=
      ⟨rfl, by decide, by decide⟩
    exact absurd (hp.plain hpair 'x' (by decide)) (by decide)

end Palette

end Chip8
