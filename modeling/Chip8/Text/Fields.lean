/-!
# Fields

A row of fields is written as one text, with a separator between any two of them. Reading it back
cuts the text at every separator, so that there is always one field more than there are separators,
and a field may be empty.

* `fields` — the fields of a text;
* `fields_ne_nil` — there is at least one;
* `intercalate_fields` — the fields with the separator between them make up the text;
* `separator_notMem_of_mem_fields` — no field holds a separator;
* `fields_intercalate` — texts without a separator are the fields of the text that they make up;
* `fields_eq_pair_iff` — there are two fields exactly if there is one separator;
* `fields_closed`, `fields_opened` — so are texts that each have a separator behind or before them.
-/

namespace Chip8.Text

/-- The parts of a text between its separators. -/
def fields (separator : Char) : List Char → List (List Char)
  | [] => [[]]
  | c :: rest =>
    if c = separator then [] :: fields separator rest
    else
      match fields separator rest with
      | [] => [[c]]
      | first :: others => (c :: first) :: others

theorem fields_ne_nil (separator : Char) (text : List Char) : fields separator text ≠ [] := by
  cases text with
  | nil => simp [fields]
  | cons c rest =>
    unfold fields
    split
    · simp
    · split <;> simp

theorem intercalate_fields (separator : Char) (text : List Char) :
    [separator].intercalate (fields separator text) = text := by
  induction text with
  | nil => rfl
  | cons c rest ih =>
    obtain ⟨first, others, hfields⟩ := List.exists_cons_of_ne_nil (fields_ne_nil separator rest)
    rw [hfields] at ih
    by_cases hc : c = separator
    · -- The separator closes an empty field.
      subst hc
      have hcut : fields c (c :: rest) = [] :: first :: others := by simp [fields, hfields]
      rw [hcut, List.intercalate_cons_cons, ih]
      rfl
    · -- Any other character goes in front of the first field.
      have hcut : fields separator (c :: rest) = (c :: first) :: others := by
        simp [fields, hc, hfields]
      rw [hcut, ← ih]
      cases others <;> simp [List.intercalate_cons_cons, List.intercalate_singleton]

theorem separator_notMem_of_mem_fields {separator : Char} {text field : List Char}
    (h : field ∈ fields separator text) : separator ∉ field := by
  induction text generalizing field with
  | nil => simp_all [fields]
  | cons c rest ih =>
    obtain ⟨first, others, hfields⟩ := List.exists_cons_of_ne_nil (fields_ne_nil separator rest)
    rw [hfields] at ih
    by_cases hc : c = separator
    · have hcut : fields separator (c :: rest) = [] :: first :: others := by
        simp [fields, hc, hfields]
      rw [hcut] at h
      rcases List.mem_cons.mp h with rfl | hrest
      · simp
      · exact ih hrest
    · have hcut : fields separator (c :: rest) = (c :: first) :: others := by
        simp [fields, hc, hfields]
      rw [hcut] at h
      rcases List.mem_cons.mp h with rfl | hrest
      · -- The first field has grown by a character that is no separator.
        have hfirst := ih (List.mem_cons_self ..)
        simp [hfirst, Ne.symm hc]
      · exact ih (List.mem_cons_of_mem _ hrest)

theorem fields_of_notMem {separator : Char} {text : List Char} (h : separator ∉ text) :
    fields separator text = [text] := by
  induction text with
  | nil => rfl
  | cons c rest ih =>
    simp only [List.mem_cons, not_or] at h
    simp [fields, Ne.symm h.1, ih h.2]

theorem fields_append {separator : Char} {first : List Char} (h : separator ∉ first)
    (rest : List Char) :
    fields separator (first ++ separator :: rest) = first :: fields separator rest := by
  induction first with
  | nil => simp [fields]
  | cons c tail ih =>
    simp only [List.mem_cons, not_or] at h
    simp [fields, Ne.symm h.1, ih h.2]

theorem fields_intercalate {separator : Char} {parts : List (List Char)} (hne : parts ≠ [])
    (h : ∀ part ∈ parts, separator ∉ part) :
    fields separator ([separator].intercalate parts) = parts := by
  induction parts with
  | nil => exact absurd rfl hne
  | cons part others ih =>
    have hpart := h part (List.mem_cons_self ..)
    cases others with
    | nil => rw [List.intercalate_singleton, fields_of_notMem hpart]
    | cons next others =>
      have hothers := ih (by simp) fun p hp => h p (List.mem_cons_of_mem _ hp)
      rw [List.intercalate_cons_cons, List.append_assoc, List.singleton_append,
        fields_append hpart, hothers]

theorem fields_eq_pair_iff {separator : Char} {text first second : List Char} :
    fields separator text = [first, second] ↔
      text = first ++ separator :: second ∧ separator ∉ first ∧ separator ∉ second := by
  constructor
  · intro h
    have hmem : ∀ field ∈ [first, second], separator ∉ field := by
      rw [← h]
      exact fun field => separator_notMem_of_mem_fields
    have htext := intercalate_fields separator text
    rw [h, List.intercalate_cons_cons, List.intercalate_singleton, List.append_assoc] at htext
    exact ⟨htext.symm, hmem first (by simp), hmem second (by simp)⟩
  · rintro ⟨rfl, hfirst, hsecond⟩
    rw [fields_append hfirst, fields_of_notMem hsecond]

/-- Texts with a separator behind each of them are the first fields of what they are followed by. -/
theorem fields_closed {separator : Char} {parts : List (List Char)}
    (h : ∀ part ∈ parts, separator ∉ part) (rest : List Char) :
    fields separator (parts.flatMap (· ++ [separator]) ++ rest) =
      parts ++ fields separator rest := by
  induction parts with
  | nil => rfl
  | cons part others ih =>
    obtain ⟨hpart, hothers⟩ := List.forall_mem_cons.mp h
    rw [List.flatMap_cons, List.append_assoc, List.append_assoc, List.singleton_append,
      fields_append hpart, ih hothers, List.cons_append]

/-- Texts with a separator before each of them are the fields behind an empty one. -/
theorem fields_opened {separator : Char} {parts : List (List Char)}
    (h : ∀ part ∈ parts, separator ∉ part) :
    fields separator (parts.flatMap (separator :: ·)) = [] :: parts := by
  induction parts with
  | nil => rfl
  | cons part others ih =>
    obtain ⟨hpart, hothers⟩ := List.forall_mem_cons.mp h
    have hopen : ∀ text, fields separator (separator :: text) = [] :: fields separator text := by
      intro text
      exact if_pos rfl
    cases others with
    | nil =>
      rw [List.flatMap_cons, List.flatMap_nil, List.append_nil, hopen, fields_of_notMem hpart]
    | cons next others =>
      -- What follows the first part opens with a separator, and that is where the part ends.
      have htail := ih hothers
      rw [List.flatMap_cons, List.cons_append, hopen] at htail
      rw [List.flatMap_cons, List.flatMap_cons, List.cons_append, List.cons_append, hopen,
        fields_append hpart, (List.cons.inj htail).2]

end Chip8.Text
