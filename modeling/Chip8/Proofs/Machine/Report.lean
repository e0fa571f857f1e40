import Chip8.Machine.Event
import Chip8.Proofs.Text.Hex
import Chip8.Text.Fields

/-!
# Reports lose nothing

The report on a machine can be read back. Two machines with the same line agree in all that a line shows,
and the same instruction was written at its end, whatever characters that is made of; two machines with
the same full report also have the same call stack and do the same, as long as the instruction is written
on one line (`Machine.report_lossless`).

A line is a row of words with blanks between them, and the instruction behind the last of them
(`Machine.fields_line`). Numbers are single words however many digits they have, so it does not matter
that some have more than the width that they are padded to. In the same way a full report is a row of
three lines, and the call stack a row of words again, of which there is one even for an empty stack.
-/

namespace Chip8

open Text (fields)
open Text.Hex (isDigit paddedChars ofBytes)

/-- A text without blanks and line breaks. -/
def Solid (text : List Char) : Prop :=
  ' ' ∉ text ∧ '\n' ∉ text

instance (text : List Char) : Decidable (Solid text) :=
  inferInstanceAs (Decidable (_ ∧ _))

/-- A number as a word: the mark of hexadecimal and the digits. -/
def marked (digits : List Char) : List Char :=
  '0' :: 'x' :: digits

/-- A character that no number is written with. -/
theorem notMem_marked {digits : List Char} (h : ∀ c ∈ digits, c = '-' ∨ isDigit c = true) {c : Char}
    (hc : c ∉ ['0', 'x', '-']) (hdigit : isDigit c = false) : c ∉ marked digits := by
  simp only [List.mem_cons, List.not_mem_nil, or_false, not_or] at hc
  obtain ⟨hzero, hmark, hsign⟩ := hc
  intro hmem
  rw [marked, List.mem_cons, List.mem_cons] at hmem
  rcases hmem with hmem | hmem | hmem
  · exact hzero hmem
  · exact hmark hmem
  · rcases h c hmem with hmem | hmem
    · exact hsign hmem
    · rw [hdigit] at hmem
      cases hmem

/-- A number is one word, whatever its sign is. -/
theorem solid_marked {digits : List Char} (h : ∀ c ∈ digits, c = '-' ∨ isDigit c = true) :
    Solid (marked digits) :=
  ⟨notMem_marked h (by decide) rfl, notMem_marked h (by decide) rfl⟩

/-- A padded number is one word, with or without a sign. -/
theorem solid_number (width : Nat) (n : Int) : Solid (marked (paddedChars width n)) :=
  solid_marked fun _ => Text.Hex.mem_paddedChars

/-- Bytes that are written in a row are one word, also if there are none. -/
theorem solid_bytes (bytes : List UInt8) : Solid (marked (ofBytes bytes).toList) := by
  refine solid_marked fun c hc => ?_
  rw [ofBytes, String.toList_ofList] at hc
  obtain ⟨b, -, hc⟩ := List.mem_flatMap.mp hc
  exact Text.Hex.mem_paddedChars hc

namespace Machine

/-- Two machines of which a line shows the same. -/
structure SameLine (m n : Machine) : Prop where
  registers : n.registers = m.registers
  index : n.index = m.index
  timers : n.timers = m.timers
  fetchedAt : n.fetchedAt = m.fetchedAt
  opcode : n.opcode = m.opcode

variable {m n : Machine} {s t : String}

/-! ### The words of a line -/

/-- The words of a line, up to the one that announces the instruction. -/
def lineWords (m : Machine) : List (List Char) :=
  [['V', ':'], marked (ofBytes m.registers.toList.reverse).toList,
    ['I', ':'], marked (paddedChars 4 m.index),
    ['D', 'T', ':'], marked (paddedChars 2 m.timers.delay.toNat),
    ['S', 'T', ':'], marked (paddedChars 2 m.timers.sound.toNat),
    ['P', 'C', ':'], marked (paddedChars 3 m.fetchedAt),
    ['O', 'P', ':'], marked (paddedChars 4 m.opcode),
    ['I', 'N', ':']]

/-- Behind each of the words of a line there is a blank, also behind the last. -/
theorem toList_line (m : Machine) (s : String) :
    (m.line s).toList = m.lineWords.flatMap (· ++ [' ']) ++ s.toList := by
  unfold line
  simp [lineWords, marked]

/-- A line has as many words on every machine. -/
theorem length_lineWords (m : Machine) : m.lineWords.length = 13 :=
  rfl

/-- None of the words of a line has a blank or a break in it. -/
theorem solid_lineWords (m : Machine) : ∀ word ∈ m.lineWords, Solid word := by
  simp only [lineWords, List.forall_mem_cons]
  exact ⟨by decide, solid_bytes _, by decide, solid_number .., by decide, solid_number .., by decide,
    solid_number .., by decide, solid_number .., by decide, solid_number .., by decide,
    fun _ hnone => absurd hnone List.not_mem_nil⟩

/-- The words of a line are its first fields, and behind them the instruction begins. -/
theorem fields_line (m : Machine) (s : String) :
    fields ' ' (m.line s).toList = m.lineWords ++ fields ' ' s.toList := by
  rw [toList_line]
  exact Text.fields_closed (fun word hword => (m.solid_lineWords word hword).1) _

/-- The words of a line tell all that the line shows. -/
theorem sameLine_of_lineWords_eq (h : m.lineWords = n.lineWords) : m.SameLine n := by
  simp only [lineWords, marked, List.cons.injEq, true_and] at h
  obtain ⟨hregisters, hindex, hdelay, hsound, hfetchedAt, hopcode, -⟩ := h
  -- The registers are written in a row, the last one first; all other words are single numbers.
  have hbytes := Text.Hex.ofBytes_injective (String.toList_injective hregisters)
  have htimers : m.timers = n.timers :=
    congrArg₂ Timers.mk (UInt8.toNat_inj.mp (Text.Hex.eq_of_paddedChars_eq hdelay))
      (UInt8.toNat_inj.mp (Text.Hex.eq_of_paddedChars_eq hsound))
  exact
    { registers := (Vector.toList_inj.mp (List.reverse_inj.mp hbytes)).symm
      index := (Text.Hex.paddedChars_injective _ hindex).symm
      timers := htimers.symm
      fetchedAt := (Text.Hex.paddedChars_injective _ hfetchedAt).symm
      opcode := (Text.Hex.paddedChars_injective _ hopcode).symm }

/-- A line tells what it shows, and the instruction at its end. -/
theorem line_eq_iff : m.line s = n.line t ↔ s = t ∧ m.SameLine n := by
  constructor
  · intro h
    have hfields : m.lineWords ++ fields ' ' s.toList = n.lineWords ++ fields ' ' t.toList := by
      rw [← fields_line, h, fields_line]
    obtain ⟨hwords, hrest⟩ :=
      List.append_inj hfields (m.length_lineWords.trans n.length_lineWords.symm)
    refine ⟨String.toList_injective ?_, sameLine_of_lineWords_eq hwords⟩
    -- Behind the words the fields are those of the instruction, and they make up its text again, with
    -- however many blanks in it.
    rw [← Text.intercalate_fields ' ' s.toList, hrest, Text.intercalate_fields]
  · rintro ⟨rfl, hsame⟩
    unfold line
    rw [hsame.registers, hsame.index, hsame.timers, hsame.fetchedAt, hsame.opcode]

/-! ### The call stack and the phase -/

/-- The words that the items of a call stack are written as. -/
def stackWords (items : List Int) : List (List Char) :=
  match items with
  | [] => [['(', 'E', 'm', 'p', 't', 'y', ')']]
  | items => items.map fun item => marked (paddedChars 3 item)

/-- The words of a call stack are words, and the one for an empty stack is as well. -/
theorem solid_stackWords (items : List Int) : ∀ word ∈ stackWords items, Solid word := by
  intro word hword
  cases items with
  | nil =>
    rw [stackWords, List.mem_singleton] at hword
    rw [hword]
    decide
  | cons item rest =>
    obtain ⟨item, -, rfl⟩ := List.mem_map.mp hword
    exact solid_number 3 item

/-- Each item of a call stack is written behind a blank. -/
theorem toList_stackText (stack : CallStack) :
    (stackText stack).toList = (stackWords stack.oldestFirst).flatMap (' ' :: ·) := by
  rw [stackText]
  generalize stack.oldestFirst = items
  cases items with
  | nil => rfl
  | cons item rest =>
    simp [stackWords, marked, List.flatMap_map]

/-- The words tell the items, and there is nothing else that is written as an empty stack is. -/
theorem stackWords_injective : Function.Injective stackWords := by
  have hempty : ∀ item rest, stackWords [] ≠ stackWords (item :: rest) := by
    intro item rest h
    -- A number begins with a zero.
    have hfirst := (List.cons.inj (List.cons.inj h).1).1
    exact absurd hfirst (by decide)
  intro items items' h
  cases items with
  | nil =>
    cases items' with
    | nil => rfl
    | cons item' rest' => exact absurd h (hempty item' rest')
  | cons item rest =>
    cases items' with
    | nil => exact absurd h.symm (hempty item rest)
    | cons item' rest' =>
      have hwords :
          (item :: rest).map (fun item => marked (paddedChars 3 item)) =
            (item' :: rest').map (fun item => marked (paddedChars 3 item)) := h
      refine (List.map_inj_right ?_).mp hwords
      intro a b hab
      exact Text.Hex.paddedChars_injective 3 (List.cons.inj (List.cons.inj hab).2).2

/-- The text of a call stack tells its items. -/
theorem items_eq_of_stackText_eq {stack stack' : CallStack}
    (h : (stackText stack).toList = (stackText stack').toList) : stack.items = stack'.items := by
  have hfields : ∀ stack : CallStack,
      fields ' ' (stackText stack).toList = [] :: stackWords stack.oldestFirst := by
    intro stack
    -- The items of the stack are words, with blanks before them.
    rw [toList_stackText]
    exact Text.fields_opened fun word hword => (solid_stackWords _ word hword).1
  have hwords := hfields stack
  rw [h, hfields stack'] at hwords
  exact (List.reverse_inj.mp (stackWords_injective (List.cons.inj hwords).2)).symm

theorem phaseText_running : phaseText .running = "RUNNING" :=
  rfl

theorem phaseText_awaitingKey (r : Register) :
    phaseText (.awaitingKey r) = "AWAITING_KEY (V" ++ Text.Hex.padded 1 r.val ++ ")" :=
  rfl

/-- The register that a key is awaited for is one digit, with brackets around it. -/
theorem toList_phaseText_awaitingKey (r : Register) :
    (phaseText (.awaitingKey r)).toList =
      "AWAITING_KEY (V".toList ++ (paddedChars 1 r.val ++ [')']) := by
  rw [phaseText_awaitingKey, String.toList_append, String.toList_append, Text.Hex.toList_padded,
    List.append_assoc]
  rfl

/-- The text of a phase tells whether a key is awaited, and for which register. -/
theorem phaseText_injective : Function.Injective phaseText := by
  have hrunning : ∀ r, (phaseText .running).toList ≠ (phaseText (.awaitingKey r)).toList := by
    intro r
    rw [phaseText_running, toList_phaseText_awaitingKey]
    -- They differ in the first letter.
    simp
  intro phase phase' h
  replace h := congrArg String.toList h
  cases phase with
  | running =>
    cases phase' with
    | running => rfl
    | awaitingKey r' => exact absurd h (hrunning r')
  | awaitingKey r =>
    cases phase' with
    | running => exact absurd h.symm (hrunning r)
    | awaitingKey r' =>
      rw [toList_phaseText_awaitingKey, toList_phaseText_awaitingKey] at h
      have hdigits := List.append_cancel_right (List.append_cancel_left h)
      rw [Fin.ext (Text.Hex.eq_of_paddedChars_eq hdigits)]

/-! ### The three lines of a full report -/

/-- The lines of a full report. -/
def reportLines (m : Machine) (s : String) : List (List Char) :=
  [(m.line s).toList, "Stack:".toList ++ (stackText m.stack).toList,
    "State: ".toList ++ (phaseText m.phase).toList]

/-- A full report has a break between each of its lines and the next. -/
theorem toList_fullReport (m : Machine) (s : String) :
    (m.fullReport s).toList = ['\n'].intercalate (m.reportLines s) := by
  unfold fullReport
  simp [reportLines, List.intercalate_cons_cons]

/-- There is no break within a line, as long as there is none in the instruction. -/
theorem break_notMem_reportLines (m : Machine) (hs : '\n' ∉ s.toList) :
    ∀ text ∈ m.reportLines s, '\n' ∉ text := by
  simp only [reportLines, List.forall_mem_cons]
  refine ⟨?_, ?_, ?_, fun _ hnone => absurd hnone List.not_mem_nil⟩
  · -- Within the first line only the instruction could have one.
    rw [toList_line]
    intro hmem
    rcases List.mem_append.mp hmem with hmem | hmem
    · obtain ⟨word, hword, hmem⟩ := List.mem_flatMap.mp hmem
      rcases List.mem_append.mp hmem with hmem | hmem
      · exact (m.solid_lineWords word hword).2 hmem
      · exact absurd hmem (by decide)
    · exact hs hmem
  · rw [toList_stackText]
    intro hmem
    rcases List.mem_append.mp hmem with hmem | hmem
    · exact absurd hmem (by simp)
    · obtain ⟨word, hword, hmem⟩ := List.mem_flatMap.mp hmem
      rcases List.mem_cons.mp hmem with hmem | hmem
      · exact absurd hmem (by decide)
      · exact (solid_stackWords _ word hword).2 hmem
  · cases m.phase with
    | running => rw [phaseText_running]; decide
    | awaitingKey r =>
      rw [toList_phaseText_awaitingKey]
      have hdigits : '\n' ∉ paddedChars 1 r.val := by
        intro hmem
        exact (solid_number 1 r.val).2 (List.mem_cons_of_mem _ (List.mem_cons_of_mem _ hmem))
      simp [hdigits]

/-- So the report falls apart into its lines. -/
theorem fields_fullReport (m : Machine) (hs : '\n' ∉ s.toList) :
    fields '\n' (m.fullReport s).toList = m.reportLines s := by
  rw [toList_fullReport]
  exact Text.fields_intercalate (List.cons_ne_nil _ _) (m.break_notMem_reportLines hs)

/-- A full report tells what it shows: the line, the call stack and the phase. -/
theorem fullReport_eq_iff (hs : '\n' ∉ s.toList) (ht : '\n' ∉ t.toList) :
    m.fullReport s = n.fullReport t ↔
      s = t ∧ m.SameLine n ∧ n.stack.items = m.stack.items ∧ n.phase = m.phase := by
  constructor
  · intro h
    have hlines : m.reportLines s = n.reportLines t := by
      rw [← fields_fullReport m hs, h, fields_fullReport n ht]
    simp only [reportLines, List.cons.injEq, and_true] at hlines
    obtain ⟨hline, hstack, hphase⟩ := hlines
    -- The three lines are read one by one.
    obtain ⟨htext, hsame⟩ := line_eq_iff.mp (String.toList_injective hline)
    refine ⟨htext, hsame, (items_eq_of_stackText_eq (List.append_cancel_left hstack)).symm, ?_⟩
    exact (phaseText_injective (String.toList_injective (List.append_cancel_left hphase))).symm
  · rintro ⟨rfl, hsame, hitems, hphase⟩
    have hline : m.line s = n.line s := line_eq_iff.mpr ⟨rfl, hsame⟩
    have hstack : stackText m.stack = stackText n.stack := by
      unfold stackText CallStack.oldestFirst
      rw [hitems]
    unfold fullReport
    rw [hline, hstack, hphase]

/-- **A report loses nothing.** Two machines, reachable or not, have the same line exactly if the same
instruction is written at its end and they have the same registers, index and timers, and the same word
noted and the same address for it. If the instruction is written on one line, they have the same full report
exactly if they also have the same return addresses, in the same order, and if both run or both wait for a
key to be stored in the same register. -/
theorem report_lossless (m n : Machine) (s t : String) :
    (m.report s false = n.report t false ↔ s = t ∧ m.SameLine n) ∧
      ('\n' ∉ s.toList → '\n' ∉ t.toList →
        (m.report s true = n.report t true ↔
          s = t ∧ m.SameLine n ∧ n.stack.items = m.stack.items ∧ n.phase = m.phase)) :=
  ⟨line_eq_iff, fullReport_eq_iff⟩

/-- A machine whose program calls itself, after some of the calls. -/
def calling (calls : Nat) : Machine :=
  (boot {} (Noise.cycling [])).after (.loadRom [0x22, 0x00] :: List.replicate calls .cycle)

/-- The lines at two calls are the same, while the full reports tell the calls apart. -/
theorem report_lossless_calling :
    (calling 1).report "CALL 200" false = (calling 2).report "CALL 200" false ∧
      (calling 1).report "CALL 200" true ≠ (calling 2).report "CALL 200" true ∧
      (calling 1).report "CALL 200" true ≠ (calling 1).report "???" true := by
  obtain ⟨hregisters, hindex, htimers, hfetchedAt, hopcode, hcalls⟩ :
      (calling 2).registers = (calling 1).registers ∧ (calling 2).index = (calling 1).index ∧
        (calling 2).timers = (calling 1).timers ∧ (calling 2).fetchedAt = (calling 1).fetchedAt ∧
        (calling 2).opcode = (calling 1).opcode ∧
        (calling 2).stack.items ≠ (calling 1).stack.items := by
    decide +kernel
  have hsame : (calling 1).SameLine (calling 2) :=
    ⟨hregisters, hindex, htimers, hfetchedAt, hopcode⟩
  obtain ⟨hline, hfull⟩ := report_lossless (calling 1) (calling 2) "CALL 200" "CALL 200"
  refine ⟨hline.mpr ⟨rfl, hsame⟩, fun h => ?_, fun h => ?_⟩
  · obtain ⟨-, -, hitems, -⟩ := (hfull (by decide) (by decide)).mp h
    exact hcalls hitems
  · obtain ⟨-, hother⟩ := report_lossless (calling 1) (calling 1) "CALL 200" "???"
    obtain ⟨htext, -⟩ := (hother (by decide) (by decide)).mp h
    exact absurd htext (by decide)

end Machine

end Chip8
