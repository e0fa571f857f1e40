import Chip8.Proofs.Instruction.Assembly
import Chip8.Proofs.Machine.Unseen

/-!
# Assembly tells what a word does

Words that have the same assembly do the same to every machine
(`Machine.assembly_determines_behaviour`). The assembly tells the form and the operands that the form
shows, and an instruction uses no others (`Machine.execute_congr`): the shifts carry a second register
in their words that neither is shown nor looked at. What is left of a difference between the two words
is that the machine has noted one or the other, which is part of its guise.
-/

namespace Chip8

namespace Machine

variable {form : Form} {o o' : Operands}

/-- An instruction uses no operands but those that its assembly shows. -/
theorem execute_congr (h : ∀ operand ∈ form.shown, o.value operand = o'.value operand) :
    execute ⟨form, o⟩ = execute ⟨form, o'⟩ := by
  obtain ⟨x, y, n, kk, nnn⟩ := o
  obtain ⟨x', y', n', kk', nnn'⟩ := o'
  have hx : Operand.x ∈ form.shown → x = x' := fun hmem => Fin.ext (h .x hmem)
  have hy : Operand.y ∈ form.shown → y = y' := fun hmem => Fin.ext (h .y hmem)
  have hn : Operand.n ∈ form.shown → n = n' := fun hmem => Fin.ext (h .n hmem)
  have hkk : Operand.kk ∈ form.shown → kk = kk' := fun hmem => UInt8.toNat_inj.mp (h .kk hmem)
  have hnnn : Operand.nnn ∈ form.shown → nnn = nnn' := fun hmem => Fin.ext (h .nnn hmem)
  -- The forms by what they show; the operands of the two that are not shown stay different.
  cases form with
  | clear | ret => rfl
  | jump | call | setIndex | jumpFrom =>
    obtain rfl := hnnn (by decide)
    rfl
  | skipIfByte | skipUnlessByte | setByte | addByte | random =>
    obtain rfl := hx (by decide)
    obtain rfl := hkk (by decide)
    rfl
  | skipIfEqual | skipUnlessEqual | copy | or | and | xor | add | sub | subFrom =>
    obtain rfl := hx (by decide)
    obtain rfl := hy (by decide)
    rfl
  | draw =>
    obtain rfl := hx (by decide)
    obtain rfl := hy (by decide)
    obtain rfl := hn (by decide)
    rfl
  | shiftRight | shiftLeft | skipIfHeld | skipUnlessHeld | readDelay | awaitKey | setDelay | setSound
  | addIndex | glyph | decimal | store | load =>
    obtain rfl := hx (by decide)
    rfl

variable {v w : Int} {i j : Instruction}

/-- What an instruction does when another word is noted for it. -/
theorem obey_withOpcode (m : Machine) (i : Instruction) (w : Int) :
    ({ m with opcode := w }.obey i).fault = (m.obey i).fault ∧
      ({ m with opcode := w }.obey i).machine = { (m.obey i).machine with opcode := w } := by
  cases hrefusal : m.refusal? i with
  | some fault =>
    have hrefusal' : { m with opcode := w }.refusal? i = some fault := hrefusal
    simp only [obey, execute_of_refusal hrefusal, execute_of_refusal hrefusal', and_self]
  | none =>
    obtain ⟨after, hexecute⟩ := execute_of_no_refusal hrefusal
    have hguise := guise_of_execute hrefusal hexecute
    have hexecute' := execute_guise (g := { Guise.of m with opcode := w }) rfl hrefusal hexecute
    -- The instruction leaves of both guises the same but for the word.
    have hpast : { Guise.of m with opcode := w }.past i.form =
        { Guise.of after with opcode := w } := by
      rw [hguise]
      cases i.form <;> rfl
    rw [hpast] at hexecute'
    have hnoted : execute i { m with opcode := w } = .ok () { after with opcode := w } := hexecute'
    simp only [obey, hexecute, hnoted, and_self]

/-- **Assembly tells what a word does.** Two words that stand for instructions have the same assembly
exactly if they have the same form and the same operands of those that the form shows. If they do, then
running the one or the other on any machine whatever has the same outcome, and leaves the same machine
but for the word that is noted; so it also draws as many random bytes. -/
theorem assembly_determines_behaviour (hv : Instruction.ofWord? v = some i)
    (hw : Instruction.ofWord? w = some j) :
    (i.text = j.text ↔ i.form = j.form ∧
        ∀ operand ∈ i.form.shown, i.operands.value operand = j.operands.value operand) ∧
      (i.text = j.text → ∀ m : Machine,
        (m.perform w).fault = (m.perform v).fault ∧
          (m.perform w).machine = { (m.perform v).machine with opcode := w } ∧
          (m.perform w).machine.noise.drawn = (m.perform v).machine.noise.drawn) := by
  refine ⟨i.text_eq_iff j, ?_⟩
  intro htext m
  obtain ⟨hform, hshown⟩ := (i.text_eq_iff j).mp htext
  have hexecute : execute i = execute j := by
    obtain ⟨form, o⟩ := i
    obtain ⟨form', o'⟩ := j
    obtain rfl : form = form' := hform
    exact execute_congr hshown
  -- The other word is noted on a machine that has already noted the one.
  obtain ⟨hfault, hmachine⟩ := { m with opcode := v }.obey_withOpcode i w
  have hobey : ({ m with opcode := w }.obey j).fault = ({ m with opcode := w }.obey i).fault ∧
      ({ m with opcode := w }.obey j).machine = ({ m with opcode := w }.obey i).machine := by
    simp only [obey, hexecute]
    cases execute j { m with opcode := w } <;> exact ⟨rfl, rfl⟩
  rw [perform_of_ofWord? hv, perform_of_ofWord? hw, hobey.1, hobey.2]
  have hdrawn := congrArg (fun m : Machine => m.noise.drawn) hmachine
  exact ⟨hfault, hmachine, hdrawn⟩

/-- A machine that has put something to shift into a register. -/
def loaded : Machine :=
  (boot {} (Noise.cycling [])).after [.loadRom [0x61, 0x2B], .cycle]

/-- The words of two shifts that differ in a register which is not shown. -/
theorem assembly_determines_behaviour_shifts :
    Instruction.ofWord? 0x8126 = some ⟨.shiftRight, Operands.ofWord 0x8126⟩ ∧
      Instruction.ofWord? 0x8136 = some ⟨.shiftRight, Operands.ofWord 0x8136⟩ ∧
      (Operands.ofWord 0x8126).y ≠ (Operands.ofWord 0x8136).y ∧
      (loaded.perform 0x8136).machine =
        { (loaded.perform 0x8126).machine with opcode := 0x8136 } := by
  have hv : Instruction.ofWord? 0x8126 = some ⟨.shiftRight, Operands.ofWord 0x8126⟩ := by decide
  have hw : Instruction.ofWord? 0x8136 = some ⟨.shiftRight, Operands.ofWord 0x8136⟩ := by decide
  obtain ⟨-, hbehaviour⟩ := assembly_determines_behaviour hv hw
  exact ⟨hv, hw, by decide, (hbehaviour rfl loaded).2.1⟩

end Machine

end Chip8
