import Chip8.Proofs.Machine.KeyWait
import Chip8.Proofs.Machine.Loading

/-!
# Who may change what

Every part of a machine belongs to a few instructions (`Part.Owner`), and `Machine.Touches` adds what is
done to it from outside. This is a table and says nothing about how an instruction works; that the
table is complete is the law of this module. If a part is not the same after an event, the event
touches it (`Machine.Invariant.touches_of_changed`), and if it is not the same after a run, some event of
the run touched it on the way (`Machine.Invariant.touches_of_changed_after`).

For memory there is more to say. A byte is covered by a program that is loaded or by an instruction
that stores digits or registers, and by nothing else. So as long as no instruction has covered it, it is
the byte that was loaded (`Machine.loadedByte`), however long the run and whatever else happens in it.

* `Machine.changes_have_owners`: all of this for every run from a machine that has just been built.
-/

namespace Chip8

namespace Form

/-- The form sets the register in the second nibble of its word. -/
def setsOperand : Form → Bool
  | .setByte | .addByte | .copy | .or | .and | .xor => true
  | .add | .sub | .shiftRight | .subFrom | .shiftLeft => true
  | .random | .readDelay => true
  | _ => false

/-- The form sets the flag register. -/
def setsFlag : Form → Bool
  | .add | .sub | .shiftRight | .subFrom | .shiftLeft | .draw => true
  | _ => false

end Form

/-- The parts of a machine that have owners. -/
inductive Part
  | byte (address : Nat)
  | pixels
  /-- The mark that the pixels may have changed. -/
  | changed
  | stack
  | index
  | delay
  | sound
  | phase
  | keypad
  /-- Which random bytes have been drawn. -/
  | noise
  | register (r : Register)
  deriving DecidableEq

namespace Part

/-- The part is the same on both machines. -/
def Same (m after : Machine) : Part → Prop
  | .byte address => after.memory.byteAt address = m.memory.byteAt address
  | .pixels => after.screen.cells = m.screen.cells
  | .changed => after.screen.changed = m.screen.changed
  | .stack => after.stack = m.stack
  | .index => after.index = m.index
  | .delay => after.timers.delay = m.timers.delay
  | .sound => after.timers.sound = m.timers.sound
  | .phase => after.phase = m.phase
  | .keypad => after.keypad = m.keypad
  | .noise => after.noise = m.noise
  | .register r => after.register r = m.register r

/-- The part belongs to the instruction, on the machine that runs it. -/
def Owner (m : Machine) (i : Instruction) : Part → Prop
  | .byte address =>
    i.form = .decimal ∧ m.index ≤ address ∧ address ≤ m.index + 2 ∨
      i.form = .store ∧ m.index ≤ address ∧ address ≤ m.index + i.operands.x.val
  | .pixels | .changed => i.form = .clear ∨ i.form = .draw
  | .stack => i.form = .call ∨ i.form = .ret
  | .index => i.form = .setIndex ∨ i.form = .addIndex ∨ i.form = .glyph
  | .delay => i.form = .setDelay
  | .sound => i.form = .setSound
  | .phase => i.form = .awaitKey
  | .keypad => False
  | .noise => i.form = .random
  | .register r =>
    i.form.setsOperand = true ∧ r = i.operands.x ∨
      i.form.setsFlag = true ∧ r = Machine.flagRegister ∨
      i.form = .load ∧ r ≤ i.operands.x

variable {part : Part} {m after last : Machine}

theorem Same.refl (part : Part) (m : Machine) : part.Same m m := by
  cases part <;> rfl

theorem Same.trans (h : part.Same m after) (hlast : part.Same after last) : part.Same m last := by
  cases part <;> exact Eq.trans hlast h

/-- Fetching a word concerns none of the parts. -/
theorem same_fetched (part : Part) (m : Machine) (word : Int) : part.Same m (m.fetched word) := by
  cases part <;> rfl

/-- Whom a part belongs to is the same before the fetch and after it. -/
theorem owner_fetched {i : Instruction} {word : Int} :
    part.Owner (m.fetched word) i ↔ part.Owner m i := by
  cases part <;> rfl

end Part

/-- The byte at an address after an event that covers it by a program or not at all. -/
def Event.loadedOver (address : Nat) (byte : UInt8) : Event → UInt8
  | .loadRom rom =>
    if rom.length ≤ 0xE00 ∧ 0x200 ≤ address ∧ address < 0x200 + rom.length then
      rom.getD (address - 0x200) 0
    else byte
  | _ => byte

namespace Machine

/-- The byte that was loaded last at an address, in a run from a machine that has just been built. -/
def loadedByte (address : Nat) (events : List Event) : UInt8 :=
  events.foldl (Event.loadedOver address) (Layout.glyphs.getD address 0)

/-- The machine carries the instruction out in its next cycle. -/
def Obeys (m : Machine) (i : Instruction) : Prop :=
  ∃ word, m.Meets word ∧ i.form.Fits word ∧ i.operands = Operands.ofWord word ∧ m.cycle.fault = none

/-- All the ways in which an event can change a part. -/
inductive Touches (m : Machine) : Event → Part → Prop
  /-- The part belongs to the instruction that is carried out. -/
  | instruction {i : Instruction} {part : Part} (hi : m.Obeys i) (hpart : part.Owner m i) :
      Touches m .cycle part
  /-- The machine has waited for a key, which is held. -/
  | keyFound {r : Register} {key : Key} (hphase : m.phase = .awaitingKey r)
      (hheld : m.keypad.isHeld key = true) : Touches m .cycle .phase
  | keyStored {r : Register} {key : Key} (hphase : m.phase = .awaitingKey r)
      (hheld : m.keypad.isHeld key = true) : Touches m .cycle (.register r)
  | loaded {rom : List UInt8} {address : Nat} (hfits : rom.length ≤ 0xE00)
      (hin : 0x200 ≤ address ∧ address < 0x200 + rom.length) :
      Touches m (.loadRom rom) (.byte address)
  | changeAsked : Touches m .consumeChanged .changed
  | delayCounted : Touches m .tick .delay
  | soundCounted : Touches m .tick .sound
  | delaySet (value : Int) : Touches m (.setDelay value) .delay
  | soundSet (value : Int) : Touches m (.setSound value) .sound
  | pressed (key : Key) : Touches m (.press key) .keypad
  | released (key : Key) : Touches m (.release key) .keypad
  | allReleased : Touches m .releaseAll .keypad

variable {m after : Machine} {i : Instruction} {part : Part} {event : Event}

/-! ### Instructions -/

/-- A run of bytes is loaded into the registers up to one, and no others. -/
theorem register_setRegistersTo (m : Machine) (last r : Register) (bytes : List UInt8) :
    (m.setRegistersTo last bytes).register r =
      if r ≤ last then bytes.getD r.val 0 else m.register r := by
  simp only [register, setRegistersTo, Fin.getElem_fin, Vector.getElem_ofFn, Fin.eta]

/-- A skip sets no register. -/
theorem register_skipIf (m : Machine) (condition : Bool) (r : Register) :
    (m.skipIf condition).register r = m.register r := by
  cases condition <;> rfl

/-- A register that does not belong to an instruction is left alone by it. -/
theorem register_execute (hrefusal : m.refusal? i = none) (h : execute i m = .ok () after)
    {r : Register} (hother : ¬ (Part.register r).Owner m i) : after.register r = m.register r := by
  obtain ⟨form, o⟩ := i
  rw [Part.Owner, not_or, not_or, not_and, not_and, not_and] at hother
  obtain ⟨hoperand, hflag, hload⟩ := hother
  -- The forms that can be refused run by their equations, and the others just run.
  cases form with
  | ret =>
    obtain ⟨address, rest, hitems⟩ := items_of_ret_admitted hrefusal
    rw [execute_ret_of_cons o hitems] at h
    cases h
    rfl
  | call =>
    rw [execute_call_of_room o (room_of_call_admitted hrefusal)] at h
    cases h
    rfl
  | decimal =>
    rw [execute_decimal_of_no_refusal o hrefusal] at h
    cases h
    rfl
  | store =>
    rw [execute_store_of_no_refusal o hrefusal] at h
    cases h
    rfl
  | load =>
    rw [execute_load_of_no_refusal o hrefusal] at h
    cases h
    rw [register_setRegistersTo, if_neg (hload rfl)]
  | draw =>
    rw [execute_draw_of_no_refusal o hrefusal] at h
    cases h
    rw [setFlag, register_setRegister, if_neg (hflag rfl)]
    rfl
  | add | sub | shiftRight | subFrom | shiftLeft =>
    cases h
    rw [setWithFlag, setFlag, register_setRegister, if_neg (hflag rfl), register_setRegister,
      if_neg (hoperand rfl)]
  | setByte | addByte | copy | or | and | xor | readDelay =>
    cases h
    rw [register_setRegister, if_neg (hoperand rfl)]
  | random =>
    cases h
    rw [register_setRegister, if_neg (hoperand rfl)]
    rfl
  | skipIfByte | skipUnlessByte | skipIfEqual | skipUnlessEqual | skipIfHeld | skipUnlessHeld =>
    cases h
    rw [register_skipIf]
  | _ =>
    cases h
    rfl

/-- Storing a block that is not refused changes no byte outside of it. -/
theorem byteAt_put_of_outside (bytes : List UInt8)
    (hrefusal : m.spanRefusal? bytes.length = none) {address : Nat}
    (hout : ¬ (m.index ≤ address ∧ address < m.index + bytes.length)) :
    (m.memory.put m.index.toNat bytes).byteAt address = m.memory.byteAt address := by
  -- A block of no bytes is put in place without a check, and changes nothing.
  by_cases hpos : 0 < bytes.length
  · obtain ⟨h0, h1⟩ := spanRefusal?_eq_none_iff.mp hrefusal (by omega)
    rw [Memory.byteAt_put _ _ _ _ (by omega), if_neg (by omega)]
  · have hnil : bytes = [] := List.length_eq_zero_iff.mp (by omega)
    rw [hnil]
    rfl

/-- So is a byte of memory. -/
theorem byteAt_execute (hrefusal : m.refusal? i = none) (h : execute i m = .ok () after)
    {address : Nat} (hother : ¬ (Part.byte address).Owner m i) :
    after.memory.byteAt address = m.memory.byteAt address := by
  have hkept := kept_of_execute hrefusal h
  obtain ⟨form, o⟩ := i
  obtain ⟨hdigits, hregisters⟩ := not_or.mp hother
  -- Two forms store, each over a block of its own length; all others keep the whole of memory.
  by_cases hdecimal : form = .decimal
  · subst hdecimal
    have hout : ¬ (m.index ≤ address ∧ address ≤ m.index + 2) := fun hin => hdigits ⟨rfl, hin⟩
    rw [execute_decimal_of_no_refusal o hrefusal] at h
    cases h
    refine byteAt_put_of_outside (decimalDigits _) hrefusal ?_
    simp only [decimalDigits, List.length_cons, List.length_nil]
    omega
  by_cases hstore : form = .store
  · subst hstore
    have hout : ¬ (m.index ≤ address ∧ address ≤ m.index + o.x.val) := fun hin =>
      hregisters ⟨rfl, hin⟩
    have hlength := length_registersTo m o.x
    rw [execute_store_of_no_refusal o hrefusal] at h
    cases h
    have hadmitted : m.spanRefusal? (m.registersTo o.x).length = none := by
      rw [hlength]
      exact hrefusal
    refine byteAt_put_of_outside _ hadmitted ?_
    rw [hlength]
    omega
  · rw [hkept.memory hdecimal hstore]

/-- An instruction leaves alone every part that does not belong to it. -/
theorem same_of_execute (hrefusal : m.refusal? i = none) (h : execute i m = .ok () after)
    (hother : ¬ part.Owner m i) : part.Same m after := by
  have hkept := kept_of_execute hrefusal h
  cases part with
  | byte address => exact byteAt_execute hrefusal h hother
  | register r => exact register_execute hrefusal h hother
  | pixels | changed =>
    obtain ⟨hclear, hdraw⟩ := not_or.mp hother
    rw [Part.Same, hkept.screen hclear hdraw]
  | stack =>
    obtain ⟨hcall, hret⟩ := not_or.mp hother
    exact hkept.stack hcall hret
  | index =>
    obtain ⟨hset, hrest⟩ := not_or.mp hother
    obtain ⟨hadd, hglyph⟩ := not_or.mp hrest
    exact hkept.index hset hadd hglyph
  | delay => exact hkept.delay hother
  | sound => exact hkept.sound hother
  | phase => exact hkept.phase hother
  | noise => exact hkept.noise hother
  | keypad => exact hkept.keypad

/-! ### Events -/

/-- A cycle that goes through to its end obeys the instruction that it has decoded. -/
theorem Invariant.obeys (hm : m.Invariant) {word : Int} (hphase : m.phase = .running)
    (hfetch : m.fetch = .ok word) (hword : Instruction.ofWord? word = some i)
    (hended : m.cycle.fault = none) : m.Obeys i := by
  obtain ⟨hmeets, hform, hoperands⟩ := hm.meets_instruction hphase hfetch hword
  exact ⟨word, hmeets, hform, hoperands, hended⟩

/-- A machine that waits for a key changes only if it finds one. -/
theorem same_pollKeypad {r : Register} (hphase : m.phase = .awaitingKey r)
    (hfree : ¬ m.Touches .cycle part) : part.Same m (m.pollKeypad r) := by
  unfold pollKeypad
  cases hkey : m.keypad.firstHeld? with
  | none => exact .refl part m
  | some key =>
    -- A key is found, and then the phase and the register that waited for it are touched.
    obtain ⟨hheld, -⟩ := Keypad.firstHeld?_eq_some_iff.mp hkey
    cases part with
    | phase => exact absurd (.keyFound hphase hheld) hfree
    | register s =>
      have hother : s ≠ r := by
        rintro rfl
        exact hfree (.keyStored hphase hheld)
      change (m.setRegister r _).register s = m.register s
      rw [register_setRegister, if_neg hother]
    | _ => rfl

/-- A cycle leaves alone every part that it does not touch. -/
theorem Invariant.same_cycle (hm : m.Invariant) (hfree : ¬ m.Touches .cycle part) :
    part.Same m m.cycle.machine := by
  have hstep := m.step_cycle
  generalize ho : m.cycle = o at hstep
  cases hstep with
  | poll r hphase => exact same_pollKeypad hphase hfree
  | unfetched fault hphase hfetch =>
    -- Only the address is noted, which is not one of the parts.
    cases part <;> rfl
  | unrecognized word hphase hfetch hword => exact part.same_fetched m word
  | refused word i fault hphase hfetch hword hrefusal => exact part.same_fetched m word
  | obeyed word i after hphase hfetch hword hrefusal hexecute =>
    have hobeys : m.Obeys i := hm.obeys hphase hfetch hword (by rw [ho])
    -- The fetch has changed none of the parts, so that owners are asked for on the machine before it.
    have hother : ¬ part.Owner (m.fetched word) i := fun howner =>
      hfree (.instruction hobeys (Part.owner_fetched.mp howner))
    exact (part.same_fetched m word).trans (same_of_execute hrefusal hexecute hother)

/-- An event leaves alone every part that it does not touch. -/
theorem Invariant.same_react (hm : m.Invariant) (hfree : ¬ m.Touches event part) :
    part.Same m (m.react event).machine := by
  -- Each event from outside touches one part or two, and the others are not mentioned in what it does.
  cases event with
  | cycle => exact hm.same_cycle hfree
  | loadRom rom =>
    by_cases hfits : rom.length ≤ 0xE00
    · rw [hm.loadRom_of_fits hfits]
      cases part with
      | byte address =>
        have hout : ¬ (0x200 ≤ address ∧ address < 0x200 + rom.length) := fun hin =>
          hfree (.loaded hfits hin)
        exact (hm.byteAt_put_rom hfits address).trans (if_neg hout)
      | _ => rfl
    · rw [hm.loadRom_of_too_large (by omega)]
      exact .refl part m
  | tick =>
    cases part with
    | delay => exact absurd .delayCounted hfree
    | sound => exact absurd .soundCounted hfree
    | _ => rfl
  | setDelay value =>
    cases part with
    | delay => exact absurd (.delaySet value) hfree
    | _ => rfl
  | setSound value =>
    cases part with
    | sound => exact absurd (.soundSet value) hfree
    | _ => rfl
  | press key =>
    cases part with
    | keypad => exact absurd (.pressed key) hfree
    | _ => rfl
  | release key =>
    cases part with
    | keypad => exact absurd (.released key) hfree
    | _ => rfl
  | releaseAll =>
    cases part with
    | keypad => exact absurd .allReleased hfree
    | _ => rfl
  | consumeChanged =>
    cases part with
    | changed => exact absurd .changeAsked hfree
    | _ => rfl
  | askSound => exact .refl part m
  | askPicture => exact .refl part m

/-- A part that is not the same after an event was touched by it. -/
theorem Invariant.touches_of_changed (hm : m.Invariant)
    (hchanged : ¬ part.Same m (m.react event).machine) : m.Touches event part := by
  by_contra hfree
  exact hchanged (hm.same_react hfree)

/-- A part that is not the same after a run was touched by one of its events. -/
theorem Invariant.touches_of_changed_after (hm : m.Invariant) {events : List Event}
    (hchanged : ¬ part.Same m (m.after events)) :
    ∃ before event rest, events = before ++ event :: rest ∧ (m.after before).Touches event part := by
  induction events generalizing m with
  | nil => exact absurd (.refl part m) hchanged
  | cons event rest ih =>
    by_cases hfirst : m.Touches event part
    · exact ⟨[], event, rest, rfl, hfirst⟩
    · -- The first event has left the part alone, so it was changed later.
      have hsame := hm.same_react hfirst
      have hlater : ¬ part.Same (m.react event).machine ((m.react event).machine.after rest) :=
        fun h => hchanged (hsame.trans h)
      obtain ⟨before, other, behind, rfl, htouches⟩ := ih (hm.react event) hlater
      exact ⟨event :: before, other, behind, rfl, htouches⟩

/-! ### Bytes that were loaded -/

/-- A new machine has the glyphs at the beginning of memory, and zeros behind them. -/
theorem byteAt_boot (monitor : Monitor) (noise : Noise) (address : Nat) :
    (boot monitor noise).memory.byteAt address = Layout.glyphs.getD address 0 := by
  -- The glyphs are put into a memory that is large enough for them.
  have hblank : (Memory.blank Layout.memorySize).size = 0x1000 := by
    rw [Memory.size, Memory.blank, Array.size_replicate]
    rfl
  have hput := Memory.byteAt_put (Memory.blank Layout.memorySize) Layout.fontStart address
    Layout.glyphs (by rw [hblank]; decide)
  refine hput.trans ?_
  split
  · rfl
  · -- Behind the glyphs there are zeros, in memory and beyond the end of the list.
    rename_i hout
    have hbehind : Layout.glyphs.length ≤ address := by
      rw [Layout.fontStart] at hout
      omega
    rw [List.getD_eq_default _ _ hbehind, Memory.byteAt, Memory.blank, Array.getD_eq_getD_getElem?,
      Array.getElem?_replicate]
    split <;> rfl

/-- An event that covers a byte by no instruction leaves what was loaded there. -/
theorem Invariant.byteAt_react (hm : m.Invariant) (event : Event) {address : Nat}
    (hfree : event = .cycle → ∀ i, m.Obeys i → ¬ (Part.byte address).Owner m i) :
    (m.react event).machine.memory.byteAt address =
      event.loadedOver address (m.memory.byteAt address) := by
  cases event with
  | loadRom rom =>
    by_cases hfits : rom.length ≤ 0xE00
    · simp only [Event.loadedOver, hfits, true_and]
      rw [hm.loadRom_of_fits hfits]
      exact hm.byteAt_put_rom hfits address
    · rw [hm.loadRom_of_too_large (by omega), Event.loadedOver, if_neg fun h => hfits h.1]
  | cycle =>
    -- An instruction is the one way for a cycle to touch memory.
    have huntouched : ¬ m.Touches .cycle (.byte address) := by
      rintro (⟨hi, howner⟩ | _)
      exact hfree rfl _ hi howner
    exact hm.same_cycle huntouched
  | _ => rfl

/-- So it is after a run in which no instruction covers the byte: what was loaded there last is left. -/
theorem Invariant.byteAt_after (hm : m.Invariant) {events : List Event} {address : Nat}
    (hfree : ∀ before rest, events = before ++ .cycle :: rest →
      ∀ i, (m.after before).Obeys i → ¬ (Part.byte address).Owner (m.after before) i) :
    (m.after events).memory.byteAt address =
      events.foldl (Event.loadedOver address) (m.memory.byteAt address) := by
  induction events generalizing m with
  | nil => rfl
  | cons event rest ih =>
    -- The first event loads the byte over or leaves it, and the hypothesis about cycles is handed on to
    -- the rest.
    have hfirst := hm.byteAt_react event fun hcycle => hfree [] rest (by rw [hcycle]; rfl)
    rw [after_cons, List.foldl_cons, ← hfirst]
    exact ih (hm.react event) fun before behind hsplit =>
      hfree (event :: before) behind (by rw [hsplit]; rfl)

/-- An instruction that asks for a random byte draws one, and does so without a fault. -/
theorem Meets.noise_of_random (hm : m.Invariant) {word : Int} (hword : m.Meets word)
    (hform : Form.random.Fits word) :
    m.cycle.fault = none ∧ m.cycle.machine.noise = m.noise.draw.2 := by
  rw [hword.cycle_of_execute hm hform rfl]
  exact ⟨rfl, rfl⟩

/-- **Every change has an owner.** Take a machine after any run, whichever faults it has raised. If an
event changes a part of it, the event touches that part, and so does some event of every longer run that
changes it. A random byte is drawn by each instruction that asks for one. A byte of memory that no
instruction has covered so far is the one that was loaded there last. -/
theorem changes_have_owners (monitor : Monitor) (noise : Noise) (past : List Event) :
    let m := (boot monitor noise).after past
    (∀ event part, ¬ part.Same m (m.react event).machine → m.Touches event part) ∧
      (∀ word, m.Meets word → Form.random.Fits word →
        m.cycle.fault = none ∧ m.cycle.machine.noise = m.noise.draw.2) ∧
      (∀ events part, ¬ part.Same m (m.after events) → ∃ before event rest,
        events = before ++ event :: rest ∧ (m.after before).Touches event part) ∧
      ∀ address, (∀ before rest, past = before ++ .cycle :: rest →
          ∀ i, ((boot monitor noise).after before).Obeys i →
            ¬ (Part.byte address).Owner ((boot monitor noise).after before) i) →
        m.memory.byteAt address = loadedByte address past := by
  intro m
  have hboot : (boot monitor noise).Invariant := .boot monitor noise
  have hm : m.Invariant := hboot.after past
  refine ⟨fun event part => hm.touches_of_changed, fun word hword => hword.noise_of_random hm,
    fun events part => hm.touches_of_changed_after, fun address hfree => ?_⟩
  -- What is loaded first is what a new machine has in its memory.
  rw [loadedByte, ← byteAt_boot monitor noise]
  exact hboot.byteAt_after hfree

/-- A run that stores two registers over the first glyph. -/
def glyphCovered : List Event :=
  [.loadRom [0xF1, 0x55], .tick, .cycle]

/-- The first byte of the glyph is covered, which some event has done, and the third is still there. -/
theorem changes_have_owners_glyphCovered :
    let m := (boot {} (Noise.cycling [])).after glyphCovered
    (m.memory.byteAt 0 = 0 ∧ ∃ before event rest, glyphCovered = before ++ event :: rest ∧
      ((boot {} (Noise.cycling [])).after before).Touches event (.byte 0)) ∧
      m.memory.byteAt 2 = 0x90 := by
  let ready := (boot {} (Noise.cycling [])).after [.loadRom [0xF1, 0x55], .tick]
  obtain ⟨hcovered, hbefore, hmet, hindex⟩ :
      ((boot {} (Noise.cycling [])).after glyphCovered).memory.byteAt 0 = 0 ∧
        (boot {} (Noise.cycling [])).memory.byteAt 0 = 0xF0 ∧
        ready.wordAt ready.pc = 0xF155 ∧ ready.index = 0 := by decide +kernel
  obtain ⟨-, -, htouched, -⟩ := changes_have_owners {} (Noise.cycling []) []
  obtain ⟨-, -, -, hloaded⟩ := changes_have_owners {} (Noise.cycling []) glyphCovered
  refine ⟨⟨hcovered, htouched glyphCovered (.byte 0) fun hsame => ?_⟩, ?_⟩
  · have hbytes : (0 : UInt8) = 0xF0 := hcovered.symm.trans (Eq.trans hsame hbefore)
    exact absurd hbytes (by decide)
  · refine (hloaded 2 ?_).trans (by decide)
    intro before rest hsplit i hi howner
    -- There is one cycle in the run, and the word that it meets stores the first two registers.
    obtain rfl : before = [.loadRom [0xF1, 0x55], .tick] := by
      rcases before with _ | ⟨first, _ | ⟨second, _ | ⟨third, _⟩⟩⟩ <;> simp_all [glyphCovered]
    obtain ⟨word, ⟨-, -, hword⟩, hform, hoperands, -⟩ := hi
    obtain rfl : word = 0xF155 := hword.trans hmet
    have hstores : Form.store.Fits 0xF155 := by
      rw [← Form.ofWord?_eq_some_iff_fits (by decide) (by decide)]
      decide
    have hstore : i.form = .store := hform.unique (by decide) (by decide) hstores
    have hlast : i.operands.x = 1 := by
      rw [hoperands]
      decide
    change (Part.byte 2).Owner ready i at howner
    rw [Part.Owner, hstore, hindex, hlast] at howner
    rcases howner with ⟨hother, -⟩ | ⟨-, -, hle⟩
    · cases hother
    · exact absurd hle (by decide)

end Machine

end Chip8
