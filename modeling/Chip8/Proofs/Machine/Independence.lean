import Chip8.Proofs.Machine.KeyWait

/-!
# Events that may change places

A machine is driven from three sides: somebody lets it run cycles, somebody counts its timers down, and
somebody works its pad. Which of them comes first makes no difference, as long as the cycle does not
look at what the others work on. `Machine.Independent` lists the pairs of events for which this is so,
in terms of the word that the cycle meets: three instructions use the timers, and two test a key; a
machine that waits for a key looks at all of them, although the instruction that makes it wait does not.

The proof takes counts, presses and releases as one kind of thing: `Work` done on the timers and the
pad. An instruction by which the work is not seen does the same after it as before
(`Machine.execute_on`), and so does a cycle (`Machine.cycle_on`).

* `Machine.Independent.exchangeable`: independent events may change places;
* `Machine.Rescheduled.after_eq`: so may those of a schedule, one pair after the other.
-/

namespace Chip8

namespace Work

def tick : Work :=
  ⟨Timers.tick, id⟩

def press (key : Key) : Work :=
  ⟨id, (·.press key)⟩

def release (key : Key) : Work :=
  ⟨id, (·.release key)⟩

end Work

namespace Fault

/-- Two faults are the same but for what the message of one that tells of an unknown word says in its
middle, where it shows the whole machine. The word is the same, and so is the rest of the message: the
introduction before, and after it the sentence with the word and its address. -/
inductive Alike : Fault → Fault → Prop
  | same (fault : Fault) : Alike fault fault
  | details (word address : Int) (details others : String) :
    Alike (.unrecognizedOpcode word (Machine.haltText details word address))
      (.unrecognizedOpcode word (Machine.haltText others word address))

/-- Two outcomes are the same but for the machine that a message may show. -/
def BothAlike : Option Fault → Option Fault → Prop :=
  Option.Rel Alike

theorem BothAlike.refl (fault : Option Fault) : BothAlike fault fault := by
  cases fault with
  | none => exact .none
  | some fault => exact .some (.same fault)

end Fault

namespace Machine

open Fault (BothAlike)

variable {m after : Machine} {w : Work} {i : Instruction}

/-! ### Cycles beside the work -/

theorem fetched_on (w : Work) (m : Machine) (word : Int) :
    (w.on m).fetched word = w.on (m.fetched word) := rfl

/-- A cycle that does not see the work does the same after it, and raises the same fault but for what
its message shows of the machine. -/
theorem cycle_on (hphase : m.phase = .running)
    (hunseen : ∀ word i, m.fetch = .ok word → Instruction.ofWord? word = some i → w.Unseen m i) :
    (w.on m).cycle.machine = w.on m.cycle.machine ∧ BothAlike (w.on m).cycle.fault m.cycle.fault := by
  have hstep := m.step_cycle
  generalize m.cycle = o at hstep ⊢
  -- With the work done before it, the cycle goes the same of the five ways.
  cases hstep with
  | poll r hwaits =>
    rw [hphase] at hwaits
    cases hwaits
  | unfetched fault _ hfetch =>
    rw [(Step.unfetched (m := w.on m) fault hphase hfetch).cycle_eq]
    exact ⟨rfl, .refl _⟩
  | unrecognized word _ hfetch hword =>
    rw [(Step.unrecognized (m := w.on m) word hphase hfetch hword).cycle_eq]
    -- The two reports differ in the timers, but neither the word nor its address depends on these.
    exact ⟨rfl, .some (.details word m.pc _ _)⟩
  | refused word i fault _ hfetch hword hrefusal =>
    rw [(Step.refused (m := w.on m) word i fault hphase hfetch hword hrefusal).cycle_eq]
    exact ⟨rfl, .refl _⟩
  | obeyed word i after _ hfetch hword hrefusal hexecute =>
    -- The word was fetched before the work or after it, which is the same for the instruction.
    obtain ⟨htimers, hkeypad⟩ := hunseen word i hfetch hword
    have hunseenFetched : w.Unseen (m.fetched word) i := ⟨htimers, hkeypad⟩
    have hexecuteOn := execute_on hunseenFetched hrefusal hexecute
    rw [← fetched_on] at hexecuteOn
    rw [(Step.obeyed (m := w.on m) word i _ hphase hfetch hword hrefusal hexecuteOn).cycle_eq]
    exact ⟨rfl, .refl _⟩

/-- A machine that waits for a key looks at the pad and at nothing else. -/
theorem cycle_on_of_waiting {r : Register} (hphase : m.phase = .awaitingKey r)
    (hkeypad : w.keypad = id) :
    (w.on m).cycle.machine = w.on m.cycle.machine ∧ BothAlike (w.on m).cycle.fault m.cycle.fault := by
  -- The work is on the timers alone, and so the look at the pad finds the same.
  obtain ⟨timers, keypad⟩ := w
  subst hkeypad
  have hwaits : (Work.on ⟨timers, id⟩ m).phase = .awaitingKey r := hphase
  rw [cycle_awaitingKey hphase, cycle_awaitingKey hwaits]
  refine ⟨?_, .refl _⟩
  change pollKeypad _ r = Work.on _ (m.pollKeypad r)
  have hpad : (Work.on ⟨timers, id⟩ m).keypad = m.keypad := rfl
  unfold pollKeypad
  rw [hpad]
  cases m.keypad.firstHeld? <;> rfl

/-! ### Independent events -/

/-- Two events may change places. They lead to the same machine in either order, and each of them has
the same outcome when it is the second as when it is the first, but for the machine that a message may
show: it shows the timers. -/
structure Exchangeable (m : Machine) (first second : Event) : Prop where
  machine : ((m.react first).machine.react second).machine =
    ((m.react second).machine.react first).machine
  outcome_first : BothAlike ((m.react second).machine.react first).fault (m.react first).fault
  outcome_second : BothAlike ((m.react first).machine.react second).fault (m.react second).fault

/-- The next cycle meets an instruction that reads or sets a timer. -/
def UsesTimers (m : Machine) : Prop :=
  ∃ word, m.Meets word ∧
    (Form.readDelay.Fits word ∨ Form.setDelay.Fits word ∨ Form.setSound.Fits word)

/-- The next cycle meets an instruction that asks whether the key is held. -/
def Tests (m : Machine) (key : Key) : Prop :=
  ∃ word, m.Meets word ∧ (Form.skipIfHeld.Fits word ∨ Form.skipUnlessHeld.Fits word) ∧
    (m.register (Operands.ofWord word).x).toNat % 0x10 = key.val

/-- Two events of which neither looks at what the other changes. -/
inductive Independent (m : Machine) : Event → Event → Prop
  | cycle_tick (huse : ¬ m.UsesTimers) : Independent m .cycle .tick
  | cycle_press {key : Key} (hphase : m.phase = .running) (htest : ¬ m.Tests key) :
      Independent m .cycle (.press key)
  | cycle_release {key : Key} (hphase : m.phase = .running) (htest : ¬ m.Tests key) :
      Independent m .cycle (.release key)
  | tick_press (key : Key) : Independent m .tick (.press key)
  | tick_release (key : Key) : Independent m .tick (.release key)
  | symm {first second : Event} (h : Independent m first second) : Independent m second first

variable {first second : Event}

theorem Exchangeable.symm (h : m.Exchangeable first second) : m.Exchangeable second first :=
  ⟨h.machine.symm, h.outcome_second, h.outcome_first⟩

/-- A cycle may change places with any work that it does the same after as before. -/
theorem exchangeable_cycle {event : Event} (hreact : ∀ n : Machine, n.react event = { machine := w.on n })
    (hcycle : (w.on m).cycle.machine = w.on m.cycle.machine ∧
      BothAlike (w.on m).cycle.fault m.cycle.fault) : m.Exchangeable .cycle event := by
  obtain ⟨hmachine, hfault⟩ := hcycle
  refine ⟨?_, ?_, ?_⟩
  · rw [hreact, hreact]
    exact hmachine.symm
  · rw [hreact]
    exact hfault
  · rw [hreact, hreact]
    exact .refl none

/-- A count is not seen by a cycle that meets none of the three instructions that use the timers. -/
theorem Invariant.unseen_tick (hm : m.Invariant) (hphase : m.phase = .running)
    (huse : ¬ m.UsesTimers) {word : Int} (hfetch : m.fetch = .ok word)
    (hword : Instruction.ofWord? word = some i) : Work.tick.Unseen m i := by
  obtain ⟨hmeets, hform, -⟩ := hm.meets_instruction hphase hfetch hword
  refine ⟨.inr ⟨fun h => ?_, fun h => ?_, fun h => ?_⟩, fun _ => rfl⟩
  · exact huse ⟨word, hmeets, .inl (h ▸ hform)⟩
  · exact huse ⟨word, hmeets, .inr (.inl (h ▸ hform))⟩
  · exact huse ⟨word, hmeets, .inr (.inr (h ▸ hform))⟩

/-- Work on a key that is not tested is not seen. -/
theorem Invariant.unseen_key (hm : m.Invariant) (hphase : m.phase = .running) {key : Key}
    (htest : ¬ m.Tests key) (hothers : ∀ pad other, other ≠ key →
      (w.keypad pad).isHeld other = pad.isHeld other) (htimers : w.timers = id) {word : Int}
    (hfetch : m.fetch = .ok word) (hword : Instruction.ofWord? word = some i) : w.Unseen m i := by
  obtain ⟨hmeets, hform, hoperands⟩ := hm.meets_instruction hphase hfetch hword
  refine ⟨.inl htimers, fun hforms => hothers _ _ fun hkey => htest ⟨word, hmeets, ?_, ?_⟩⟩
  · rcases hforms with h | h
    · exact .inl (h ▸ hform)
    · exact .inr (h ▸ hform)
  · rw [← hkey, ← hoperands]
    rfl

/-- Independent events may change places. -/
theorem Independent.exchangeable (h : m.Independent first second) (hm : m.Invariant) :
    m.Exchangeable first second := by
  induction h with
  | cycle_tick huse =>
    refine exchangeable_cycle (w := .tick) (fun _ => rfl) ?_
    -- Both a running machine and one that waits may be counted down, the first only if it has no use for
    -- the timers.
    cases hphase : m.phase with
    | running => exact cycle_on hphase fun word i => hm.unseen_tick hphase huse
    | awaitingKey r => exact cycle_on_of_waiting hphase rfl
  | @cycle_press key hphase htest =>
    -- A press of one key is not seen in any other.
    have hothers : ∀ (pad : Keypad) other, other ≠ key → (pad.press key).isHeld other =
        pad.isHeld other := by
      intro pad other hother
      rw [Keypad.isHeld_press, beq_eq_false_iff_ne.mpr hother, Bool.false_or]
    exact exchangeable_cycle (w := .press key) (fun _ => rfl)
      (cycle_on hphase fun word i => hm.unseen_key hphase htest hothers rfl)
  | @cycle_release key hphase htest =>
    -- Neither is a release.
    have hothers : ∀ (pad : Keypad) other, other ≠ key → (pad.release key).isHeld other =
        pad.isHeld other := by
      intro pad other hother
      rw [Keypad.isHeld_release, bne_iff_ne.mpr hother, Bool.true_and]
    exact exchangeable_cycle (w := .release key) (fun _ => rfl)
      (cycle_on hphase fun word i => hm.unseen_key hphase htest hothers rfl)
  | tick_press key => exact ⟨rfl, .refl none, .refl none⟩
  | tick_release key => exact ⟨rfl, .refl none, .refl none⟩
  | symm _ ih => exact ih.symm

/-! ### Schedules -/

/-- Two schedules of the same events, of which one is made from the other by exchanging independent
neighbours again and again. -/
inductive Rescheduled (m : Machine) : List Event → List Event → Prop
  | refl (events : List Event) : Rescheduled m events events
  | exchange (before rest : List Event) {first second : Event}
      (h : (m.after before).Independent first second) :
      Rescheduled m (before ++ first :: second :: rest) (before ++ second :: first :: rest)
  | trans {events middle others : List Event} (h : Rescheduled m events middle)
      (hrest : Rescheduled m middle others) : Rescheduled m events others

/-- Schedules that differ by exchanges end in the same machine. -/
theorem Rescheduled.after_eq {events others : List Event} (h : m.Rescheduled events others)
    (hm : m.Invariant) : m.after events = m.after others := by
  induction h with
  | refl events => rfl
  | @exchange before rest first second hindependent =>
    -- Up to the exchange the runs are one, and behind it they go on from the same machine.
    have hexchange := (hindependent.exchangeable (hm.after before)).machine
    calc m.after (before ++ first :: second :: rest)
        = (((m.after before).react first).machine.react second).machine.after rest :=
          after_append m before (first :: second :: rest)
      _ = (((m.after before).react second).machine.react first).machine.after rest := by
          rw [hexchange]
      _ = m.after (before ++ second :: first :: rest) :=
          (after_append m before (second :: first :: rest)).symm
  | trans _ _ ih ihrest => exact ih.trans ihrest

/-- **Independent events may change places.** On a reachable machine, a cycle may change places with a
count of the timers unless it meets an instruction that uses them, and with a press or a release of a
key if the machine runs and the cycle does not test that key; a count may change places with any press
or release. Two schedules that differ by such exchanges end in the same machine. -/
theorem Reachable.independent_exchange (hm : m.Reachable) :
    (∀ first second, m.Independent first second → m.Exchangeable first second) ∧
      ∀ events others, m.Rescheduled events others → m.after events = m.after others :=
  ⟨fun _ _ h => h.exchangeable hm.invariant, fun _ _ h => h.after_eq hm.invariant⟩

/-- The machine whose program asks for a key may be given the key and a count of the timers before the
cycle that asks or after it. -/
theorem independent_exchange_keyAsked :
    keyAsked.Exchangeable .cycle (.press 4) ∧
      keyAsked.after [.cycle, .press 4, .tick] = keyAsked.after [.press 4, .tick, .cycle] := by
  obtain ⟨hphase, hfirst, hsecond⟩ : keyAsked.phase = .running ∧
      keyAsked.wordAt keyAsked.pc = 0xFF0A ∧ (keyAsked.after [.press 4]).wordAt
        (keyAsked.after [.press 4]).pc = 0xFF0A := by decide +kernel
  have hasks : Form.awaitKey.Fits 0xFF0A := by
    rw [← Form.ofWord?_eq_some_iff_fits (by decide) (by decide)]
    decide
  -- Whatever the word fits, it is the form that waits for a key.
  have hform : ∀ form : Form, form.Fits 0xFF0A → form = .awaitKey := fun form h =>
    h.unique (by decide) (by decide) hasks
  have htest : ¬ keyAsked.Tests 4 := by
    rintro ⟨word, ⟨-, -, hword⟩, hforms, -⟩
    rw [hword, hfirst] at hforms
    rcases hforms with h | h <;> cases hform _ h
  have huse : ¬ (keyAsked.after [.press 4]).UsesTimers := by
    rintro ⟨word, ⟨-, -, hword⟩, hforms⟩
    rw [hword, hsecond] at hforms
    rcases hforms with h | h | h <;> cases hform _ h
  have hpress : keyAsked.Independent .cycle (.press 4) := .cycle_press hphase htest
  -- The cycle moves behind the press first, and then behind the count.
  have hearlier : keyAsked.Rescheduled [.cycle, .press 4, .tick] [.press 4, .cycle, .tick] :=
    .exchange [] [.tick] (by rw [after_nil]; exact hpress)
  have hlater : keyAsked.Rescheduled [.press 4, .cycle, .tick] [.press 4, .tick, .cycle] :=
    .exchange [.press 4] [] (.cycle_tick huse)
  obtain ⟨hexchange, hschedule⟩ := keyAsked_reachable.independent_exchange
  exact ⟨hexchange _ _ hpress, hschedule _ _ (hearlier.trans hlater)⟩

end Machine

end Chip8
