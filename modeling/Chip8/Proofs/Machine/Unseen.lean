import Chip8.Proofs.Machine.Step

/-!
# What an instruction does not look at

An instruction looks at a few parts of the machine and leaves the others alone. Two kinds of parts are
taken together here, for in both cases the question is what would have come of the same instruction on
another machine.

* `Work` is what others do to the timers and the pad of a machine. Most instructions do not see it.
* The *guise* of a machine is what its reports show of it beside its state, that is the word that was
  fetched last and its address, the monitor, and whether it is traced, together with the row of random
  bytes. No instruction sees more of it than the next random byte.

An instruction does the same after work that it does not see, and in any guise with the same next byte
(`Machine.execute_beside`). Each of the two by itself is a case of this, and so is what an instruction
leaves of the guise (`Machine.guise_of_execute`), for a machine in its own guise is that machine.
-/

namespace Chip8

/-- Work done on the timers and the pad of a machine. -/
structure Work where
  timers : Timers → Timers
  keypad : Keypad → Keypad

namespace Work

/-- The machine after the work. -/
def on (w : Work) (m : Machine) : Machine :=
  { m with timers := w.timers m.timers, keypad := w.keypad m.keypad }

/-- An instruction does not see the work: either none is done on the timers or it has no use for them,
and if it tests a key, that key is as it was. -/
structure Unseen (w : Work) (m : Machine) (i : Instruction) : Prop where
  timers : w.timers = id ∨ i.form ≠ .readDelay ∧ i.form ≠ .setDelay ∧ i.form ≠ .setSound
  keypad : i.form = .skipIfHeld ∨ i.form = .skipUnlessHeld →
    (w.keypad m.keypad).isHeld (Machine.keyNamed (m.register i.operands.x)) =
      m.keypad.isHeld (Machine.keyNamed (m.register i.operands.x))

/-- No work at all. -/
def none : Work :=
  ⟨id, id⟩

/-- Where there is no work, there is none to be seen. -/
theorem unseen_none (m : Machine) (i : Instruction) : none.Unseen m i :=
  ⟨.inl rfl, fun _ => rfl⟩

end Work

namespace Noise

/-- The byte that is drawn after `k` others from now on. -/
def upcoming (noise : Noise) (k : Nat) : UInt8 :=
  noise.bytes (noise.drawn + k)

/-- What is drawn is the first of the bytes to come. -/
theorem draw_fst (noise : Noise) : noise.draw.1 = noise.upcoming 0 := rfl

/-- Drawing a byte takes it off the bytes to come. -/
theorem upcoming_draw (noise : Noise) (k : Nat) :
    noise.draw.2.upcoming k = noise.upcoming (k + 1) := by
  show noise.bytes (noise.drawn + 1 + k) = noise.bytes (noise.drawn + (k + 1))
  rw [Nat.add_assoc, Nat.add_comm 1 k]

end Noise

/-- What the reports on a machine show beside its state, and its row of random bytes. -/
structure Guise where
  opcode : Int
  fetchedAt : Int
  monitor : Monitor
  tracing : Bool
  noise : Noise

namespace Guise

/-- The guise of a machine. -/
def of (m : Machine) : Guise where
  opcode := m.opcode
  fetchedAt := m.fetchedAt
  monitor := m.monitor
  tracing := m.tracing
  noise := m.noise

/-- The machine in another guise. -/
def on (g : Guise) (m : Machine) : Machine :=
  { m with
    opcode := g.opcode
    fetchedAt := g.fetchedAt
    monitor := g.monitor
    tracing := g.tracing
    noise := g.noise }

/-- The guise after an instruction of a form. -/
def past (g : Guise) : Form → Guise
  | .random => { g with noise := g.noise.draw.2 }
  | _ => g

/-- A machine in its own guise is that machine. -/
theorem on_of (m : Machine) : (of m).on m = m := rfl

/-- Instructions leave all of the guise as it was, but for the random bytes. -/
@[simp] theorem opcode_past (g : Guise) (form : Form) : (g.past form).opcode = g.opcode := by
  cases form <;> rfl

@[simp] theorem fetchedAt_past (g : Guise) (form : Form) :
    (g.past form).fetchedAt = g.fetchedAt := by
  cases form <;> rfl

@[simp] theorem tracing_past (g : Guise) (form : Form) : (g.past form).tracing = g.tracing := by
  cases form <;> rfl

/-- Guises with the same bytes to come have the same bytes to come after an instruction. -/
theorem upcoming_past {g g' : Guise} (h : g.noise.upcoming = g'.noise.upcoming) (form : Form) :
    (g.past form).noise.upcoming = (g'.past form).noise.upcoming := by
  cases form with
  -- Both rows of bytes lose their first one.
  | random =>
    funext k
    show g.noise.draw.2.upcoming k = g'.noise.draw.2.upcoming k
    rw [Noise.upcoming_draw, Noise.upcoming_draw, h]
  | _ => exact h

end Guise

namespace Machine

variable {m after : Machine} {w : Work} {g : Guise} {i : Instruction}

/-- A skip does not look at the timers, the pad or the guise. -/
theorem skipIf_beside (w : Work) (g : Guise) (m : Machine) (condition : Bool) :
    (g.on (w.on m)).skipIf condition = g.on (w.on (m.skipIf condition)) := by
  cases condition <;> rfl

/-- Neither does setting registers. -/
theorem setRegistersTo_beside (w : Work) (g : Guise) (m : Machine) (last : Register)
    (bytes : List UInt8) :
    (g.on (w.on m)).setRegistersTo last bytes = g.on (w.on (m.setRegistersTo last bytes)) := by
  simp only [setRegistersTo, Work.on, Guise.on, register]

/-- An instruction that does not see the work does the same after it, in any guise that has the same
next random byte. -/
theorem execute_beside (hunseen : w.Unseen m i) (hnoise : g.noise.upcoming 0 = m.noise.upcoming 0)
    (hrefusal : m.refusal? i = none) (h : execute i m = .ok () after) :
    execute i (g.on (w.on m)) = .ok () ((g.past i.form).on (w.on after)) := by
  obtain ⟨form, o⟩ := i
  -- What is refused depends on the stack, the index and the size of memory, so that the equation by
  -- which an instruction runs on the one machine holds on the other as well.
  cases form with
  | ret =>
    obtain ⟨address, rest, hitems⟩ := items_of_ret_admitted hrefusal
    rw [execute_ret_of_cons o hitems] at h
    cases h
    exact execute_ret_of_cons o hitems
  | call =>
    have hroom := room_of_call_admitted hrefusal
    rw [execute_call_of_room o hroom] at h
    cases h
    exact execute_call_of_room o hroom
  | draw =>
    rw [execute_draw_of_no_refusal o hrefusal] at h
    cases h
    exact execute_draw_of_no_refusal o hrefusal
  | decimal =>
    rw [execute_decimal_of_no_refusal o hrefusal] at h
    cases h
    exact execute_decimal_of_no_refusal o hrefusal
  | store =>
    rw [execute_store_of_no_refusal o hrefusal] at h
    cases h
    exact execute_store_of_no_refusal o hrefusal
  | load =>
    rw [execute_load_of_no_refusal o hrefusal] at h
    cases h
    show _ = EStateM.Result.ok () (g.on (w.on (m.setRegistersTo o.x _)))
    rw [← setRegistersTo_beside]
    exact execute_load_of_no_refusal (m := g.on (w.on m)) o hrefusal
  | readDelay | setDelay | setSound =>
    -- The timers are used, so no work was done on them.
    obtain ⟨timers, keypad⟩ := w
    obtain rfl : timers = id := hunseen.timers.resolve_right (by simp)
    cases h
    rfl
  | skipIfHeld =>
    cases h
    have hkey := hunseen.keypad (.inl rfl)
    refine Eq.trans ?_ (congrArg (EStateM.Result.ok ()) (skipIf_beside w g m _))
    rw [← hkey]
    rfl
  | skipUnlessHeld =>
    cases h
    have hkey := hunseen.keypad (.inr rfl)
    refine Eq.trans ?_ (congrArg (EStateM.Result.ok ()) (skipIf_beside w g m _))
    rw [← hkey]
    rfl
  | skipIfByte | skipUnlessByte | skipIfEqual | skipUnlessEqual =>
    cases h
    exact congrArg (EStateM.Result.ok ()) (skipIf_beside w g m _)
  | random =>
    -- The one instruction that looks at its guise, and what it sees there is the next byte.
    cases h
    show EStateM.Result.ok () (({ g.on (w.on m) with noise := g.noise.draw.2 } : Machine).setRegister
      o.x (g.noise.draw.1 &&& o.kk)) = _
    rw [Noise.draw_fst, hnoise]
    rfl
  | _ =>
    cases h
    rfl

/-- An instruction does the same in any guise that has the same next random byte. -/
theorem execute_guise (hnoise : g.noise.upcoming 0 = m.noise.upcoming 0)
    (hrefusal : m.refusal? i = none) (h : execute i m = .ok () after) :
    execute i (g.on m) = .ok () ((g.past i.form).on after) :=
  execute_beside (Work.unseen_none m i) hnoise hrefusal h

/-- What an instruction leaves of the guise. -/
theorem guise_of_execute (hrefusal : m.refusal? i = none) (h : execute i m = .ok () after) :
    Guise.of after = (Guise.of m).past i.form := by
  -- A machine in its own guise is that machine, and so what comes of it is in the guise of both.
  have hown := execute_guise (g := Guise.of m) rfl hrefusal h
  rw [Guise.on_of, h] at hown
  injection hown with _ hafter
  rw [hafter]
  rfl

/-- A cycle notes where it fetches and the word that it finds there. -/
theorem cycle_fetched {word : Int} (hphase : m.phase = .running) (hfetch : m.fetch = .ok word) :
    m.cycle.machine.fetchedAt = m.pc ∧ m.cycle.machine.opcode = word := by
  -- The word is known, so that only those ways of a cycle remain in which it is fetched.
  have hstep := m.step_cycle
  generalize m.cycle = o at hstep ⊢
  cases hstep with
  | poll r hwaits =>
    rw [hphase] at hwaits
    cases hwaits
  | unfetched fault _ hnone =>
    rw [hfetch] at hnone
    cases hnone
  | unrecognized found _ hfound =>
    obtain rfl := Except.ok.inj (hfetch.symm.trans hfound)
    exact ⟨rfl, rfl⟩
  | refused found i fault _ hfound =>
    obtain rfl := Except.ok.inj (hfetch.symm.trans hfound)
    exact ⟨rfl, rfl⟩
  | obeyed found i after _ hfound _ hrefusal hexecute =>
    obtain rfl := Except.ok.inj (hfetch.symm.trans hfound)
    have hguise := guise_of_execute hrefusal hexecute
    have hopcode := congrArg Guise.opcode hguise
    have hfetchedAt := congrArg Guise.fetchedAt hguise
    rw [Guise.opcode_past] at hopcode
    rw [Guise.fetchedAt_past] at hfetchedAt
    exact ⟨hfetchedAt, hopcode⟩

/-- An instruction that does not see the work does the same after it. -/
theorem execute_on (hunseen : w.Unseen m i) (hrefusal : m.refusal? i = none)
    (h : execute i m = .ok () after) : execute i (w.on m) = .ok () (w.on after) := by
  -- The machine keeps its own guise, and the instruction leaves of that what it does without the work.
  have hown := execute_beside (g := Guise.of m) hunseen rfl hrefusal h
  rw [← guise_of_execute hrefusal h] at hown
  exact hown

end Machine

end Chip8
