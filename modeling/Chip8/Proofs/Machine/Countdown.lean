import Chip8.Proofs.Machine.Ownership

/-!
# Counting down

A timer is set now and then, by the program or from outside, and counted down in between. What it shows
at the end of a run depends on two numbers only: the value that it was set to last, and how often it was
counted down since (`Timer.LastSet`). It shows their difference, or zero if there were more counts than
that. Nothing else in the run matters, faulty cycles and the other timer included.

That an event which neither sets a timer nor counts it down leaves it alone is a case of the table of
owners in `Chip8.Proofs.Machine.Ownership`; the law for runs follows by induction on the part of the run
in which the timer is not set.

* `Timer.exists_lastSet`: in every run there is a value that the timer was set to last, if only the
  zero from which it starts;
* `Timer.reading_of_lastSet`: what the timer shows in the end;
* `Timers.ticks_min`: a count too many changes nothing, so no more than `0xFF` of them matter.
-/

namespace Chip8

/-- One of the two timers. -/
inductive Timer
  | delay
  | sound
  deriving DecidableEq

namespace Timer

/-- What the timer shows. -/
def reading : Timer → Machine → UInt8
  | .delay, m => m.timers.delay
  | .sound, m => m.timers.sound

/-- The form of the instruction that sets the timer. -/
def form : Timer → Form
  | .delay => .setDelay
  | .sound => .setSound

/-- Setting the timer from outside. -/
def setting : Timer → Int → Event
  | .delay => .setDelay
  | .sound => .setSound

/-- The timer as a part of the machine. -/
def part : Timer → Part
  | .delay => .delay
  | .sound => .sound

/-- The event sets the timer to a value: an instruction to what its register holds, and whoever sets
the timer from outside to the lowest eight bits of a number. -/
inductive Stores (timer : Timer) (m : Machine) : Event → Nat → Prop
  | register {word : Int} (hword : m.Meets word) (hform : timer.form.Fits word) :
      Stores timer m .cycle (m.register (Operands.ofWord word).x).toNat
  | outside (value : Int) : Stores timer m (timer.setting value) (value % 0x100).toNat

/-- No event of a run sets the timer. -/
def Unset (timer : Timer) (m : Machine) : List Event → Prop
  | [] => True
  | event :: rest =>
    (∀ value, ¬ timer.Stores m event value) ∧ timer.Unset (m.react event).machine rest

/-- In a run, the timer was set to a value last and has been counted down so often since. A timer that
has never been set stands at zero from the start. -/
inductive LastSet (timer : Timer) (m : Machine) (events : List Event) : Nat → Nat → Prop
  | never (hunset : timer.Unset m events) : LastSet timer m events 0 (events.count .tick)
  | behind (before rest : List Event) {event : Event} {value : Nat}
      (hsplit : events = before ++ event :: rest) (hstores : timer.Stores (m.after before) event value)
      (hunset : timer.Unset ((m.after before).react event).machine rest) :
      LastSet timer m events value (rest.count .tick)

variable {timer : Timer} {m : Machine} {event : Event} {events : List Event} {value counts : Nat}

/-! ### One event -/

theorem same_part_iff {after : Machine} :
    timer.part.Same m after ↔ timer.reading after = timer.reading m := by
  cases timer <;> rfl

/-- A timer that has been set shows the value that it was set to. -/
theorem reading_of_stores (hm : m.Invariant) (h : timer.Stores m event value) :
    (timer.reading (m.react event).machine).toNat = value := by
  -- An instruction stores a register as it is, and from outside the lowest eight bits of a number are
  -- kept.
  cases h with
  | @register word hword hform =>
    change (timer.reading m.cycle.machine).toNat = _
    cases timer with
    | delay =>
      rw [hword.cycle_of_execute hm hform rfl]
      rfl
    | sound =>
      rw [hword.cycle_of_execute hm hform rfl]
      rfl
  | outside value =>
    have hlt : (value % 0x100).toNat < 0x100 := by omega
    have hbyte : (UInt8.ofInt value).toNat = (value % 0x100).toNat := UInt8.toNat_ofNat_of_lt' hlt
    cases timer <;> exact hbyte

/-- A count takes one off, but not below zero. -/
theorem reading_tick (timer : Timer) (m : Machine) :
    (timer.reading m.tick).toNat = (timer.reading m).toNat - 1 := by
  cases timer <;> exact Timers.toNat_countDown _

/-- An event touches a timer by setting it or by counting it down. -/
theorem touches_part (h : m.Touches event timer.part) :
    event = .tick ∨ ∃ value, timer.Stores m event value := by
  -- The instruction that owns a timer is the one that sets it.
  have hcycle : ∀ {i : Instruction}, m.Obeys i → i.form = timer.form →
      ∃ value, timer.Stores m .cycle value := by
    rintro i ⟨word, hword, hform, -, -⟩ howner
    exact ⟨_, .register hword (howner ▸ hform)⟩
  cases timer with
  | delay =>
    cases h with
    | instruction hi howner => exact .inr (hcycle hi howner)
    | delayCounted => exact .inl rfl
    | delaySet value => exact .inr ⟨_, .outside value⟩
  | sound =>
    cases h with
    | instruction hi howner => exact .inr (hcycle hi howner)
    | soundCounted => exact .inl rfl
    | soundSet value => exact .inr ⟨_, .outside value⟩

/-- An event that does not set the timer counts it down or leaves it alone. -/
theorem reading_of_not_stores (hm : m.Invariant) (h : ∀ value, ¬ timer.Stores m event value) :
    (timer.reading (m.react event).machine).toNat =
      (timer.reading m).toNat - if event = .tick then 1 else 0 := by
  by_cases htick : event = .tick
  · subst htick
    exact timer.reading_tick m
  · have hfree : ¬ m.Touches event timer.part := fun htouches =>
      (touches_part htouches).elim htick fun ⟨value, hstores⟩ => h value hstores
    rw [same_part_iff.mp (hm.same_react hfree), if_neg htick, Nat.sub_zero]

/-! ### Runs -/

/-- While it is not set, a timer shows what it showed before less the counts. -/
theorem reading_of_unset (hm : m.Invariant) (h : timer.Unset m events) :
    (timer.reading (m.after events)).toNat = (timer.reading m).toNat - events.count .tick := by
  induction events generalizing m with
  | nil => rfl
  | cons event rest ih =>
    obtain ⟨hfirst, hrest⟩ := h
    -- Taking off step by step, never below zero, is taking off all at once.
    calc (timer.reading ((m.react event).machine.after rest)).toNat
        = (timer.reading (m.react event).machine).toNat - rest.count .tick :=
          ih (hm.react event) hrest
      _ = (timer.reading m).toNat - (if event = .tick then 1 else 0) - rest.count .tick := by
          rw [reading_of_not_stores hm hfirst]
      _ = (timer.reading m).toNat - (event :: rest).count .tick := by
          rw [Nat.sub_sub, Nat.add_comm, List.count_cons]
          simp only [beq_iff_eq]

/-- In every run there is a value that the timer was set to last. -/
theorem exists_lastSet (timer : Timer) (m : Machine) (events : List Event) :
    ∃ value counts, timer.LastSet m events value counts := by
  -- Either the timer is set in the rest of the run, or by the first event, or not at all.
  have hcases : (∃ before event rest value, events = before ++ event :: rest ∧
      timer.Stores (m.after before) event value ∧
      timer.Unset ((m.after before).react event).machine rest) ∨ timer.Unset m events := by
    induction events generalizing m with
    | nil => exact .inr trivial
    | cons event rest ih =>
      -- If the rest of the run sets the timer, it is later than the first event, and so it counts.
      rcases ih (m.react event).machine with ⟨before, other, behind, value, rfl, hset⟩ | hunset
      · exact .inl ⟨event :: before, other, behind, value, rfl, hset⟩
      · by_cases hstores : ∃ value, timer.Stores m event value
        · obtain ⟨value, hvalue⟩ := hstores
          exact .inl ⟨[], event, rest, value, rfl, hvalue, hunset⟩
        · exact .inr ⟨not_exists.mp hstores, hunset⟩
  rcases hcases with ⟨before, event, rest, value, hsplit, hstores, hunset⟩ | hunset
  · exact ⟨value, _, .behind before rest hsplit hstores hunset⟩
  · exact ⟨0, _, .never hunset⟩

/-- What a timer shows at the end of a run is the value that it was set to last less the counts since
then. -/
theorem reading_of_lastSet (hm : m.Invariant) (hstart : timer.reading m = 0)
    (h : timer.LastSet m events value counts) :
    (timer.reading (m.after events)).toNat = value - counts := by
  cases h with
  | never hunset =>
    rw [reading_of_unset hm hunset, hstart]
    rfl
  | @behind before rest event value hsplit hstores hunset =>
    -- Up to the event that sets it, nothing about the timer matters.
    have hbefore := hm.after before
    rw [hsplit, Machine.after_append, Machine.after_cons,
      reading_of_unset (hbefore.react event) hunset, reading_of_stores hbefore hstores]

theorem reading_boot (timer : Timer) (monitor : Monitor) (noise : Noise) :
    timer.reading (Machine.boot monitor noise) = 0 := by
  cases timer <;> rfl

end Timer

namespace Machine

variable {m : Machine}

/-- The instruction that reads the delay timer sets its register to what the timer shows. -/
theorem Meets.cycle_readDelay (hm : m.Invariant) {word : Int} (hword : m.Meets word)
    (hform : Form.readDelay.Fits word) :
    m.cycle.fault = none ∧
      m.cycle.machine.register (Operands.ofWord word).x = Timer.delay.reading m := by
  rw [hword.cycle_of_execute hm hform rfl]
  refine ⟨rfl, ?_⟩
  change (setRegister _ (Operands.ofWord word).x _).register _ = _
  rw [register_setRegister, if_pos rfl]
  rfl

end Machine

namespace Timers

theorem ext_toNat {s t : Timers} (hdelay : s.delay.toNat = t.delay.toNat)
    (hsound : s.sound.toNat = t.sound.toNat) : s = t := by
  obtain ⟨delay, sound⟩ := s
  obtain ⟨otherDelay, otherSound⟩ := t
  obtain rfl : delay = otherDelay := UInt8.toNat_inj.mp hdelay
  obtain rfl : sound = otherSound := UInt8.toNat_inj.mp hsound
  rfl

/-- Timers hold bytes, so that counts beyond `0xFF` change nothing. -/
theorem ticks_min (t : Timers) {limit : Nat} (hlimit : 0xFF ≤ limit) (due : Nat) :
    t.ticks (min due limit) = t.ticks due := by
  have hdelay := t.delay.toNat_lt
  have hsound := t.sound.toNat_lt
  refine ext_toNat ?_ ?_
  · rw [toNat_delay_ticks, toNat_delay_ticks]
    omega
  · rw [toNat_sound_ticks, toNat_sound_ticks]
    omega

end Timers

end Chip8
