import Chip8.Proofs.Console.Replay
import Chip8.Proofs.Machine.Countdown

/-!
# Making up for counts of the timers

A console that comes late has several counts of the timers to make up for. It makes up for all of them at
once, but never for more than `Console.maxCatchUp`, however late it is. Nothing is lost by this: a timer
holds a byte and stops at zero, so that the counts beyond the cap would change nothing
(`Machine.after_ticks_min`).

`Console.timers_keep_count` puts this together with the law of `Chip8.Proofs.Machine.Countdown`, by which
a timer shows the value that it was set to last less the counts since.
-/

namespace Chip8

namespace Machine

/-- As many counts as a byte has values do what any larger number of counts does. -/
theorem after_ticks_min (m : Machine) {limit : Nat} (hlimit : 0xFF ≤ limit) (due : Nat) :
    m.after (List.replicate (min due limit) .tick) = m.after (List.replicate due .tick) := by
  rw [after_ticks, after_ticks, Timers.ticks_min _ hlimit]

end Machine

namespace Console

/-- Counting the timers down when that is due does to the machine what all the counts that are due
would do. -/
theorem machine_tickWhenDue {c : Console} {now : Float} {due : Int} (h : c.dueTicks now = .ok due) :
    ∃ ticked, c.tickWhenDue now = .ok ticked ∧
      ticked.machine = c.machine.after (List.replicate due.toNat .tick) := by
  obtain ⟨nextTick, hticked⟩ := tickWhenDue_of_ok h
  -- A count below zero is none, with the cap and without it.
  have hcap : (min due maxCatchUp).toNat = min due.toNat 0x100 := by
    rw [maxCatchUp]
    omega
  refine ⟨_, hticked, ?_⟩
  rw [hcap, Timers.ticks_min _ (by decide), Machine.after_ticks]

/-- **The timers keep count.** After any run from a machine that has just been built, either timer shows
the value that it was set to last, less the counts since then, and zero if there were more; this is also
what an instruction reads that asks for the delay. As many counts as a console makes up for at once
leave the same machine as all the counts that are due, however many these are. -/
theorem timers_keep_count (monitor : Monitor) (noise : Noise) (events : List Event) :
    let start := Machine.boot monitor noise
    let m := start.after events
    (∀ timer : Timer, ∃ value counts, timer.LastSet start events value counts) ∧
      (∀ (timer : Timer) (value counts : Nat), timer.LastSet start events value counts →
        (timer.reading m).toNat = value - counts) ∧
      (∀ value counts, Timer.delay.LastSet start events value counts →
        ∀ word, m.Meets word → Form.readDelay.Fits word → m.cycle.fault = none ∧
          (m.cycle.machine.register (Operands.ofWord word).x).toNat = value - counts) ∧
      (∀ due : Nat, m.after (List.replicate (min due 0x100) .tick) =
        m.after (List.replicate due .tick)) ∧
      ∀ (c : Console) (now : Float) (due : Int), c.machine = m → c.dueTicks now = .ok due →
        ∃ ticked, c.tickWhenDue now = .ok ticked ∧
          ticked.machine = m.after (List.replicate due.toNat .tick) := by
  intro start m
  have hstart : start.Invariant := .boot monitor noise
  have hm : m.Invariant := hstart.after events
  have hreading : ∀ (timer : Timer) (value counts : Nat),
      timer.LastSet start events value counts → (timer.reading m).toNat = value - counts :=
    fun timer _ _ h => Timer.reading_of_lastSet hstart (timer.reading_boot monitor noise) h
  refine ⟨fun timer => timer.exists_lastSet start events, hreading,
    fun value counts hset word hword hform => ?_, fun due => m.after_ticks_min (by decide) due,
    fun c now due hmachine hdue => ?_⟩
  · obtain ⟨hended, hread⟩ := hword.cycle_readDelay hm hform
    exact ⟨hended, by rw [hread, hreading .delay value counts hset]⟩
  · rw [← hmachine]
    exact machine_tickWhenDue hdue

/-- A run in which the delay timer is set from outside and then by the program, and counted down twice
before the program reads it. -/
def delayCounted : List Event :=
  [.loadRom [0x65, 0x05, 0xF5, 0x15, 0xF1, 0x07], .setDelay (-1), .cycle, .cycle, .tick, .tick]

theorem timers_keep_count_delayCounted :
    let start := Machine.boot {} (Noise.cycling [])
    let m := start.after delayCounted
    Timer.delay.LastSet start delayCounted 5 2 ∧ (Timer.delay.reading m).toNat = 3 ∧
      (m.cycle.machine.register 1).toNat = 3 := by
  intro start m
  obtain ⟨hword, hvalue, hread⟩ : (start.after (delayCounted.take 3)).Meets 0xF515 ∧
      ((start.after (delayCounted.take 3)).register (Operands.ofWord 0xF515).x).toNat = 5 ∧
        m.Meets 0xF107 := by decide +kernel
  have hform : Form.setDelay.Fits 0xF515 := by
    rw [← Form.ofWord?_eq_some_iff_fits (by decide) (by decide)]
    decide
  have hstores : Timer.delay.Stores (start.after (delayCounted.take 3)) .cycle 5 := by
    rw [← hvalue]
    exact .register hword hform
  have hset : Timer.delay.LastSet start delayCounted 5 2 :=
    .behind (delayCounted.take 3) [.tick, .tick] rfl hstores
      ⟨fun _ h => (nomatch h), fun _ h => (nomatch h), trivial⟩
  have hreads : Form.readDelay.Fits 0xF107 := by
    rw [← Form.ofWord?_eq_some_iff_fits (by decide) (by decide)]
    decide
  obtain ⟨-, hshown, hasked, -⟩ := timers_keep_count {} (Noise.cycling []) delayCounted
  exact ⟨hset, hshown .delay 5 2 hset, (hasked 5 2 hset 0xF107 hread hreads).2⟩

end Console

end Chip8
