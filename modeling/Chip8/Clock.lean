/-!
# Clocks

A clock that is read in order to know the time. Its readings are laid down beforehand: first those of
a list, then each the one before plus a fixed step, which is counted from zero if there was none
before. The clock also has a limit to how often it is read, beyond which it gives nothing; so whatever
waits for a time to come ends.

* `Clock.read?` — the next reading, and the clock after it;
* `Clock.remaining` — how often the clock can still be read;
* `Clock.waitUntil` — reads until a time has come;
* `Clock.remaining_read?` — every reading leaves one less.
-/

namespace Chip8

/-- A clock with readings that are laid down beforehand. -/
structure Clock where
  /-- The readings to come before the clock goes on in steps. -/
  upcoming : List Float := []
  /-- The time between two readings after that. -/
  step : Float := 0.0
  /-- The reading that was taken last. -/
  last : Float := 0.0
  /-- How many readings have been taken. -/
  taken : Nat := 0
  /-- How many readings may be taken. -/
  limit : Nat := 20000

namespace Clock

/-- How often the clock can still be read. -/
def remaining (c : Clock) : Nat :=
  c.limit - c.taken

/-- The next reading and the clock after it, unless the clock was read as often as it may be. -/
def read? (c : Clock) : Option (Float × Clock) :=
  if c.taken < c.limit then
    match c.upcoming with
    | t :: rest => some (t, { c with upcoming := rest, last := t, taken := c.taken + 1 })
    | [] => some (c.last + c.step, { c with last := c.last + c.step, taken := c.taken + 1 })
  else none

theorem remaining_read? {c d : Clock} {t : Float} (h : c.read? = some (t, d)) :
    d.remaining < c.remaining := by
  unfold read? at h
  split at h
  · split at h
    all_goals
      simp only [Option.some.injEq, Prod.mk.injEq] at h
      obtain ⟨_, rfl⟩ := h
      simp only [remaining]
      omega
  · simp at h

/-- Reads the clock until a reading is not before the deadline, and says whether there was one. -/
def waitUntil (c : Clock) (deadline : Float) : Bool × Clock :=
  match _h : c.read? with
  | none => (false, c)
  | some (t, next) => if t < deadline then next.waitUntil deadline else (true, next)
termination_by c.remaining
decreasing_by exact remaining_read? ‹_›

theorem remaining_waitUntil (c : Clock) (deadline : Float) :
    (c.waitUntil deadline).2.remaining ≤ c.remaining := by
  induction c using waitUntil.induct deadline with
  | case1 c h =>
    -- The clock is spent, and stays as it is.
    rw [waitUntil]
    split
    · exact Nat.le_refl _
    · simp_all
  | case2 c t next h hlt ih =>
    -- The deadline is still to come.
    rw [waitUntil]
    split
    · simp_all
    · rename_i t' next' h'
      rw [h] at h'
      simp only [Option.some.injEq, Prod.mk.injEq] at h'
      obtain ⟨rfl, rfl⟩ := h'
      rw [if_pos hlt]
      exact Nat.le_trans ih (Nat.le_of_lt (remaining_read? h))
  | case3 c t next h hlt =>
    -- The deadline has come.
    rw [waitUntil]
    split
    · simp_all
    · rename_i t' next' h'
      rw [h] at h'
      simp only [Option.some.injEq, Prod.mk.injEq] at h'
      obtain ⟨rfl, rfl⟩ := h'
      rw [if_neg hlt]
      exact Nat.le_of_lt (remaining_read? h)

end Clock

end Chip8
