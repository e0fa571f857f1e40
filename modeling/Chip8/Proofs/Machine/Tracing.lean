import Chip8.Proofs.Machine.Unseen

/-!
# Watching a machine does not change it

Two machines are *alike* (`Machine.Alike`) if they agree in all that a program can notice and have the
same random bytes to come. They may differ in what is only reported: the word that was fetched last and
its address, the monitor, and whether the machine is traced. Alike machines stay alike whatever happens
to them, and every event has the same outcome on both, down to the report on the machine in the message
of a fault (`Machine.Alike.react`): that report shows the word and its address, but it is only written
after a cycle has noted both.

A traced machine prints one line for every instruction that it starts to run, and the line shows the
machine as it was before. `Machine.linesOf` says so without running anything.
-/

namespace Chip8

namespace Machine

/-- Two machines agree in everything but their guise, and have the same random bytes to come. -/
structure Alike (m n : Machine) : Prop where
  memory : m.memory = n.memory
  stack : m.stack = n.stack
  screen : m.screen = n.screen
  timers : m.timers = n.timers
  keypad : m.keypad = n.keypad
  registers : m.registers = n.registers
  index : m.index = n.index
  pc : m.pc = n.pc
  phase : m.phase = n.phase
  noise : m.noise.upcoming = n.noise.upcoming

variable {m n : Machine} {g : Guise}

/-- A machine is like itself in another guise, if the same random bytes are to come. -/
theorem Alike.of_guise (h : g.noise.upcoming = m.noise.upcoming) : m.Alike (g.on m) := by
  constructor
  case noise => exact h.symm
  all_goals rfl

/-- A machine that is like another one is the other one in its own guise. -/
theorem Alike.eq_on (h : m.Alike n) : n = (Guise.of n).on m := by
  obtain ⟨hmemory, hstack, hscreen, htimers, hkeypad, hregisters, hindex, hpc, hphase, -⟩ := h
  simp only [Guise.on, Guise.of, hmemory, hstack, hscreen, htimers, hkeypad, hregisters, hindex, hpc,
    hphase]

/-! ### Events in another guise -/

/-- A look for a key is the same in any guise. -/
theorem pollKeypad_guise (g : Guise) (m : Machine) (r : Register) :
    (g.on m).pollKeypad r = g.on (m.pollKeypad r) := by
  have hpad : (g.on m).keypad = m.keypad := rfl
  unfold pollKeypad
  rw [hpad]
  cases m.keypad.firstHeld? <;> rfl

/-- A fetch is noted over whatever word and address the guise had. -/
theorem fetched_guise (g : Guise) (m : Machine) (word : Int) :
    (g.on m).fetched word = { g with fetchedAt := m.pc, opcode := word }.on (m.fetched word) := rfl

/-- A cycle in another guise leads to a like machine, and raises the same fault. -/
theorem cycle_guise (hnoise : g.noise.upcoming = m.noise.upcoming) :
    m.cycle.machine.Alike (g.on m).cycle.machine ∧ (g.on m).cycle.fault = m.cycle.fault := by
  have hstep := m.step_cycle
  generalize m.cycle = o at hstep ⊢
  -- The cycle in the other guise goes the same of the five ways, since none of the conditions looks at
  -- the guise.
  cases hstep with
  | poll r hphase =>
    rw [cycle_awaitingKey (m := g.on m) hphase, pollKeypad_guise]
    refine ⟨Alike.of_guise ?_, rfl⟩
    -- Looking for a key draws nothing.
    unfold pollKeypad
    cases m.keypad.firstHeld? <;> exact hnoise
  | unfetched fault hphase hfetch =>
    rw [(Step.unfetched (m := g.on m) fault hphase hfetch).cycle_eq]
    exact ⟨Alike.of_guise (g := { g with fetchedAt := m.pc }) hnoise, rfl⟩
  | unrecognized word hphase hfetch hword =>
    rw [(Step.unrecognized (m := g.on m) word hphase hfetch hword).cycle_eq, fetched_guise]
    -- The reports are on the word and the address that both machines have noted just now.
    exact ⟨Alike.of_guise hnoise, rfl⟩
  | refused word i fault hphase hfetch hword hrefusal =>
    rw [(Step.refused (m := g.on m) word i fault hphase hfetch hword hrefusal).cycle_eq, fetched_guise]
    exact ⟨Alike.of_guise hnoise, rfl⟩
  | obeyed word i after hphase hfetch hword hrefusal hexecute =>
    have hnext : g.noise.upcoming 0 = (m.fetched word).noise.upcoming 0 := congrFun hnoise 0
    have hexecuteOn := execute_guise (g := { g with fetchedAt := m.pc, opcode := word }) hnext hrefusal
      hexecute
    rw [← fetched_guise] at hexecuteOn
    rw [(Step.obeyed (m := g.on m) word i _ hphase hfetch hword hrefusal hexecuteOn).cycle_eq]
    refine ⟨Alike.of_guise ?_, rfl⟩
    -- Whatever bytes the instruction has drawn, both have drawn them.
    have hdrawn := congrArg Guise.noise (guise_of_execute hrefusal hexecute)
    show _ = (Guise.of after).noise.upcoming
    rw [hdrawn]
    exact Guise.upcoming_past hnoise i.form

/-- So does any other event. -/
theorem react_guise (hnoise : g.noise.upcoming = m.noise.upcoming) (event : Event) :
    (m.react event).machine.Alike ((g.on m).react event).machine ∧
      ((g.on m).react event).fault = (m.react event).fault := by
  cases event with
  | cycle => exact cycle_guise hnoise
  | loadRom rom =>
    have hmemory : (g.on m).memory = m.memory := rfl
    simp only [react, loadRom, hmemory]
    cases m.memory.loadRom rom with
    | error fault => exact ⟨Alike.of_guise hnoise, rfl⟩
    | ok memory => exact ⟨Alike.of_guise (m := { m with memory }) hnoise, rfl⟩
  | consumeChanged => exact ⟨Alike.of_guise (m := m.consumeChanged.2) hnoise, rfl⟩
  | tick => exact ⟨Alike.of_guise (m := m.tick) hnoise, rfl⟩
  | press key => exact ⟨Alike.of_guise (m := m.press key) hnoise, rfl⟩
  | release key => exact ⟨Alike.of_guise (m := m.release key) hnoise, rfl⟩
  | releaseAll => exact ⟨Alike.of_guise (m := m.releaseAll) hnoise, rfl⟩
  | setDelay value => exact ⟨Alike.of_guise (m := m.setDelay value) hnoise, rfl⟩
  | setSound value => exact ⟨Alike.of_guise (m := m.setSound value) hnoise, rfl⟩
  | askSound | askPicture => exact ⟨Alike.of_guise hnoise, rfl⟩

/-- Alike machines are alike after an event, and the event has the same outcome on both. -/
theorem Alike.react (h : m.Alike n) (event : Event) :
    (m.react event).machine.Alike (n.react event).machine ∧
      (m.react event).fault = (n.react event).fault := by
  have hreact := react_guise (g := Guise.of n) h.noise.symm event
  rw [← h.eq_on] at hreact
  exact ⟨hreact.1, hreact.2.symm⟩

/-- Alike machines are alike after any events. -/
theorem Alike.after (h : m.Alike n) (events : List Event) : (m.after events).Alike (n.after events) := by
  induction events generalizing m n with
  | nil => exact h
  | cons event rest ih => exact ih (h.react event).1

/-! ### Lines -/

/-- The word and the instruction that the next cycle starts to run: a machine that waits for a key
starts none, and neither does one that finds nothing to fetch or nothing to decode. -/
def nextInstruction? (m : Machine) : Option (Int × Instruction) :=
  match m.phase, m.fetch with
  | .running, .ok word => (Instruction.ofWord? word).map fun i => (word, i)
  | _, _ => none

/-- The lines that a traced machine prints for an event: for an instruction that is started, one line
about the machine as it is, with the address, the word and the assembly of the instruction. -/
def linesOf (m : Machine) : Event → List String
  | .cycle => m.nextInstruction?.toList.map fun (word, i) =>
      { m with fetchedAt := m.pc, opcode := word }.line i.text
  | _ => []

/-- A cycle prints the line of the instruction that it starts to run, also if that is then refused. -/
theorem printed_cycle (m : Machine) :
    m.cycle.printed = if m.tracing then m.linesOf .cycle else [] := by
  have hstep := m.step_cycle
  generalize m.cycle = o at hstep ⊢
  cases hstep with
  | poll r hphase =>
    simp only [linesOf, nextInstruction?, hphase, Option.toList_none, List.map_nil, ite_self]
  | unfetched fault hphase hfetch =>
    simp only [linesOf, nextInstruction?, hphase, hfetch, Option.toList_none, List.map_nil, ite_self]
  | unrecognized word hphase hfetch hword =>
    simp only [linesOf, nextInstruction?, hphase, hfetch, hword, Option.map_none, Option.toList_none,
      List.map_nil, ite_self]
  | refused word i fault hphase hfetch hword hrefusal =>
    simp only [linesOf, nextInstruction?, hphase, hfetch, hword]
    rfl
  | obeyed word i after hphase hfetch hword hrefusal hexecute =>
    simp only [linesOf, nextInstruction?, hphase, hfetch, hword]
    rfl

/-- Only cycles print anything. -/
theorem printed_react (m : Machine) (event : Event) :
    (m.react event).printed = if m.tracing then m.linesOf event else [] := by
  cases event with
  | cycle => exact m.printed_cycle
  | loadRom rom =>
    simp only [react, linesOf, ite_self]
    cases m.loadRom rom <;> rfl
  | _ => simp only [react, linesOf, ite_self]

/-- Whether a machine is traced was settled when it was built. -/
theorem tracing_react (m : Machine) (event : Event) :
    (m.react event).machine.tracing = m.tracing := by
  cases event with
  | cycle =>
    show m.cycle.machine.tracing = m.tracing
    have hstep := m.step_cycle
    generalize m.cycle = o at hstep ⊢
    cases hstep with
    | poll r hphase =>
      unfold pollKeypad
      cases m.keypad.firstHeld? <;> rfl
    -- An instruction leaves of the guise what `Guise.past` says, and that is traced or not as before.
    | obeyed word i after hphase hfetch hword hrefusal hexecute =>
      have htracing := congrArg Guise.tracing (guise_of_execute hrefusal hexecute)
      rw [Guise.tracing_past] at htracing
      exact htracing
    | _ => rfl
  | loadRom rom =>
    simp only [react, loadRom]
    cases m.memory.loadRom rom <;> rfl
  | _ => rfl

theorem tracing_after (m : Machine) (events : List Event) : (m.after events).tracing = m.tracing := by
  induction events generalizing m with
  | nil => rfl
  | cons event rest ih => rw [after_cons, ih, tracing_react]

/-- **Watching a machine does not change it.** Take two alike machines, of which each may be traced or
not, and let the same run of events happen to both. Wherever the run has come to, the machines are
still alike; the next event has the same outcome on both; and if it is a cycle that fetches a word,
both machines have noted the same word and address after it. A traced machine prints the lines of the
event, as they are told from the machine before it, and a machine that is not traced prints nothing. -/
theorem Alike.tracing_changes_nothing (h : m.Alike n) (before : List Event) (event : Event) :
    (m.after before).Alike (n.after before) ∧
      ((m.after before).react event).fault = ((n.after before).react event).fault ∧
      (∀ word, event = .cycle → (m.after before).phase = .running →
        (m.after before).fetch = .ok word →
          ((m.after before).react event).machine.opcode =
              ((n.after before).react event).machine.opcode ∧
            ((m.after before).react event).machine.fetchedAt =
              ((n.after before).react event).machine.fetchedAt) ∧
      ((m.after before).react event).printed =
        (if m.tracing then (m.after before).linesOf event else []) ∧
      ((n.after before).react event).printed =
        (if n.tracing then (n.after before).linesOf event else []) := by
  have halike := h.after before
  refine ⟨halike, (halike.react event).2, ?_, ?_, ?_⟩
  · rintro word rfl hphase hfetch
    -- Both have noted the word that the one finds, for the other finds the same.
    obtain ⟨haddress, hword⟩ := cycle_fetched hphase hfetch
    have hphase' : (n.after before).phase = .running := halike.phase ▸ hphase
    have hfetch' : (n.after before).fetch = .ok word := by
      rw [← hfetch, fetch, fetch, halike.memory, halike.pc]
    obtain ⟨haddress', hword'⟩ := cycle_fetched hphase' hfetch'
    exact ⟨hword.trans hword'.symm, by
      show (m.after before).cycle.machine.fetchedAt = (n.after before).cycle.machine.fetchedAt
      rw [haddress, haddress', halike.pc]⟩
  · rw [printed_react, tracing_after]
  · rw [printed_react, tracing_after]

/-- A traced machine on which another program has left its word and address, and whose first five
random bytes are gone. -/
def watched : Machine :=
  { boot ⟨true⟩ ⟨fun k => UInt8.ofNat k, 5⟩ with opcode := 0xABCD, fetchedAt := 0x3 }

/-- A fresh machine that nobody watches, with the bytes from the sixth on. -/
def unwatched : Machine :=
  boot ⟨false⟩ ⟨fun k => UInt8.ofNat (5 + k), 0⟩

/-- The two machines differ in nothing that a program could notice. -/
theorem watched_alike : watched.Alike unwatched := by
  constructor
  case noise =>
    funext k
    show UInt8.ofNat (5 + k) = UInt8.ofNat (5 + (0 + k))
    rw [Nat.zero_add]
  all_goals rfl

/-- A program that draws a random byte and then returns without a call, after its first instruction. -/
def watchedRun : List Event :=
  [.loadRom [0xC3, 0xFF, 0x00, 0xEE], .cycle]

/-- Both machines note the return, and only the traced one says so. -/
theorem tracing_changes_nothing_watched :
    (watched.after watchedRun).Alike (unwatched.after watchedRun) ∧
      ((watched.after watchedRun).react .cycle).machine.opcode =
        ((unwatched.after watchedRun).react .cycle).machine.opcode ∧
      ((watched.after watchedRun).react .cycle).printed =
        ["V: 0x00000000000000000000000005000000 I: 0x0000 DT: 0x00 ST: 0x00" ++
          " PC: 0x202 OP: 0x00ee IN: RET"] ∧
      ((unwatched.after watchedRun).react .cycle).printed = [] := by
  obtain ⟨halike, -, hnoted, hline, hnone⟩ :=
    watched_alike.tracing_changes_nothing watchedRun .cycle
  have hrunning : (watched.after watchedRun).phase = .running := by decide +kernel
  have hfound : (watched.after watchedRun).fetch.toOption = some 0x00EE := by decide +kernel
  have hfetch : (watched.after watchedRun).fetch = .ok 0x00EE := by
    cases hword : (watched.after watchedRun).fetch with
    | error fault =>
      rw [hword] at hfound
      cases hfound
    | ok word =>
      rw [hword] at hfound
      rw [Option.some.inj hfound]
  refine ⟨halike, (hnoted 0x00EE rfl hrunning hfetch).1, hline.trans ?_, hnone⟩
  decide +kernel

end Machine

end Chip8
