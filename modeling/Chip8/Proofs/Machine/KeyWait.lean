import Chip8.Proofs.Machine.Faults
import Chip8.Proofs.Machine.Frame
import Chip8.Proofs.Machine.Unseen

/-!
# Waiting for a key

An instruction can make the machine wait for a key. The instruction itself does not look at the pad; it
is over when the machine waits, with the program counter behind it. From then on a cycle only looks at
the pad. While it finds no key held, it changes nothing at all, so that of a run in which no cycle finds
a key (`Machine.Idle`) only the events are left that work the timers and the pad
(`Machine.Idle.after_eq`). The first cycle that finds a key stores the lowest one, and the machine goes
on behind the instruction, which is not run again for the same key.

* `Machine.idle_or_key_found`: a run is idle up to the first cycle that finds a key;
* `Machine.Reachable.await_key`: the whole way from the instruction that waits to the one after it.
-/

namespace Chip8

namespace Keypad

/-- The key that is found is the lowest one that is held. -/
theorem firstHeld?_eq_some_iff {pad : Keypad} {key : Key} :
    pad.firstHeld? = some key ↔
      pad.isHeld key = true ∧ ∀ other < key, pad.isHeld other = false := by
  -- The keys are looked through from the lowest to the highest.
  rw [firstHeld?, List.find?_eq_some_iff_getElem]
  refine and_congr_right fun _ => ?_
  constructor
  · rintro ⟨i, hi, hkey, hlower⟩ other hother
    rw [List.getElem_finRange] at hkey
    subst hkey
    have hfree := hlower other.val hother
    simpa using hfree
  · intro hlower
    refine ⟨key.val, by simp, by simp, fun j hj => ?_⟩
    have hfree := hlower ⟨j, by omega⟩ hj
    simpa using hfree

/-- No key is found if none is held. -/
theorem firstHeld?_eq_none_iff {pad : Keypad} :
    pad.firstHeld? = none ↔ ∀ key, pad.isHeld key = false := by
  simp [firstHeld?]

end Keypad

namespace Machine

variable {m : Machine} {r : Register}

/-! ### Cycles of a machine that waits -/

/-- A run in which every cycle finds no key held, and all other events work the timers and the pad. -/
inductive Idle : Machine → List Event → Prop
  | nil (m : Machine) : Idle m []
  | cycle {m : Machine} {rest : List Event} (hfree : ∀ key, m.keypad.isHeld key = false)
      (hrest : Idle m.cycle.machine rest) : Idle m (.cycle :: rest)
  | peripheral {m : Machine} {event : Event} {rest : List Event}
      (hevent : event.isPeripheral = true) (hrest : Idle (m.react event).machine rest) :
      Idle m (event :: rest)

/-- A cycle that finds no key changes nothing at all. -/
theorem cycle_of_no_key (hphase : m.phase = .awaitingKey r)
    (hfree : ∀ key, m.keypad.isHeld key = false) : m.cycle = ⟨m, none, []⟩ := by
  rw [cycle_awaitingKey hphase, pollKeypad, Keypad.firstHeld?_eq_none_iff.mpr hfree]

/-- A cycle that finds a key stores the lowest one, and the machine runs again. -/
theorem cycle_of_lowest_key (hphase : m.phase = .awaitingKey r) {key : Key}
    (hheld : m.keypad.isHeld key = true) (hlower : ∀ other < key, m.keypad.isHeld other = false) :
    m.cycle = ⟨{ m with
      registers := (m.setRegister r (UInt8.ofNat key.val)).registers
      phase := .running }, none, []⟩ := by
  rw [cycle_awaitingKey hphase, pollKeypad, Keypad.firstHeld?_eq_some_iff.mpr ⟨hheld, hlower⟩]
  rfl

/-- Of an idle run only the work on the timers and the pad counts. -/
theorem Idle.after_eq {events : List Event} (h : m.Idle events) (hphase : m.phase = .awaitingKey r) :
    m.after events = m.after (events.filter Event.isPeripheral) := by
  induction h with
  | nil m => rfl
  | @cycle m rest hfree hrest ih =>
    -- The cycle has left the very same machine, which still waits.
    have hsame := cycle_of_no_key hphase hfree
    rw [hsame] at ih
    rw [List.filter_cons_of_neg (by decide), after_cons]
    change m.cycle.machine.after rest = _
    rw [hsame]
    exact ih hphase
  | @peripheral m event rest hevent hrest ih =>
    -- The event counts on both sides, and the machine waits after it.
    rw [List.filter_cons_of_pos hevent, after_cons, after_cons]
    refine ih ?_
    rw [react_peripheral hevent]
    exact hphase

/-- An idle run changes the timers and the pad and nothing else. -/
theorem Idle.after_keeps {events : List Event} (h : m.Idle events)
    (hphase : m.phase = .awaitingKey r) :
    m.after events = { m with
      timers := (m.after events).timers
      keypad := (m.after events).keypad } := by
  rw [h.after_eq hphase]
  exact after_peripheral fun event hevent => (List.mem_filter.mp hevent).2

/-! ### The instruction that waits, and the one after it -/

/-- The instruction that waits is over when the machine waits. -/
theorem Meets.cycle_awaitKey (hm : m.Invariant) {word : Int} (hword : m.Meets word)
    (hform : Form.awaitKey.Fits word) :
    m.cycle = ⟨{ m with
      fetchedAt := m.pc
      opcode := word
      pc := m.pc + 2
      phase := .awaitingKey (Operands.ofWord word).x },
      none, (m.fetched word).trace ⟨.awaitKey, Operands.ofWord word⟩⟩ := by
  obtain ⟨-, hfetch⟩ := hm.meets_iff.mp hword
  have hcycle := hword.cycle_of_execute hm hform rfl
  rw [hm.fetched_eq hfetch] at hcycle ⊢
  exact hcycle

/-- Where a running machine looks for its next word, and what comes of it. -/
theorem Invariant.cycle_at (hm : m.Invariant) (hphase : m.phase = .running) :
    m.cycle.machine.fetchedAt = m.pc ∧
      (m.pc ≤ 0xFFE → m.cycle.machine.opcode = m.wordAt m.pc) ∧
      (0xFFE < m.pc →
        m.cycle.fault = some (.addressOutOfRange (if 0xFFF < m.pc then m.pc else 0x1000))) := by
  -- The word is there, and then it is noted, or it is not, and then the address is all that is noted.
  by_cases hin : m.pc ≤ 0xFFE
  · obtain ⟨haddress, hopcode⟩ := cycle_fetched hphase (hm.fetch_eq_ok_iff.mpr ⟨hin, rfl⟩)
    exact ⟨haddress, fun _ => hopcode, fun hout => absurd hin (by omega)⟩
  · have hout : 0xFFE < m.pc := by omega
    have hfetch := hm.fetch_eq_error_iff.mpr ⟨hout, rfl⟩
    rw [(Step.unfetched _ hphase hfetch).cycle_eq]
    exact ⟨rfl, fun h => absurd h hin, fun _ => rfl⟩

/-- A run of cycles and work on the timers and the pad is idle up to the first cycle that finds a key,
if there is one. -/
theorem idle_or_key_found (m : Machine) {events : List Event}
    (hcalm : ∀ event ∈ events, event = .cycle ∨ event.isPeripheral = true) :
    m.Idle events ∨ ∃ before rest, events = before ++ .cycle :: rest ∧ m.Idle before ∧
      ∃ key, (m.after before).keypad.isHeld key = true := by
  induction events generalizing m with
  | nil => exact .inl (.nil m)
  | cons event rest ih =>
    obtain ⟨hfirst, hrest⟩ := List.forall_mem_cons.mp hcalm
    -- What is found in the rest of the run is found in the run, if its first event is idle.
    have hlonger : ∀ hadd : ∀ {some}, (m.react event).machine.Idle some → m.Idle (event :: some),
        m.Idle (event :: rest) ∨ ∃ before later, event :: rest = before ++ .cycle :: later ∧
          m.Idle before ∧ ∃ key, (m.after before).keypad.isHeld key = true := by
      intro hadd
      rcases ih (m.react event).machine hrest with hidle | ⟨before, later, rfl, hidle, hkey⟩
      · exact .inl (hadd hidle)
      · exact .inr ⟨event :: before, later, rfl, hadd hidle, hkey⟩
    rcases hfirst with rfl | hevent
    · -- A cycle either ends the idle run or belongs to it.
      by_cases hkey : ∃ key, m.keypad.isHeld key = true
      · exact .inr ⟨[], rest, rfl, .nil m, hkey⟩
      · have hfree : ∀ key, m.keypad.isHeld key = false := by simpa using hkey
        exact hlonger fun hidle => .cycle hfree hidle
    · exact hlonger fun hidle => .peripheral hevent hidle

/-- A key that is held is found by the first cycle that looks, and the lowest one counts. The machine
then runs again from where it stands, whatever work there is on the timers and the pad before. -/
theorem Invariant.key_found (hm : m.Invariant) (hphase : m.phase = .awaitingKey r) {pc : Int}
    (hpc : m.pc = pc) (hinside : pc ≤ 0x1000) (hheld : ∃ key, m.keypad.isHeld key = true) :
    ∃ key, m.keypad.isHeld key = true ∧ (∀ other < key, m.keypad.isHeld other = false) ∧
      m.cycle = ⟨{ m with
        registers := (m.setRegister r (UInt8.ofNat key.val)).registers
        phase := .running }, none, []⟩ ∧
      ∀ later : List Event, (∀ event ∈ later, event.isPeripheral = true) →
        (m.cycle.machine.after later).phase = .running ∧
        (m.cycle.machine.after later).pc = pc ∧
        (m.cycle.machine.after later).cycle.machine.fetchedAt = pc ∧
        (pc ≤ 0xFFE → (m.cycle.machine.after later).cycle.machine.opcode = m.wordAt pc) ∧
        (0xFFE < pc →
          (m.cycle.machine.after later).cycle.fault = some (.addressOutOfRange 0x1000)) := by
  have hfound : m.keypad.firstHeld? ≠ none := by
    rw [Ne, Keypad.firstHeld?_eq_none_iff]
    simpa using hheld
  obtain ⟨key, hkey⟩ := Option.ne_none_iff_exists'.mp hfound
  obtain ⟨hkeyHeld, hlower⟩ := Keypad.firstHeld?_eq_some_iff.mp hkey
  have hcycle := cycle_of_lowest_key hphase hkeyHeld hlower
  refine ⟨key, hkeyHeld, hlower, hcycle, fun later hlater => ?_⟩
  -- Work on the timers and the pad neither moves the program counter nor touches memory.
  have hkeeps := after_peripheral (m := m.cycle.machine) hlater
  have hrunning : (m.cycle.machine.after later).phase = .running := by rw [hkeeps, hcycle]
  have hsamePc : (m.cycle.machine.after later).pc = pc := by
    rw [hkeeps, hcycle]
    exact hpc
  have hsameWord : (m.cycle.machine.after later).wordAt pc = m.wordAt pc := by
    rw [hkeeps, hcycle]
    rfl
  obtain ⟨haddress, hin, hout⟩ := (hm.cycle.after later).cycle_at hrunning
  rw [hsamePc] at haddress hin hout
  rw [hsameWord] at hin
  -- Whichever of the two bytes is missing, it is the one right behind memory.
  have hmissing : (if 0xFFF < pc then pc else 0x1000) = 0x1000 := by
    split
    · omega
    · rfl
  rw [hmissing] at hout
  exact ⟨hrunning, hsamePc, haddress, hin, hout⟩

/-- **Waiting for a key.** The instruction that waits does not look at the pad, and leaves the machine
waiting with the program counter behind it. After it, any run of cycles and work on the timers and the
pad is idle up to the first cycle that finds a key. Of an idle run only the work on the timers and the
pad counts, and a cycle that finds no key changes nothing. One that finds a key stores the lowest one
that is held; the machine runs again and changes in no other way, and fetches its next word behind the
instruction that has waited. -/
theorem Reachable.await_key (hm : m.Reachable) {word : Int} (hword : m.Meets word)
    (hform : Form.awaitKey.Fits word) :
    (m.cycle.fault = none ∧
      m.cycle.machine = { m with
        fetchedAt := m.pc
        opcode := word
        pc := m.pc + 2
        phase := .awaitingKey (Operands.ofWord word).x } ∧
      ∀ pad, { m with keypad := pad }.cycle = ⟨{ m with
        keypad := pad
        fetchedAt := m.pc
        opcode := word
        pc := m.pc + 2
        phase := .awaitingKey (Operands.ofWord word).x }, none, m.cycle.printed⟩) ∧
    (∀ events : List Event, (∀ event ∈ events, event = .cycle ∨ event.isPeripheral = true) →
      m.cycle.machine.Idle events ∨
        ∃ before rest, events = before ++ .cycle :: rest ∧ m.cycle.machine.Idle before ∧
          ∃ key, (m.cycle.machine.after before).keypad.isHeld key = true) ∧
    ∀ events, m.cycle.machine.Idle events →
      let still := m.cycle.machine.after events
      still = m.cycle.machine.after (events.filter Event.isPeripheral) ∧
      still = { m.cycle.machine with timers := still.timers, keypad := still.keypad } ∧
      ((∀ key, still.keypad.isHeld key = false) → still.cycle = ⟨still, none, []⟩) ∧
      ((∃ key, still.keypad.isHeld key = true) →
        ∃ key, still.keypad.isHeld key = true ∧
          (∀ other < key, still.keypad.isHeld other = false) ∧
          still.cycle = ⟨{ still with
            registers := (still.setRegister (Operands.ofWord word).x (UInt8.ofNat key.val)).registers
            phase := .running }, none, []⟩ ∧
          ∀ later : List Event, (∀ event ∈ later, event.isPeripheral = true) →
            let next := still.cycle.machine.after later
            next.phase = .running ∧ next.pc = m.pc + 2 ∧
              next.cycle.machine.fetchedAt = m.pc + 2 ∧
              (m.pc + 2 ≤ 0xFFE → next.cycle.machine.opcode = m.wordAt (m.pc + 2)) ∧
              (0xFFE < m.pc + 2 → next.cycle.fault = some (.addressOutOfRange 0x1000))) := by
  have hinv := hm.invariant
  have hcycle := hword.cycle_awaitKey hinv hform
  have hwaits : m.cycle.machine.phase = .awaitingKey (Operands.ofWord word).x := by rw [hcycle]
  refine ⟨⟨by rw [hcycle], by rw [hcycle], fun pad => ?_⟩, fun events hcalm => ?_,
    fun events hidle => ?_⟩
  · -- With another pad the machine meets the same word.
    have hother : { m with keypad := pad }.Meets word := hword
    have hinvOther : { m with keypad := pad }.Invariant := { hinv with }
    have hprinted : m.cycle.printed =
        (m.fetched word).trace ⟨.awaitKey, Operands.ofWord word⟩ := by rw [hcycle]
    rw [hother.cycle_awaitKey hinvOther hform, hprinted]
    rfl
  · exact m.cycle.machine.idle_or_key_found hcalm
  intro still
  -- The machine at the end of the idle run is known but for its timers and its pad.
  have hstill : still = { m.cycle.machine with timers := still.timers, keypad := still.keypad } :=
    hidle.after_keeps hwaits
  have hphase : still.phase = .awaitingKey (Operands.ofWord word).x := by
    rw [hstill]
    exact hwaits
  have hpc : still.pc = m.pc + 2 := by
    rw [hstill, hcycle]
  have hsameWord : still.wordAt (m.pc + 2) = m.wordAt (m.pc + 2) := by
    rw [hstill, hcycle]
    rfl
  refine ⟨hidle.after_eq hwaits, hstill, cycle_of_no_key hphase, fun hheld => ?_⟩
  -- The instruction that waits was fetched, so that what comes behind it starts in memory or right after.
  have hinside : m.pc + 2 ≤ 0x1000 := by
    have hfetched := hword.2.1
    omega
  have hfound := (hinv.cycle.after events).key_found hphase hpc hinside hheld
  rw [hsameWord] at hfound
  exact hfound

/-- A machine whose program waits for a key and then goes on, with a key held that is let go. -/
def keyAsked : Machine :=
  (boot {} (Noise.cycling [])).after [.loadRom [0xFF, 0x0A, 0x00, 0xE0], .press 0xB]

theorem keyAsked_reachable : keyAsked.Reachable := by
  unfold keyAsked
  exact (Reachable.boot _ _).after _

/-- What happens while it waits: the key that was held is let go before the first cycle, and two keys
are pressed after it. -/
def keyAskedRun : List Event :=
  [.release 0xB, .cycle, .tick, .press 7, .press 4]

theorem await_key_keyAsked :
    keyAsked.pc = 0x200 ∧
      (keyAsked.cycle.machine.after keyAskedRun).cycle.machine.register 0xF = 4 ∧
      (keyAsked.cycle.machine.after keyAskedRun).cycle.machine.phase = .running ∧
      (keyAsked.cycle.machine.after keyAskedRun).cycle.machine.cycle.machine.opcode = 0x00E0 := by
  have hword : keyAsked.Meets 0xFF0A :=
    ⟨by decide +kernel, by decide +kernel, by decide +kernel⟩
  have hform : Form.awaitKey.Fits 0xFF0A := by
    rw [← Form.ofWord?_eq_some_iff_fits (by decide) (by decide)]
    decide
  -- The one cycle of the run finds the pad empty.
  have hidle : keyAsked.cycle.machine.Idle keyAskedRun := by
    unfold keyAskedRun
    refine .peripheral rfl (.cycle ?_ (.peripheral rfl (.peripheral rfl (.peripheral rfl (.nil _)))))
    decide +kernel
  have hpc : keyAsked.pc = 0x200 := by decide +kernel
  have hheld : (keyAsked.cycle.machine.after keyAskedRun).keypad.isHeld 4 = true := by decide +kernel
  -- Of the two keys that are held then the lower one counts.
  have hlowest : ∀ key, (keyAsked.cycle.machine.after keyAskedRun).keypad.isHeld key = true →
      (∀ other < key, (keyAsked.cycle.machine.after keyAskedRun).keypad.isHeld other = false) →
      key = 4 := by
    decide +kernel
  have hnext : keyAsked.wordAt (0x200 + 2) = 0x00E0 := by decide +kernel
  have hwait := ((keyAsked_reachable.await_key hword hform).2.2 keyAskedRun hidle).2.2.2
  obtain ⟨key, hkey, hlower, hfound, hlater⟩ := hwait ⟨4, hheld⟩
  obtain rfl := hlowest key hkey hlower
  obtain ⟨hphase, -, -, hopcode, -⟩ := hlater [] (fun event h => absurd h List.not_mem_nil)
  rw [after_nil] at hphase hopcode
  rw [hpc, hnext] at hopcode
  refine ⟨hpc, ?_, hphase, hopcode (by decide)⟩
  rw [hfound]
  decide +kernel

end Machine

end Chip8
