import Chip8.Proofs.Machine.Arithmetic
import Chip8.Proofs.Machine.Ownership

/-!
# Registers in memory

Three forms of instruction move bytes between the registers and the memory that the index points to: the
registers up to one are stored and loaded, and the decimal digits of a register are stored. Each of them
is the way back from another. What was stored is loaded again, whatever the registers were used for in
the meantime; storing what was just loaded leaves memory as it was; and the digits of a register, once
they are loaded, stand for the number that it held (`Machine.blocks_come_back`).

None of the three moves the index, and none touches anything outside its block, which may be as long as
all registers together and may reach up to the last byte of memory. `Machine.StoresOnly` is what the forms
that store come to, beside `Machine.SetsOnly` for the form that loads. The laws of memory behind it are
`Memory.slice_put` and `Memory.put_slice`; on the side of the registers, `Machine.registersTo` reads a run
of them and `Machine.setRegistersTo` sets one. A cycle performs the word that it has fetched
(`Machine.cycle_eq_perform`), so that a program can rely on the same.
-/

namespace Chip8

namespace Form

/-- The word of a form that has a register as its one operand. -/
def withRegister (form : Form) (x : Register) : Int :=
  form.key + 0x100 * x.val

/-- The forms that move bytes between registers and memory. -/
def moving : List Form :=
  [.decimal, .store, .load]

/-- The word of such a form fits its pattern, and names the register. -/
theorem fits_withRegister (form : Form) (hform : form ∈ moving) (x : Register) :
    form.Fits (form.withRegister x) ∧ (Operands.ofWord (form.withRegister x)).x = x := by
  have hall : ∀ form ∈ moving, ∀ x : Register,
      form.Fits (form.withRegister x) ∧ (Operands.ofWord (form.withRegister x)).x = x := by
    decide
  exact hall form hform x

end Form

namespace Machine

/-- The registers from the first one up to `last`, by their names. -/
def upTo (last : Register) : List Register :=
  (List.finRange 16).filter (· ≤ last)

/-- The word is performed without a fault, and it stores the given bytes from the index on. -/
structure StoresOnly (m : Machine) (word : Int) (bytes : List UInt8) : Prop where
  fault : (m.perform word).fault = none
  rest : (m.perform word).machine =
    { m with opcode := word, memory := (m.perform word).machine.memory }
  size : (m.perform word).machine.memory.size = m.memory.size
  stored : ∀ k (hk : k < bytes.length),
    (m.perform word).machine.memory.byteAt (m.index.toNat + k) = bytes[k]
  others : ∀ address : Nat, ¬ (m.index ≤ address ∧ address < m.index + bytes.length) →
    (m.perform word).machine.memory.byteAt address = m.memory.byteAt address

variable {m later : Machine} {x r : Register} {bytes : List UInt8}

theorem mem_upTo : r ∈ upTo x ↔ r ≤ x := by
  simp [upTo]

/-! ### Runs of registers -/

/-- The registers in a run stand in their order. -/
theorem getElem_registersTo (m : Machine) (x : Register) {k : Nat}
    (hk : k < (m.registersTo x).length) (hlt : k < 16) :
    (m.registersTo x)[k] = m.register ⟨k, hlt⟩ := by
  simp only [registersTo, List.getElem_take, Vector.getElem_toList, register, Fin.getElem_fin]

/-- Runs of registers are equal if register by register they are. -/
theorem registersTo_congr (h : ∀ r ≤ x, later.register r = m.register r) :
    later.registersTo x = m.registersTo x := by
  refine List.ext_getElem ?_ fun k hk hk' => ?_
  · rw [length_registersTo, length_registersTo]
  · have hle := length_registersTo later x
    have hlt : k < 16 := by omega
    rw [getElem_registersTo later x hk hlt, getElem_registersTo m x hk' hlt]
    exact h ⟨k, hlt⟩ (show k ≤ x.val by omega)

/-- The registers that were set to a run of bytes read as that run. -/
theorem registersTo_setRegistersTo (m : Machine) (hlength : bytes.length = x.val + 1) :
    (m.setRegistersTo x bytes).registersTo x = bytes := by
  refine List.ext_getElem ?_ fun k hk hk' => ?_
  · rw [length_registersTo, hlength]
  · have hlt : k < 16 := by omega
    have hle : (⟨k, hlt⟩ : Register) ≤ x := show k ≤ x.val by omega
    rw [getElem_registersTo _ _ hk hlt, register_setRegistersTo, if_pos hle,
      List.getD_eq_getElem?_getD, List.getElem?_eq_getElem hk']
    rfl

/-- A register up to the last one is found at its number in the run. -/
theorem getD_registersTo (m : Machine) (hle : r ≤ x) :
    (m.registersTo x).getD r.val 0 = m.register r := by
  have hk : r.val < (m.registersTo x).length := by
    rw [length_registersTo]
    exact Nat.lt_succ_of_le hle
  rw [List.getD_eq_getElem?_getD, List.getElem?_eq_getElem hk, Option.getD_some,
    getElem_registersTo m x hk r.isLt]

/-! ### One instruction -/

/-- An instruction that puts a block in place, and changes nothing else, stores only that. -/
theorem storesOnly_of_execute {form : Form} {word : Int} (hform : form.Fits word)
    (hin : m.memory.Holds m.index bytes.length)
    (hexecute : execute ⟨form, Operands.ofWord word⟩ { m with opcode := word } =
      .ok () { m with opcode := word, memory := m.memory.put m.index.toNat bytes }) :
    m.StoresOnly word bytes ∧
      (m.perform word).machine.memory = m.memory.put m.index.toNat bytes := by
  -- The index is an integer, and it is within memory as long as the block is.
  obtain ⟨hlow, hhigh⟩ := hin
  have hbyte := fun address => m.memory.byteAt_put m.index.toNat address bytes (by omega)
  have hperform := perform_of_execute (Instruction.ofWord?_of_fits hform) hexecute
  refine ⟨⟨?_, ?_, ?_, fun k hk => ?_, fun address hout => ?_⟩, ?_⟩ <;> rw [hperform]
  · exact Memory.size_put ..
  · show (m.memory.put m.index.toNat bytes).byteAt (m.index.toNat + k) = _
    rw [hbyte, if_pos (by omega), Nat.add_sub_cancel_left, List.getD_eq_getElem?_getD,
      List.getElem?_eq_getElem hk]
    rfl
  · show (m.memory.put m.index.toNat bytes).byteAt address = _
    rw [hbyte, if_neg (by omega)]

/-- What is not refused for a run of bytes. -/
theorem spanRefusal?_of_holds {count : Int} (hin : m.memory.Holds m.index count) (word : Int) :
    { m with opcode := word }.spanRefusal? count = none :=
  spanRefusal?_eq_none_iff.mpr fun _ => hin

/-- The registers up to one are stored. -/
theorem perform_store (hin : m.memory.Holds m.index (x.val + 1)) :
    m.StoresOnly (Form.store.withRegister x) (m.registersTo x) ∧
      (m.perform (Form.store.withRegister x)).machine.memory =
        m.memory.put m.index.toNat (m.registersTo x) := by
  obtain ⟨hform, hx⟩ := Form.fits_withRegister .store (by decide) x
  -- There is one byte for each register, so that the block which was checked is the one that is stored.
  have hlength := length_registersTo m x
  refine storesOnly_of_execute hform (by rw [hlength]; exact hin) ?_
  rw [execute_store_of_no_refusal _ (by rw [hx]; exact spanRefusal?_of_holds hin _), hx]
  rfl

/-- The digits of a register are stored. -/
theorem perform_decimal (hin : m.memory.Holds m.index 3) :
    m.StoresOnly (Form.decimal.withRegister x) (decimalDigits (m.register x)) ∧
      (m.perform (Form.decimal.withRegister x)).machine.memory =
        m.memory.put m.index.toNat (decimalDigits (m.register x)) := by
  obtain ⟨hform, hx⟩ := Form.fits_withRegister .decimal (by decide) x
  refine storesOnly_of_execute hform hin ?_
  rw [execute_decimal_of_no_refusal _ (spanRefusal?_of_holds hin _), hx]
  rfl

/-- The registers up to one are loaded. -/
theorem perform_load (hin : m.memory.Holds m.index (x.val + 1)) :
    m.SetsOnly (Form.load.withRegister x) (upTo x) ∧
      (m.perform (Form.load.withRegister x)).machine =
        { m with opcode := Form.load.withRegister x }.setRegistersTo x
          (m.memory.slice m.index.toNat (x.val + 1)) := by
  obtain ⟨hform, hx⟩ := Form.fits_withRegister .load (by decide) x
  have hexecute := execute_load_of_no_refusal (m := { m with opcode := Form.load.withRegister x })
    (Operands.ofWord (Form.load.withRegister x)) (by rw [hx]; exact spanRefusal?_of_holds hin _)
  rw [hx] at hexecute
  refine setsOnly_of_execute hform hexecute rfl fun r hr => ?_
  rw [register_setRegistersTo, if_neg (mt mem_upTo.mpr hr)]
  rfl

/-! ### One after the other -/

/-- A block that was stored is loaded, if memory and index have been left alone since. -/
theorem load_of_put (hlength : bytes.length = x.val + 1)
    (hin : m.memory.Holds m.index (x.val + 1))
    (hmemory : later.memory = m.memory.put m.index.toNat bytes) (hindex : later.index = m.index) :
    later.SetsOnly (Form.load.withRegister x) (upTo x) ∧
      ∀ r ≤ x, (later.perform (Form.load.withRegister x)).machine.register r =
        bytes.getD r.val 0 := by
  obtain ⟨hlow, hhigh⟩ := hin
  -- The later machine has the same block in memory, as storing does not change the size of memory.
  have hholds : later.memory.Holds later.index (x.val + 1) := by
    rw [hindex, hmemory, Memory.Holds, Memory.size_put]
    exact ⟨hlow, hhigh⟩
  have hslice : later.memory.slice later.index.toNat (x.val + 1) = bytes := by
    rw [hindex, hmemory, ← hlength]
    exact m.memory.slice_put _ _ (by omega)
  obtain ⟨hsets, hload⟩ := perform_load hholds
  refine ⟨hsets, fun r hle => ?_⟩
  rw [hload, hslice, register_setRegistersTo, if_pos hle]

/-- Storing what was loaded changes nothing in memory. -/
theorem memory_store_of_load (hin : m.memory.Holds m.index (x.val + 1))
    (hmemory : later.memory = m.memory) (hindex : later.index = m.index)
    (hregisters : ∀ r ≤ x, later.register r =
      (m.perform (Form.load.withRegister x)).machine.register r) :
    (later.perform (Form.store.withRegister x)).machine.memory = m.memory := by
  have hholds : later.memory.Holds later.index (x.val + 1) := by
    rw [hindex, hmemory]
    exact hin
  -- The registers hold the bytes of the block, whichever machine it was loaded on.
  have hslice : later.registersTo x = m.memory.slice m.index.toNat (x.val + 1) := by
    rw [registersTo_congr hregisters, (perform_load hin).2]
    exact registersTo_setRegistersTo _ (Memory.length_slice ..)
  rw [(perform_store hholds).2, hslice, hmemory, hindex]
  refine m.memory.put_slice _ _ ?_
  obtain ⟨hlow, hhigh⟩ := hin
  omega

/-- The digits of a byte stand for it. -/
theorem toNat_decimalDigits (value : UInt8) :
    (∀ digit ∈ decimalDigits value, digit.toNat ≤ 9) ∧
      100 * (value / 100).toNat + 10 * (value / 10 % 10).toNat + (value % 10).toNat =
        value.toNat := by
  have hlt := value.toNat_lt
  -- Division and remainder of bytes are those of the numbers that they are.
  have hhundreds : (value / 100).toNat = value.toNat / 100 := UInt8.toNat_div ..
  have htens : (value / 10 % 10).toNat = value.toNat / 10 % 10 := by
    rw [UInt8.toNat_mod, UInt8.toNat_div]
    rfl
  have hunits : (value % 10).toNat = value.toNat % 10 := UInt8.toNat_mod ..
  constructor
  · simp only [decimalDigits, List.mem_cons, List.not_mem_nil, or_false, forall_eq_or_imp, forall_eq]
    omega
  · omega

/-- **Registers come back from memory.** On any machine whose index points to a block that lies in memory:
the registers up to one are stored there and nothing else changes; if later, whatever the registers are
used for, they are loaded from where they were stored, each of them is what it was when it was stored, and
again nothing else changes. Storing registers that were loaded leaves the whole of memory as it was. The
three digits of a register are stored as digits and nothing else changes, and once they are loaded they
stand for the number that the register held. -/
theorem blocks_come_back (m : Machine) (x : Register) (hlow : 0 ≤ m.index) :
    let store := Form.store.withRegister x
    let load := Form.load.withRegister x
    let decimal := Form.decimal.withRegister x
    (m.index + x.val < m.memory.size →
      m.StoresOnly store (m.registersTo x) ∧
      (∀ later : Machine, later.memory = (m.perform store).machine.memory → later.index = m.index →
        later.SetsOnly load (upTo x) ∧
          ∀ r ≤ x, (later.perform load).machine.register r = m.register r) ∧
      m.SetsOnly load (upTo x) ∧
      (∀ later : Machine, later.memory = (m.perform load).machine.memory → later.index = m.index →
        (∀ r ≤ x, later.register r = (m.perform load).machine.register r) →
        later.StoresOnly store (later.registersTo x) ∧
          (later.perform store).machine.memory = m.memory)) ∧
    (m.index + 2 < m.memory.size →
      ∃ hundreds tens units : UInt8,
        (hundreds.toNat ≤ 9 ∧ tens.toNat ≤ 9 ∧ units.toNat ≤ 9) ∧
        m.StoresOnly decimal [hundreds, tens, units] ∧
        ∀ later : Machine, later.memory = (m.perform decimal).machine.memory →
          later.index = m.index →
          let last := (later.perform (Form.load.withRegister 2)).machine
          later.SetsOnly (Form.load.withRegister 2) (upTo 2) ∧
            100 * (last.register 0).toNat + 10 * (last.register 1).toNat + (last.register 2).toNat =
              (m.register x).toNat) := by
  intro store load decimal
  refine ⟨fun hhigh => ?_, fun hhigh => ?_⟩
  · have hin : m.memory.Holds m.index (x.val + 1) := ⟨hlow, by omega⟩
    obtain ⟨hstores, hput⟩ := perform_store hin
    obtain ⟨hsets, -⟩ := perform_load hin
    -- Loading sets registers only, and so memory is as it was.
    have hkept : (m.perform load).machine.memory = m.memory := by
      rw [hsets.rest]
    refine ⟨hstores, fun later hmemory hindex => ?_, hsets, fun later hmemory hindex hregisters => ?_⟩
    · obtain ⟨hloads, hvalues⟩ :=
        load_of_put (length_registersTo m x) hin (hmemory.trans hput) hindex
      exact ⟨hloads, fun r hle => (hvalues r hle).trans (m.getD_registersTo hle)⟩
    · -- Nothing has been stored since the registers were loaded.
      have hsame : later.memory = m.memory := hmemory.trans hkept
      have hholds : later.memory.Holds later.index (x.val + 1) := by
        rw [hsame, hindex]
        exact hin
      exact ⟨(perform_store hholds).1, memory_store_of_load hin hsame hindex hregisters⟩
  · have hin : m.memory.Holds m.index 3 := ⟨hlow, by omega⟩
    obtain ⟨hstores, hput⟩ := perform_decimal (x := x) hin
    obtain ⟨hdigits, hvalue⟩ := toNat_decimalDigits (m.register x)
    simp only [decimalDigits, List.forall_mem_cons, List.not_mem_nil, false_implies, implies_true,
      and_true] at hdigits
    refine ⟨_, _, _, hdigits, hstores, fun later hmemory hindex => ?_⟩
    -- The digits are loaded into the first three registers, the hundreds into the first.
    obtain ⟨hloads, hregisters⟩ := load_of_put (x := 2) rfl hin (hmemory.trans hput) hindex
    refine ⟨hloads, ?_⟩
    rw [hregisters 0 (by decide), hregisters 1 (by decide), hregisters 2 (by decide)]
    exact hvalue

/-- A machine with something in its first three registers, and with its index at the last three bytes of
memory. -/
def atTheTop : Machine :=
  (boot {} (Noise.cycling [])).after
    [.loadRom [0xAF, 0xFD, 0x60, 0xFE, 0x61, 0x2B, 0x62, 0x0F], .cycle, .cycle, .cycle, .cycle]

/-- Three registers are stored and then cleared, and they come back; what is loaded from there can be stored
again; and so can the digits of 254 be loaded. -/
theorem blocks_come_back_atTheTop :
    let cleared : Machine :=
      { (atTheTop.perform 0xF255).machine with registers := Vector.replicate 16 0 }
    (cleared.perform 0xF265).machine.register 0 = 254 ∧
      (cleared.perform 0xF265).machine.register 2 = 15 ∧
      ((atTheTop.perform 0xF265).machine.perform 0xF255).machine.memory = atTheTop.memory ∧
      ∃ digits : UInt8 × UInt8 × UInt8,
        atTheTop.StoresOnly 0xF033 [digits.1, digits.2.1, digits.2.2] ∧
        let last := ((atTheTop.perform 0xF033).machine.perform 0xF265).machine
        100 * (last.register 0).toNat + 10 * (last.register 1).toNat + (last.register 2).toNat =
          254 := by
  intro cleared
  obtain ⟨hstore, hload, hdigitsWord⟩ : Form.store.withRegister 2 = 0xF255 ∧
      Form.load.withRegister 2 = 0xF265 ∧ Form.decimal.withRegister 0 = 0xF033 := by
    decide
  obtain ⟨hindex, hsize, hfirst, hthird⟩ :
      atTheTop.index = 0xFFD ∧ atTheTop.memory.size = 0x1000 ∧ atTheTop.register 0 = 254 ∧
        atTheTop.register 2 = 15 := by
    decide +kernel
  have hlow : 0 ≤ atTheTop.index := by
    rw [hindex]
    decide
  have hhigh : atTheTop.index + 2 < atTheTop.memory.size := by
    rw [hindex, hsize]
    decide
  -- Three registers up to the last byte of memory, and the digits of the first in the same place.
  obtain ⟨hblock, -⟩ := blocks_come_back atTheTop 2 hlow
  obtain ⟨hstored, hback, hloaded, hagain⟩ := hblock hhigh
  rw [hstore] at hstored hback hagain
  rw [hload] at hback hloaded hagain
  -- Clearing registers touches neither memory nor index.
  have hcleared : cleared.memory = (atTheTop.perform 0xF255).machine.memory := by
    dsimp only [cleared]
  have hcleared' : cleared.index = (atTheTop.perform 0xF255).machine.index := by
    dsimp only [cleared]
  obtain ⟨-, hregisters⟩ := hback cleared hcleared (hcleared'.trans (by rw [hstored.rest]))
  obtain ⟨-, hmemory⟩ := hagain _ rfl (by rw [hloaded.rest]) fun r _ => rfl
  obtain ⟨-, hdecimal⟩ := blocks_come_back atTheTop 0 hlow
  obtain ⟨hundreds, tens, units, -, hdigits, hread⟩ := hdecimal hhigh
  rw [hdigitsWord] at hdigits hread
  rw [hload] at hread
  obtain ⟨-, hvalue⟩ := hread _ rfl (by rw [hdigits.rest])
  refine ⟨(hregisters 0 (by decide)).trans hfirst, (hregisters 2 (by decide)).trans hthird, hmemory,
    ⟨hundreds, tens, units⟩, hdigits, hvalue.trans ?_⟩
  rw [hfirst]
  rfl

end Machine

end Chip8
