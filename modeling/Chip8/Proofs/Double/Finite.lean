import Chip8.Double

/-!
# Finite doubles

A product of a difference of times is read as a whole number, and that fails if it is an infinity or no
number. When it does not fail, the times were finite to begin with: what is not finite stays so in
differences and products (`Double.isFinite_of_sub`, `Double.isFinite_of_mul`). And of two finite doubles
one is below the other or not, without a third way (`Double.not_lt_iff_le`).

* `Double.exists_wholePart_iff`: the doubles with an integer part are the finite ones.
-/

namespace Chip8.Double

open Float.Model

/-! ### What is not finite stays so -/

/-- Packing may make an infinity of a finite number, but nothing finite of what is not. -/
theorem isFinite_of_pack {u : UnpackedFloat} (h : (Float.Model.pack u).isFinite = true) :
    u.isFinite = true := by
  cases u with
  | notANumber => exact absurd h (by decide)
  | infinity sign => cases sign <;> exact absurd h (by decide)
  | zero sign => rfl
  | finite sign mantissa exponent => rfl

/-- A difference is finite only if both of its terms are. -/
theorem isFinite_of_sub {x y : Float} (h : (x - y).isFinite = true) :
    x.isFinite = true ∧ y.isFinite = true := by
  have hpacked : (UnpackedFloat.sub Format.binary64 x.toModel.unpack y.toModel.unpack).isFinite = true :=
    isFinite_of_pack h
  change x.toModel.unpack.isFinite = true ∧ y.toModel.unpack.isFinite = true
  generalize x.toModel.unpack = u at hpacked ⊢
  generalize y.toModel.unpack = v at hpacked ⊢
  cases u with
  | notANumber => cases hpacked
  | infinity sign =>
    cases v with
    | infinity other =>
      -- The difference of two infinities is one of them or no number, as their signs are.
      cases sign <;> cases other <;> cases hpacked
    | _ => cases hpacked
  | zero sign =>
    cases v with
    | notANumber | infinity other => cases hpacked
    | zero other | finite other n f hn => exact ⟨rfl, rfl⟩
  | finite sign m e hm =>
    cases v with
    | notANumber | infinity other => cases hpacked
    | zero other | finite other n f hn => exact ⟨rfl, rfl⟩

/-- A product is finite only if both of its factors are. -/
theorem isFinite_of_mul {x y : Float} (h : (x * y).isFinite = true) :
    x.isFinite = true ∧ y.isFinite = true := by
  have hpacked : (UnpackedFloat.mul Format.binary64 x.toModel.unpack y.toModel.unpack).isFinite = true :=
    isFinite_of_pack h
  change x.toModel.unpack.isFinite = true ∧ y.toModel.unpack.isFinite = true
  generalize x.toModel.unpack = u at hpacked ⊢
  generalize y.toModel.unpack = v at hpacked ⊢
  cases u with
  | notANumber => cases hpacked
  | infinity sign => cases v <;> cases hpacked
  | zero sign =>
    cases v with
    | notANumber | infinity other => cases hpacked
    | zero other | finite other n f hn => exact ⟨rfl, rfl⟩
  | finite sign m e hm =>
    cases v with
    | notANumber | infinity other => cases hpacked
    | zero other | finite other n f hn => exact ⟨rfl, rfl⟩

/-! ### Order -/

/-- Magnitudes compare the other way round when they change places. -/
theorem compare_magnitudes_swap (m n : Nat) (e f : Int) :
    (compare f e).then (compare n m) = ((compare e f).then (compare m n)).swap := by
  rw [Ordering.swap_then, Int.compare_swap, Nat.compare_swap]

/-- Two finite doubles are in some order, and in the other one when they change places. -/
theorem exists_compare {u v : UnpackedFloat} (hu : u.isFinite = true) (hv : v.isFinite = true) :
    ∃ order, u.compare v = some order ∧ v.compare u = some order.swap := by
  cases u with
  | notANumber => cases hu
  | infinity sign => cases hu
  | zero sign =>
    cases v with
    | notANumber => cases hv
    | infinity sign => cases hv
    | zero other => exact ⟨.eq, rfl, rfl⟩
    | finite other n f hn =>
      cases other with
      | positive => exact ⟨.lt, rfl, rfl⟩
      | negative => exact ⟨.gt, rfl, rfl⟩
  | finite sign m e hm =>
    cases v with
    | notANumber => cases hv
    | infinity sign => cases hv
    | zero other =>
      cases sign with
      | positive => exact ⟨.gt, rfl, rfl⟩
      | negative => exact ⟨.lt, rfl, rfl⟩
    | finite other n f hn =>
      have hswap := compare_magnitudes_swap m n e f
      cases sign with
      | positive =>
        cases other with
        | positive =>
          refine ⟨(compare e f).then (compare m n), rfl, ?_⟩
          rw [← hswap]
          rfl
        | negative => exact ⟨.gt, rfl, rfl⟩
      | negative =>
        cases other with
        | positive => exact ⟨.lt, rfl, rfl⟩
        | negative =>
          refine ⟨((compare e f).then (compare m n)).swap, rfl, ?_⟩
          rw [← hswap]
          rfl

/-- Of two finite doubles one is below the other or not. -/
theorem not_lt_iff_le {x y : Float} (hx : x.isFinite = true) (hy : y.isFinite = true) :
    ¬ x < y ↔ y ≤ x := by
  obtain ⟨order, hxy, hyx⟩ := exists_compare (u := x.toModel.unpack) (v := y.toModel.unpack) hx hy
  have hlt : x < y ↔ x.toModel.unpack.lt y.toModel.unpack = true :=
    ⟨fun h => of_decide_eq_true h, fun h => decide_eq_true h⟩
  have hle : y ≤ x ↔ y.toModel.unpack.le x.toModel.unpack = true :=
    ⟨fun h => of_decide_eq_true h, fun h => decide_eq_true h⟩
  -- Without an order, as of what is no number, both sides of the comparison would be false.
  rw [hlt, hle, UnpackedFloat.lt, UnpackedFloat.le, hxy, hyx]
  cases order <;> decide

/-! ### Integer parts -/

/-- The field of a double's bits that tells whether it is finite. -/
def exponentField (x : Float) : BitVec 11 :=
  @UnpackedFloat.unpackExponent Format.binary64 x.toModel.toBits.toBitVec

theorem toNat_exponentField (x : Float) :
    (exponentField x).toNat = x.toBits.toNat / twoPow fractionBits % twoPow 11 := by
  change (x.toBits.toNat >>> 52) % 2 ^ 11 = _
  rw [Nat.shiftRight_eq_div_pow]
  rfl

/-- Of the doubles that are not finite the field has all its bits set. -/
theorem isFinite_iff (x : Float) : x.isFinite = true ↔ exponentField x ≠ -1#11 := by
  change (UnpackedFloat.unpack Format.binary64 x.toModel.toBits.toBitVec).isFinite = true ↔ _
  unfold UnpackedFloat.unpack exponentField
  dsimp only
  generalize x.toModel.toBits.toBitVec = bits
  by_cases hset : @UnpackedFloat.unpackExponent Format.binary64 bits = -1#11
  · refine iff_of_false ?_ (not_not_intro hset)
    rw [if_pos hset]
    -- The fraction tells an infinity from what is no number.
    by_cases hfraction : @UnpackedFloat.unpackMantissa Format.binary64 bits = 0#52
    · rw [if_pos hfraction]
      exact Bool.false_ne_true
    · rw [if_neg hfraction]
      exact Bool.false_ne_true
  · refine iff_of_true ?_ hset
    rw [if_neg hset]
    by_cases hsubnormal : @UnpackedFloat.unpackExponent Format.binary64 bits = 0#11
    · rw [if_pos hsubnormal]
      by_cases hfraction : @UnpackedFloat.unpackMantissa Format.binary64 bits = 0#52
      · rw [dif_pos hfraction]
        rfl
      · rw [dif_neg hfraction]
        rfl
    · rw [if_neg hsubnormal]
      rfl

/-- The doubles with an integer part are the finite ones. -/
theorem exists_wholePart_iff {x : Float} : (∃ n, wholePart x = .ok n) ↔ x.isFinite = true := by
  have hset : exponentField x = -1#11 ↔
      x.toBits.toNat / twoPow fractionBits % twoPow 11 = exponentMax := by
    rw [← toNat_exponentField, ← BitVec.toNat_inj]
    rfl
  rw [isFinite_iff, Ne, hset, wholePart, decode, decodeBits]
  split
  · rename_i hmax
    simp [hmax, Except.map]
  · rename_i hfinite
    refine iff_of_true ?_ hfinite
    split <;> exact ⟨_, rfl⟩

/-- A scaled difference has an integer part only if both times are finite. -/
theorem isFinite_of_wholePart {x y rate : Float} {n : Int} (h : wholePart ((x - y) * rate) = .ok n) :
    x.isFinite = true ∧ y.isFinite = true := by
  have hproduct : ((x - y) * rate).isFinite = true := exists_wholePart_iff.mp ⟨n, h⟩
  exact isFinite_of_sub (isFinite_of_mul hproduct).1

end Chip8.Double
