import Mathlib

/-!
# Comparisons and arithmetic of binary64 numbers

Facts about `Float` that hold whatever the rounding does: which operands produce a
NaN, and that numbers which are not NaN are totally ordered.
-/
namespace OpenOntology.Library.Binary64
open Float.Model Float.Model.UnpackedFloat

theorem isNaN_eq (a : Float) : a.isNaN = a.toModel.unpack.isNaN := rfl

theorem isFinite_eq (a : Float) : a.isFinite = a.toModel.unpack.isFinite := rfl

theorem lt_iff (a b : Float) :
    a < b ↔ a.toModel.unpack.compare b.toModel.unpack = some .lt := by
  show (decide ((a.toModel.unpack.lt b.toModel.unpack) = true)) = true ↔ _
  rw [decide_eq_true_iff, UnpackedFloat.lt, beq_iff_eq]

theorem le_iff (a b : Float) :
    a ≤ b ↔ (a.toModel.unpack.compare b.toModel.unpack).any (·.isLE) = true := by
  show (decide ((a.toModel.unpack.le b.toModel.unpack) = true)) = true ↔ _
  rw [decide_eq_true_iff, UnpackedFloat.le]

theorem sign_compare_swap (s t : Sign) : (compare s t).swap = compare t s := by
  cases s <;> cases t <;> rfl

theorem compare_swap (a b : UnpackedFloat) :
    b.compare a = (a.compare b).map Ordering.swap := by
  cases a with
  | notANumber => cases b <;> simp [UnpackedFloat.compare]
  | infinity s =>
    cases b <;> cases s <;> simp [UnpackedFloat.compare, sign_compare_swap]
  | zero s =>
    cases b with
    | notANumber => simp [UnpackedFloat.compare]
    | infinity t => cases t <;> simp [UnpackedFloat.compare]
    | zero t => simp [UnpackedFloat.compare]
    | finite t => cases t <;> simp [UnpackedFloat.compare]
  | finite s m e pos =>
    cases b with
    | notANumber => simp [UnpackedFloat.compare]
    | infinity t => cases t <;> cases s <;> simp [UnpackedFloat.compare]
    | zero t => cases s <;> simp [UnpackedFloat.compare]
    | finite t m' e' pos' =>
      cases s <;> cases t <;>
        simp [UnpackedFloat.compare, Ordering.swap_then, Int.compare_swap, Nat.compare_swap]

theorem compare_eq_none_iff (a b : UnpackedFloat) :
    a.compare b = none ↔ a.isNaN = true ∨ b.isNaN = true := by
  cases a with
  | notANumber => simp [UnpackedFloat.compare, UnpackedFloat.isNaN]
  | infinity s =>
    cases b <;> cases s <;> simp [UnpackedFloat.compare, UnpackedFloat.isNaN]
  | zero s =>
    cases b with
    | infinity t => cases t <;> simp [UnpackedFloat.compare, UnpackedFloat.isNaN]
    | finite t => cases t <;> simp [UnpackedFloat.compare, UnpackedFloat.isNaN]
    | notANumber => simp [UnpackedFloat.compare, UnpackedFloat.isNaN]
    | zero t => simp [UnpackedFloat.compare, UnpackedFloat.isNaN]
  | finite s m e pos =>
    cases b with
    | infinity t => cases t <;> cases s <;> simp [UnpackedFloat.compare, UnpackedFloat.isNaN]
    | finite t => cases t <;> cases s <;> simp [UnpackedFloat.compare, UnpackedFloat.isNaN]
    | notANumber => simp [UnpackedFloat.compare, UnpackedFloat.isNaN]
    | zero t => cases s <;> simp [UnpackedFloat.compare, UnpackedFloat.isNaN]

theorem unpack_isNaN (spec : Format) (b : BitVec spec.numBits) :
    (UnpackedFloat.unpack spec b).isNaN = true ↔
      unpackExponent b = (-1#_) ∧ unpackMantissa b ≠ 0#_ := by
  unfold UnpackedFloat.unpack
  dsimp only
  split
  next special =>
    split
    next zero => simp [UnpackedFloat.isNaN, zero]
    next payload => simp [UnpackedFloat.isNaN, special, payload]
  next ordinary =>
    split
    · split <;> simp [UnpackedFloat.isNaN, ordinary]
    · simp [UnpackedFloat.isNaN, ordinary]

/-- Repacking a number that is not a NaN never produces one. -/
theorem unpack_pack_isNaN (f : UnpackedFloat) :
    (Float.Model.pack f).unpack.isNaN = f.isNaN := by
  rw [Bool.eq_iff_iff]
  show (UnpackedFloat.unpack .binary64 (UnpackedFloat.pack .binary64 f)).isNaN = true ↔ _
  rw [unpack_isNaN]
  fun_cases UnpackedFloat.pack Format.binary64 f with
  | case1 =>
    simp only [packedNaN, unpackExponent_packComponents, unpackMantissa_packComponents,
      UnpackedFloat.isNaN, iff_true]
    decide
  | case2 s => simp [packedInfinity, UnpackedFloat.isNaN]
  | case3 s => simp [packedZero, UnpackedFloat.isNaN]
  | case4 s m e pos biased overflow => simp [packedInfinity, UnpackedFloat.isNaN]
  | case5 s m e pos bits biased fits normal =>
    have small : biased < 2047 := by
      have width : 2 ^ Format.binary64.exponentBits = 2048 := by decide
      omega
    have exponent : BitVec.ofNat Format.binary64.exponentBits biased ≠ -1#_ := by
      intro special
      have value := congrArg BitVec.toNat special
      have ones : (-BitVec.ofNat Format.binary64.exponentBits 1).toNat = 2047 := by decide
      rw [ones, BitVec.toNat_ofNat] at value
      have width : 2 ^ Format.binary64.exponentBits = 2048 := by decide
      rw [width] at value
      omega
    simp only [unpackExponent_packComponents, UnpackedFloat.isNaN, exponent, false_and,
      Bool.false_eq_true]
  | case6 s m e pos bits biased fits subnormal =>
    have exponent : (BitVec.ofNat Format.binary64.exponentBits 0) ≠ -1#_ := by decide
    simp only [unpackExponent_packComponents, UnpackedFloat.isNaN, exponent, false_and,
      Bool.false_eq_true]

/-! ## The order -/

theorem lt_irrefl_of_isNaN {a b : Float} (nan : a.isNaN = true ∨ b.isNaN = true) : ¬a < b := by
  rw [lt_iff, (compare_eq_none_iff _ _).mpr nan]
  intro impossible
  cases impossible

theorem not_le_of_isNaN {a b : Float} (nan : a.isNaN = true ∨ b.isNaN = true) : ¬a ≤ b := by
  rw [le_iff, (compare_eq_none_iff _ _).mpr nan]
  intro impossible
  cases impossible

/-- Two numbers that are not NaN are ordered one way or the other. -/
theorem le_of_not_lt {a b : Float} (real_a : a.isNaN = false) (real_b : b.isNaN = false)
    (not_lt : ¬b < a) : a ≤ b := by
  rw [le_iff]
  rw [lt_iff, compare_swap] at not_lt
  cases order : a.toModel.unpack.compare b.toModel.unpack with
  | none =>
    rcases (compare_eq_none_iff _ _).mp order with nan | nan
    · rw [← isNaN_eq, real_a] at nan
      cases nan
    · rw [← isNaN_eq, real_b] at nan
      cases nan
  | some o =>
    rw [order] at not_lt
    cases o with
    | lt => rfl
    | eq => rfl
    | gt => exact absurd rfl not_lt

theorem not_isNaN_of_isFinite {a : Float} (finite : a.isFinite = true) : a.isNaN = false := by
  rw [isFinite_eq] at finite
  rw [isNaN_eq]
  cases shape : a.toModel.unpack with
  | notANumber =>
    rw [shape] at finite
    cases finite
  | infinity s => rfl
  | zero s => rfl
  | finite s m e pos => rfl

theorem compare_infinity {u : UnpackedFloat} (finite : u.isFinite = true) :
    u.compare (.infinity .positive) = some .lt ∧ u.compare (.infinity .negative) = some .gt := by
  cases u with
  | notANumber => cases finite
  | infinity s => cases finite
  | zero s => exact ⟨rfl, rfl⟩
  | finite s m e pos => cases s <;> exact ⟨rfl, rfl⟩

/-- A limit that one finite number meets and another does not is finite itself. -/
theorem isFinite_of_between {low high limit : Float} (finite_low : low.isFinite = true)
    (finite_high : high.isFinite = true) (meets : low ≤ limit) (exceeds : ¬high ≤ limit) :
    limit.isFinite = true := by
  rw [isFinite_eq] at finite_low finite_high ⊢
  rw [le_iff] at meets exceeds
  cases shape : limit.toModel.unpack with
  | zero s => rfl
  | finite s m e pos => rfl
  | notANumber =>
    rw [shape, (compare_eq_none_iff _ _).mpr (Or.inr rfl)] at meets
    cases meets
  | infinity s =>
    cases s with
    | negative =>
      rw [shape, (compare_infinity finite_low).2] at meets
      cases meets
    | positive =>
      rw [shape, (compare_infinity finite_high).1] at exceeds
      exact absurd rfl exceeds

/-! ## Arithmetic -/

theorem roundWithAccuracy_isNaN (spec : Format) (s : Sign) (m : Nat) (e : Int)
    (accuracy : Accuracy) : (roundWithAccuracy spec s m e accuracy).isNaN = false := by
  unfold roundWithAccuracy
  dsimp only
  split <;> rfl

theorem normalize_isNaN (spec : Format) (m e : Int) (s : Sign) :
    (UnpackedFloat.normalize spec m e s).isNaN = false := by
  unfold UnpackedFloat.normalize
  split
  · exact roundWithAccuracy_isNaN ..
  · rfl
  · exact roundWithAccuracy_isNaN ..

/-- Subtracting from a finite number makes no NaN of its own. -/
theorem sub_isNaN_of_finite {a b : Float} (finite : a.isFinite = true) :
    (a - b).isNaN = b.isNaN := by
  show (Float.Model.pack (UnpackedFloat.sub _ a.toModel.unpack b.toModel.unpack)).unpack.isNaN = _
  rw [unpack_pack_isNaN, isNaN_eq]
  rw [isFinite_eq] at finite
  cases shape_a : a.toModel.unpack with
  | notANumber =>
    rw [shape_a] at finite
    cases finite
  | infinity s =>
    rw [shape_a] at finite
    cases finite
  | zero s =>
    cases b.toModel.unpack with
    | zero t =>
      unfold UnpackedFloat.sub
      dsimp only
      split <;> rfl
    | _ => rfl
  | finite s m e pos =>
    cases b.toModel.unpack with
    | finite => exact normalize_isNaN ..
    | _ => rfl

/-- Multiplying by a finite nonzero number makes no NaN of its own. -/
theorem mul_isNaN_of_finite {a b : Float} (finite : a.isFinite = true) (positive : ¬a ≤ 0) :
    (a * b).isNaN = b.isNaN := by
  show (Float.Model.pack (UnpackedFloat.mul _ a.toModel.unpack b.toModel.unpack)).unpack.isNaN = _
  rw [unpack_pack_isNaN, isNaN_eq]
  rw [isFinite_eq] at finite
  rw [le_iff] at positive
  cases shape_a : a.toModel.unpack with
  | notANumber =>
    rw [shape_a] at finite
    cases finite
  | infinity s =>
    rw [shape_a] at finite
    cases finite
  | zero s =>
    rw [shape_a] at positive
    exact absurd (by cases s <;> decide +kernel) positive
  | finite s m e pos =>
    cases b.toModel.unpack with
    | finite => exact roundWithAccuracy_isNaN ..
    | _ => rfl

end OpenOntology.Library.Binary64
