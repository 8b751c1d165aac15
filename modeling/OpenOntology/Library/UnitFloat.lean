import OpenOntology.Library.Binary64

/-!
# Numbers that are at most one

Binary64 numbers in their unpacked form: rounding and packing keep a number at most one,
and so does subtracting what is not negative.
-/
namespace OpenOntology.Library.Binary64
open Float.Model Float.Model.UnpackedFloat

/-- A number, signed or zero, that is at most one. -/
def AtMostOne : UnpackedFloat → Prop
  | .finite .positive m e _ => (e ≤ -53 ∧ m < 2 ^ 53) ∨ (e = -52 ∧ m = 2 ^ 52)
  | .infinity .positive | .notANumber => False
  | _ => True

/-! ## Shifting a mantissa -/

theorem shiftRight_mantissa (em : ExtendedMantissa) (n : Nat) :
    (em >>> n).mantissa = em.mantissa / 2 ^ n := by
  change (n.repeat ExtendedMantissa.shiftRightOne em).mantissa = _
  induction n with
  | zero => simp [Nat.repeat]
  | succ n ih =>
    rw [Nat.repeat, ExtendedMantissa.shiftRightOne, ih, Nat.div_div_eq_div_mul, Nat.pow_succ]

theorem roundedMantissa_le (em : ExtendedMantissa) : em.roundedMantissa ≤ em.mantissa + 1 := by
  obtain ⟨m, r, s⟩ := em
  cases r <;> cases s <;>
    simp only [ExtendedMantissa.roundedMantissa, ExtendedMantissa.accuracy,
      Accuracy.roundToNearestEven] <;> omega

theorem targetExponent_eq (total : Int) :
    Format.binary64.targetExponent total = max (total - 53) (-1074) := by
  simp [Format.targetExponent, Format.mantissaBits, Format.minExponent]

theorem shiftToTarget_spec (m : Nat) (e : Int) (accuracy : Accuracy) :
    (shiftToTargetExponent .binary64 m e accuracy).1.mantissa =
        m / 2 ^ (max (totalExponent m e - 53) (-1074) - e).toNat ∧
      (shiftToTargetExponent .binary64 m e accuracy).2 =
        e + (max (totalExponent m e - 53) (-1074) - e).toNat := by
  have initial : (ExtendedMantissa.ofMantissaAndAccuracy m accuracy).mantissa = m := by
    cases accuracy with
    | exact => rfl
    | inexact half => cases half <;> rfl
  unfold shiftToTargetExponent shiftToExponent
  rw [targetExponent_eq]
  refine ⟨?_, rfl⟩
  rw [shiftRight_mantissa, initial]

/-- A mantissa of 53 bits stays where it is. -/
theorem shiftToTarget_of_lt {m : Nat} {e : Int} (small : m < 2 ^ 53) (low : -1074 ≤ e) :
    shiftToTargetExponent .binary64 m e .exact = (⟨m, false, false⟩, e) := by
  have bits : m.log2 < 53 := by
    by_cases zero : m = 0
    · simp [zero]
    · exact (Nat.log2_lt zero).mpr small
  have still : (max (totalExponent m e - 53) (-1074) - e).toNat = 0 := by
    unfold totalExponent
    omega
  unfold shiftToTargetExponent shiftToExponent
  rw [targetExponent_eq]
  dsimp only
  rw [still]
  exact Prod.ext rfl (Int.add_zero e)

/-- The one mantissa of 54 bits that rounding produces is halved. -/
theorem shiftToTarget_overflow {e : Int} (low : -1074 ≤ e) :
    (shiftToTargetExponent .binary64 (2 ^ 53) e .exact).1.mantissa = 2 ^ 52 ∧
      (shiftToTargetExponent .binary64 (2 ^ 53) e .exact).2 = e + 1 := by
  have once : (max (totalExponent (2 ^ 53) e - 53) (-1074) - e).toNat = 1 := by
    unfold totalExponent
    rw [Nat.log2_two_pow]
    omega
  have exact := shiftToTarget_spec (2 ^ 53) e .exact
  rw [once] at exact
  exact ⟨exact.1.trans (by norm_num), exact.2⟩

/-! ## Rounding -/

/-- What lies below a power of two is rounded to it at most; here the power is one. -/
theorem roundWithAccuracy_atMostOne {m : Nat} {e : Int} (accuracy : Accuracy)
    (below : totalExponent m e ≤ 0) (fine : e ≤ max (totalExponent m e - 53) (-1074)) :
    AtMostOne (roundWithAccuracy .binary64 .positive m e accuracy) := by
  obtain ⟨mantissa, exponent⟩ := shiftToTarget_spec m e accuracy
  unfold roundWithAccuracy
  generalize shiftToTargetExponent .binary64 m e accuracy = first at mantissa exponent ⊢
  obtain ⟨em, e₁⟩ := first
  dsimp only at mantissa exponent ⊢
  have target : e₁ = max (totalExponent m e - 53) (-1074) := by omega
  have bits : m / 2 ^ (max (totalExponent m e - 53) (-1074) - e).toNat < 2 ^ 53 := by
    rw [Nat.div_lt_iff_lt_mul (Nat.two_pow_pos _), ← Nat.pow_add]
    refine Nat.lt_log2_self.trans_le (Nat.pow_le_pow_right (by decide) ?_)
    unfold totalExponent at *
    omega
  have rounded : em.roundedMantissa ≤ 2 ^ 53 := by
    have close := roundedMantissa_le em
    omega
  have low : -1074 ≤ e₁ := by omega
  have high : e₁ ≤ -53 := by omega
  clear mantissa exponent bits fine below target
  generalize em.roundedMantissa = r at rounded ⊢
  rcases Nat.lt_or_eq_of_le rounded with small | rfl
  · rw [shiftToTarget_of_lt small low]
    dsimp only
    split
    next => trivial
    next => exact Or.inl ⟨high, small⟩
  · obtain ⟨half, next⟩ := shiftToTarget_overflow low
    generalize shiftToTargetExponent .binary64 (2 ^ 53) e₁ .exact = second at half next ⊢
    obtain ⟨em₂, e₂⟩ := second
    dsimp only at half next ⊢
    split
    next => trivial
    next =>
      by_cases top : e₁ = -53
      · exact Or.inr ⟨by omega, half⟩
      · exact Or.inl ⟨by omega, by omega⟩

theorem totalExponent_shiftLeft {m : Nat} (positive : 0 < m) (e : Int) (k : Nat) :
    totalExponent (m <<< k) (e - k) = totalExponent m e := by
  have bits : (m <<< k).log2 = m.log2 + k := by
    induction k with
    | zero => simp
    | succ k ih =>
      have some_bit : m <<< k ≠ 0 := by
        rw [Nat.shiftLeft_eq]
        exact (Nat.mul_pos positive (Nat.two_pow_pos _)).ne'
      rw [Nat.shiftLeft_succ, Nat.log2_two_mul some_bit, ih]
      omega
  unfold totalExponent
  rw [bits]
  omega

theorem round_atMostOne {m : Nat} {e : Int} (positive : 0 < m) (below : totalExponent m e ≤ 0) :
    AtMostOne (UnpackedFloat.round .binary64 .positive m e) := by
  unfold UnpackedFloat.round decreaseExponent
  dsimp only
  rw [targetExponent_eq]
  have same := totalExponent_shiftLeft positive e (e - max (totalExponent m e - 53) (-1074)).toNat
  refine roundWithAccuracy_atMostOne .exact ?_ ?_
  · rw [same]
    exact below
  · rw [same]
    omega

theorem normalize_atMostOne {m : Int} {e : Int}
    (below : 0 < m → totalExponent m.toNat e ≤ 0) :
    AtMostOne (UnpackedFloat.normalize .binary64 m e .positive) := by
  unfold UnpackedFloat.normalize
  split
  next =>
    unfold UnpackedFloat.round roundWithAccuracy
    dsimp only
    split <;> trivial
  next => trivial
  next greater =>
    have positive : 0 < m := by
      rw [Int.compare_eq_gt] at greater
      exact greater
    exact round_atMostOne (by omega) (below positive)

/-! ## Packing -/

theorem ofBitVec_unpackSign (spec : Format) (s : Sign) (exponent : BitVec spec.exponentBits)
    (mantissa : BitVec spec.mantissaBitsWithoutImplicit) :
    Sign.ofBitVec (unpackSign (packComponents spec s exponent mantissa)) = s := by
  have bit : unpackSign (packComponents spec s exponent mantissa) = s.toBitVec := by
    ext i small
    obtain rfl : i = 0 := by omega
    simp [unpackSign, packComponents, BitVec.getLsbD_append, BitVec.getElem_append]
  rw [bit]
  cases s <;> rfl

/-- A number packed with an ordinary exponent is normal. -/
theorem unpack_packComponents_normal (s : Sign) {exponent : BitVec 11} (mantissa : BitVec 52)
    (ordinary : exponent ≠ -1#11) (normal : exponent ≠ 0#11) :
    ∃ pos, UnpackedFloat.unpack .binary64 (packComponents .binary64 s exponent mantissa) =
      .finite s (2 ^ 52 + mantissa.toNat) (exponent.toNat - 1075) pos := by
  have implicit : (1#1 ++ mantissa).toNat = 2 ^ 52 + mantissa.toNat := by
    rw [BitVec.toNat_append, ← Nat.shiftLeft_add_eq_or_of_lt mantissa.isLt]
    rfl
  unfold UnpackedFloat.unpack
  simp only [unpackMantissa_packComponents, unpackExponent_packComponents, ofBitVec_unpackSign]
  rw [if_neg ordinary, if_neg normal]
  refine ⟨by omega, ?_⟩
  rw [UnpackedFloat.finite.injEq]
  exact ⟨rfl, implicit, rfl⟩

/-- A number packed with an exponent that is not the special one. -/
theorem unpack_packComponents (s : Sign) {exponent : BitVec 11} (mantissa : BitVec 52)
    (ordinary : exponent ≠ -1#11) :
    UnpackedFloat.unpack .binary64 (packComponents .binary64 s exponent mantissa) = .zero s ∨
      (∃ pos, UnpackedFloat.unpack .binary64 (packComponents .binary64 s exponent mantissa) =
        .finite s mantissa.toNat (-1074) pos) ∨
      ∃ pos, UnpackedFloat.unpack .binary64 (packComponents .binary64 s exponent mantissa) =
        .finite s (2 ^ 52 + mantissa.toNat) (exponent.toNat - 1075) pos := by
  by_cases normal : exponent = 0#11
  · subst normal
    unfold UnpackedFloat.unpack
    simp only [unpackMantissa_packComponents, unpackExponent_packComponents, ofBitVec_unpackSign]
    rw [if_neg ordinary, if_pos trivial]
    split
    next => exact Or.inl rfl
    next some_bit =>
      exact Or.inr (Or.inl ⟨Nat.pos_of_ne_zero fun zero => some_bit (BitVec.eq_of_toNat_eq zero), rfl⟩)
  · exact Or.inr (Or.inr (unpack_packComponents_normal s mantissa ordinary normal))

theorem packComponents_atMostOne (s : Sign) (exponent : BitVec 11) (mantissa : BitVec 52)
    (low : s = .negative ∨ exponent.toNat ≤ 1022 ∨ exponent.toNat = 1023 ∧ mantissa = 0)
    (ordinary : exponent ≠ -1#11) :
    AtMostOne (UnpackedFloat.unpack .binary64 (packComponents .binary64 s exponent mantissa)) := by
  have small := mantissa.isLt
  rcases unpack_packComponents s mantissa ordinary with shape | ⟨pos, shape⟩ | ⟨pos, shape⟩ <;>
    rw [shape]
  · trivial
  · cases s with
    | negative => trivial
    | positive => exact Or.inl ⟨by decide, by omega⟩
  · cases s with
    | negative => trivial
    | positive =>
      rcases low with negative | low | ⟨top, zero⟩
      · cases negative
      · exact Or.inl ⟨by omega, by omega⟩
      · refine Or.inr ⟨by omega, ?_⟩
        rw [zero]
        rfl

theorem unpack_packedInfinity_negative :
    UnpackedFloat.unpack .binary64 (packedInfinity .binary64 .negative) = .infinity .negative := rfl

theorem unpack_pack_atMostOne {u : UnpackedFloat} (low : AtMostOne u) :
    AtMostOne (Float.Model.pack u).unpack := by
  change AtMostOne (UnpackedFloat.unpack .binary64 (UnpackedFloat.pack .binary64 u))
  have zero : (0 : BitVec 11) ≠ -1#11 := by decide
  have width : 2 ^ Format.binary64.exponentBits = 2048 := by decide
  have bias : Format.binary64.exponentBias = 1023 := by decide
  have fraction : Format.binary64.mantissaBitsWithoutImplicit = 52 := rfl
  fun_cases UnpackedFloat.pack Format.binary64 u with
  | case1 => cases low
  | case2 s =>
    cases s with
    | positive => cases low
    | negative =>
      rw [unpack_packedInfinity_negative]
      trivial
  | case3 s => exact packComponents_atMostOne _ _ _ (Or.inr (Or.inl (by decide))) zero
  | case4 s m e pos biased overflow =>
    cases s with
    | negative =>
      rw [unpack_packedInfinity_negative]
      trivial
    | positive =>
      have small : biased ≤ 1023 := by
        rcases low with low | low <;> omega
      rw [width] at overflow
      omega
  | case5 s m e pos bits biased fits normal =>
    rw [width] at fits
    have exponent : (BitVec.ofNat 11 biased).toNat = biased := by
      rw [BitVec.toNat_ofNat, Nat.mod_eq_of_lt (by omega)]
    refine packComponents_atMostOne s (BitVec.ofNat 11 biased) (BitVec.ofNat 52 m) ?_ ?_
    · rw [exponent]
      cases s with
      | negative => exact Or.inl rfl
      | positive =>
        rcases low with low | ⟨top, half⟩
        · exact Or.inr (Or.inl (by omega))
        · refine Or.inr (Or.inr ⟨by omega, ?_⟩)
          rw [half]
          rfl
    · intro special
      have value := congrArg BitVec.toNat special
      rw [exponent] at value
      have ones : (-1#11).toNat = 2047 := by decide
      omega
  | case6 s m e pos bits biased fits subnormal =>
    exact packComponents_atMostOne _ _ _ (Or.inr (Or.inl (by decide))) zero

/-! ## Arithmetic and order -/

/-- An unpacked number is normal, or has the least exponent. -/
theorem unpack_canonical {x : Float} {s : Sign} {m : Nat} {e : Int} {pos : 0 < m}
    (shape : x.toModel.unpack = .finite s m e pos) : m < 2 ^ 53 ∧ (e = -1074 ∨ 2 ^ 52 ≤ m) := by
  change UnpackedFloat.unpack .binary64 x.toModel.toBits.toBitVec = _ at shape
  generalize x.toModel.toBits.toBitVec = bits at shape
  have fraction : (@unpackMantissa .binary64 bits).toNat < 2 ^ 52 :=
    (@unpackMantissa .binary64 bits).isLt
  unfold UnpackedFloat.unpack at shape
  dsimp only at shape
  split at shape
  next => split at shape <;> cases shape
  next =>
    split at shape
    next subnormal =>
      split at shape
      next => cases shape
      next =>
        cases shape
        rw [subnormal]
        exact ⟨by omega, Or.inl (by decide)⟩
    next =>
      cases shape
      have implicit : (1#1 ++ @unpackMantissa .binary64 bits).toNat =
          2 ^ 52 + (@unpackMantissa .binary64 bits).toNat := by
        rw [BitVec.toNat_append, ← Nat.shiftLeft_add_eq_or_of_lt fraction]
        rfl
      exact ⟨by omega, Or.inr (by omega)⟩

theorem lt_asymm {a b : Float} (less : a < b) : ¬b < a := by
  rw [lt_iff] at less ⊢
  rw [compare_swap, less]
  nofun

/-- A number that does not exceed one. -/
theorem atMostOne_of_not_gt {x : Float} (real : x.isNaN = false) (low : ¬x > 1) :
    AtMostOne x.toModel.unpack := by
  have one : (1 : Float).toModel.unpack = .finite .positive (2 ^ 52) (-52) (by decide) := by
    rfl
  have low' : ¬(1 : Float) < x := low
  rw [lt_iff, one] at low'
  rw [isNaN_eq] at real
  cases shape : x.toModel.unpack with
  | notANumber =>
    rw [shape] at real
    cases real
  | infinity s =>
    cases s with
    | positive =>
      rw [shape] at low'
      exact absurd rfl low'
    | negative => trivial
  | zero s => trivial
  | finite s m e pos =>
    cases s with
    | negative => trivial
    | positive =>
      obtain ⟨small, canonical⟩ := unpack_canonical shape
      rw [shape] at low'
      simp only [UnpackedFloat.compare, Option.some.injEq] at low'
      rcases lt_trichotomy (-52 : Int) e with above | rfl | below
      · rw [Int.compare_eq_lt.mpr above] at low'
        exact absurd rfl low'
      · rw [Int.compare_eq_eq.mpr rfl] at low'
        have bound : ¬2 ^ 52 < m := fun less => low' (by
          rw [Nat.compare_eq_lt.mpr less]
          rfl)
        exact Or.inr ⟨rfl, by omega⟩
      · exact Or.inl ⟨by omega, small⟩

theorem totalExponent_mono {m n : Nat} (e : Int) (le : m ≤ n) :
    totalExponent m e ≤ totalExponent n e := by
  have bits : m.log2 ≤ n.log2 := by
    rw [Nat.log2_eq_log_two, Nat.log2_eq_log_two]
    exact Nat.log_mono_right le
  unfold totalExponent
  omega

/-- Subtracting what is not negative keeps a number below one. -/
theorem sub_atMostOne {a b : Float} {m : Nat} {e : Int} {pos : 0 < m}
    (shape : a.toModel.unpack = .finite .positive m e pos) (small : m < 2 ^ 53) (low : e ≤ -53)
    (real : b.isNaN = false) (nonneg : ¬b < 0) : AtMostOne (a - b).toModel.unpack := by
  change AtMostOne (Float.Model.pack
    (UnpackedFloat.sub .binary64 a.toModel.unpack b.toModel.unpack)).unpack
  refine unpack_pack_atMostOne ?_
  have zero : (0 : Float).toModel.unpack = .zero .positive := rfl
  rw [isNaN_eq] at real
  rw [lt_iff, zero] at nonneg
  rw [shape]
  cases other : b.toModel.unpack with
  | notANumber =>
    rw [other] at real
    cases real
  | infinity s =>
    cases s with
    | positive => trivial
    | negative =>
      rw [other] at nonneg
      exact absurd rfl nonneg
  | zero s => exact Or.inl ⟨low, small⟩
  | finite s m' e' pos' =>
    cases s with
    | negative =>
      rw [other] at nonneg
      exact absurd rfl nonneg
    | positive =>
      have below : totalExponent m e ≤ 0 := by
        have bits := (Nat.log2_lt pos.ne').mpr small
        unfold totalExponent
        omega
      refine normalize_atMostOne fun _ => ?_
      have same := totalExponent_shiftLeft pos e (e - min e e').toNat
      have aligned : e - ((e - min e e').toNat : Int) = min e e' := by omega
      rw [aligned] at same
      rw [← same] at below
      refine (totalExponent_mono _ ?_).trans below
      simp only [Sign.apply, Int.toNat_sub]
      exact Nat.sub_le _ _

/-! ## Decimals -/

/-- A mantissa of 53 bits is packed as it is. -/
theorem unpack_pack_normal (s : Sign) {m : Nat} {e : Int} (pos : 0 < m) (normal : 2 ^ 52 ≤ m)
    (small : m < 2 ^ 53) (low : -1074 ≤ e) (high : e ≤ 971) :
    (Float.Model.pack (.finite s m e pos)).unpack = .finite s m e pos := by
  have width : 2 ^ Format.binary64.exponentBits = 2048 := by decide
  have bias : Format.binary64.exponentBias = 1023 := by decide
  have fraction : Format.binary64.mantissaBitsWithoutImplicit = 52 := rfl
  have bits : m.log2 + 1 = Format.binary64.mantissaBits := by
    have upper := (Nat.log2_lt pos.ne').mpr small
    have lower := (Nat.le_log2 pos.ne').mpr normal
    have whole : Format.binary64.mantissaBits = 53 := rfl
    omega
  obtain ⟨biased, same⟩ : ∃ biased : Nat,
      (e + Format.binary64.exponentBias + Format.binary64.mantissaBitsWithoutImplicit).toNat =
        biased := ⟨_, rfl⟩
  have exponent : (BitVec.ofNat 11 biased).toNat = biased := by
    rw [BitVec.toNat_ofNat, Nat.mod_eq_of_lt (by omega)]
  have mantissa : (BitVec.ofNat 52 m).toNat = m - 2 ^ 52 := by
    rw [BitVec.toNat_ofNat]
    omega
  have ordinary : BitVec.ofNat 11 biased ≠ -1#11 := by
    intro special
    have value := congrArg BitVec.toNat special
    have ones : (-1#11).toNat = 2047 := by decide
    omega
  have positive : BitVec.ofNat 11 biased ≠ 0#11 := by
    intro zero
    have value := congrArg BitVec.toNat zero
    rw [exponent] at value
    change biased = 0 at value
    omega
  change UnpackedFloat.unpack .binary64 (UnpackedFloat.pack .binary64 _) = _
  unfold UnpackedFloat.pack
  dsimp only
  rw [same, if_neg (by omega), if_pos bits]
  obtain ⟨_, shape⟩ := unpack_packComponents_normal s (BitVec.ofNat 52 m) ordinary positive
  refine shape.trans ?_
  rw [UnpackedFloat.finite.injEq]
  exact ⟨rfl, by omega, by omega⟩

theorem shiftLeft_normal {n : Nat} (positive : 0 < n) (small : n < 2 ^ 53) :
    2 ^ 52 ≤ n <<< (52 - n.log2) ∧ n <<< (52 - n.log2) < 2 ^ 53 := by
  have bits : n.log2 < 53 := (Nat.log2_lt positive.ne').mpr small
  have lower : 2 ^ n.log2 ≤ n := Nat.log2_self_le positive.ne'
  have upper : n < 2 ^ (n.log2 + 1) := Nat.lt_log2_self
  rw [Nat.shiftLeft_eq]
  constructor
  · calc 2 ^ 52 = 2 ^ n.log2 * 2 ^ (52 - n.log2) := by rw [← Nat.pow_add]; congr 1; omega
      _ ≤ n * 2 ^ (52 - n.log2) := Nat.mul_le_mul_right _ lower
  · calc n * 2 ^ (52 - n.log2) < 2 ^ (n.log2 + 1) * 2 ^ (52 - n.log2) :=
          Nat.mul_lt_mul_of_pos_right upper (Nat.two_pow_pos _)
      _ = 2 ^ 53 := by rw [← Nat.pow_add]; congr 1; omega

theorem roundWithAccuracy_exact (s : Sign) {m : Nat} {e : Int} (pos : 0 < m) (small : m < 2 ^ 53)
    (low : -1074 ≤ e) : roundWithAccuracy .binary64 s m e .exact = .finite s m e pos := by
  unfold roundWithAccuracy
  rw [shiftToTarget_of_lt small low]
  dsimp only
  have rounded : ExtendedMantissa.roundedMantissa ⟨m, false, false⟩ = m := rfl
  rw [rounded, shiftToTarget_of_lt small low]
  exact dif_neg pos.ne'

/-- A natural number as a float: its bits, moved to the top of the mantissa. -/
theorem toFloat_unpack {n : Nat} (positive : 0 < n) (small : n < 2 ^ 53) :
    ∃ pos, n.toUInt64.toFloat.toModel.unpack =
      .finite .positive (n <<< (52 - n.log2)) (-(52 - n.log2 : Nat)) pos := by
  obtain ⟨normal, bounded⟩ := shiftLeft_normal positive small
  have bits : n.log2 < 53 := (Nat.log2_lt positive.ne').mpr small
  have exponent : (max (totalExponent n 0 - 53) (-1074) : Int) = -(52 - n.log2 : Nat) := by
    unfold totalExponent
    omega
  have pos : 0 < n <<< (52 - n.log2) := by omega
  have rounded : UnpackedFloat.round .binary64 .positive n 0 =
      .finite .positive (n <<< (52 - n.log2)) (-(52 - n.log2 : Nat)) pos := by
    unfold UnpackedFloat.round decreaseExponent
    dsimp only
    rw [targetExponent_eq, exponent]
    have moved : (0 - -((52 - n.log2 : Nat) : Int)).toNat = 52 - n.log2 := by omega
    have lowered : (0 - ((52 - n.log2 : Nat) : Int)) = -((52 - n.log2 : Nat) : Int) := by omega
    rw [moved, lowered]
    exact roundWithAccuracy_exact .positive pos bounded (by omega)
  have word : n.toUInt64.toNat = n := by
    change n % 2 ^ 64 = n
    omega
  refine ⟨pos, ?_⟩
  change (Float.Model.pack (UnpackedFloat.normalize .binary64 (n.toUInt64.toNat : Int) 0 .positive)).unpack = _
  rw [word]
  unfold UnpackedFloat.normalize
  rw [Int.compare_eq_gt.mpr (by omega)]
  dsimp only
  rw [Int.toNat_natCast, rounded]
  exact unpack_pack_normal .positive pos normal bounded (by omega) (by omega)

/-- Packing keeps the sign. -/
theorem unpack_pack_positive {m : Nat} {e : Int} (pos : 0 < m) :
    (Float.Model.pack (.finite .positive m e pos)).unpack = .infinity .positive ∨
      (Float.Model.pack (.finite .positive m e pos)).unpack = .zero .positive ∨
      ∃ m' e' pos', (Float.Model.pack (.finite .positive m e pos)).unpack =
        .finite .positive m' e' pos' := by
  have width : 2 ^ Format.binary64.exponentBits = 2048 := by decide
  have zero : (0 : BitVec 11) ≠ -1#11 := by decide
  have shapes : ∀ (exponent : BitVec 11) (mantissa : BitVec 52), exponent ≠ -1#11 →
      UnpackedFloat.unpack .binary64 (packComponents .binary64 .positive exponent mantissa) =
          .zero .positive ∨
        ∃ m' e' pos', UnpackedFloat.unpack .binary64
          (packComponents .binary64 .positive exponent mantissa) = .finite .positive m' e' pos' := by
    intro exponent mantissa ordinary
    rcases unpack_packComponents .positive mantissa ordinary with shape | ⟨_, shape⟩ | ⟨_, shape⟩
    · exact Or.inl shape
    · exact Or.inr ⟨_, _, _, shape⟩
    · exact Or.inr ⟨_, _, _, shape⟩
  change UnpackedFloat.unpack .binary64 (UnpackedFloat.pack .binary64 _) = _ ∨
    UnpackedFloat.unpack .binary64 (UnpackedFloat.pack .binary64 _) = _ ∨
      ∃ m' e' pos', UnpackedFloat.unpack .binary64 (UnpackedFloat.pack .binary64 _) = _
  unfold UnpackedFloat.pack
  dsimp only
  split
  next => exact Or.inl rfl
  next fits =>
    split
    next =>
      refine Or.inr (shapes _ _ fun special => ?_)
      have value := congrArg BitVec.toNat special
      have ones : (-1#11).toNat = 2047 := by decide
      rw [BitVec.toNat_ofNat, ones] at value
      rw [width] at fits value
      omega
    next => exact Or.inr (shapes _ _ zero)

/-- A number that is rounded from a positive one is not negative. -/
theorem not_neg_of_roundWithAccuracy {m : Nat} {e : Int} {accuracy : Accuracy} {x : Float}
    (made : x.toModel = Float.Model.pack (roundWithAccuracy .binary64 .positive m e accuracy)) :
    ¬x < 0 := by
  have zero : (0 : Float).toModel.unpack = .zero .positive := rfl
  rw [lt_iff, zero, made]
  unfold roundWithAccuracy
  dsimp only
  split
  next =>
    have kept : (Float.Model.pack (.zero .positive)).unpack = .zero .positive := rfl
    rw [kept]
    nofun
  next =>
    rcases unpack_pack_positive (Nat.pos_of_ne_zero ‹_›) with shape | shape | ⟨_, _, _, shape⟩ <;>
      rw [shape] <;> nofun

/-- The decimals of three digits up to one. -/
theorem ofScientific_unit {n : Nat} (most : n ≤ 1000) :
    AtMostOne (Float.ofScientific n true 3).toModel.unpack ∧ ¬Float.ofScientific n true 3 < 0 := by
  have quotient : (Float.ofScientific n true 3).toModel = Float.Model.pack
      (UnpackedFloat.div .binary64 n.toUInt64.toFloat.toModel.unpack
        (1000 : Float).toModel.unpack) := by
    unfold Float.ofScientific
    rw [dif_pos ⟨by omega, by omega⟩, if_pos rfl]
    rfl
  have thousand : (1000 : Float).toModel.unpack =
      .finite .positive (1000 * 2 ^ 43) (-43) (by decide) := rfl
  rcases Nat.eq_zero_or_pos n with rfl | positive
  · have zero : (Float.ofScientific 0 true 3).toModel.unpack = .zero .positive := rfl
    rw [zero]
    exact ⟨trivial, by decide +kernel⟩
  obtain ⟨normal, bounded⟩ := shiftLeft_normal positive (by omega)
  obtain ⟨pos, shape⟩ := toFloat_unpack positive (by omega)
  rcases Nat.lt_or_eq_of_le most with less | rfl
  · have bits : n.log2 < 10 := (Nat.log2_lt positive.ne').mpr (by omega)
    have total : totalExponent (n <<< (52 - n.log2)) (-(52 - n.log2 : Nat)) = n.log2 + 1 := by
      have same := totalExponent_shiftLeft positive 0 (52 - n.log2)
      rw [Int.zero_sub] at same
      rw [same]
      unfold totalExponent
      omega
    have total' : totalExponent (1000 * 2 ^ 43) (-43) = 10 := by decide +kernel
    rw [shape, thousand] at quotient
    unfold UnpackedFloat.div divCore at quotient
    dsimp only at quotient
    rw [total, total', targetExponent_eq] at quotient
    have target : min (-((52 - n.log2 : Nat) : Int) - -43) (max ((n.log2 : Int) + 1 - 10 - 53) (-1074)) =
        (n.log2 : Int) - 62 := by omega
    have moved : (-((52 - n.log2 : Nat) : Int) - -43 - ((n.log2 : Int) - 62)).toNat = 53 := by omega
    rw [target, moved] at quotient
    refine ⟨?_, not_neg_of_roundWithAccuracy quotient⟩
    rw [quotient]
    have upper : n <<< (52 - n.log2) < 1000 * 2 ^ (52 - n.log2) := by
      rw [Nat.shiftLeft_eq]
      exact Nat.mul_lt_mul_of_pos_right less (Nat.two_pow_pos _)
    have scaled : 2 ^ (52 - n.log2) * 2 ^ 10 = 2 ^ (62 - n.log2) := by
      rw [← Nat.pow_add]
      congr 1
      omega
    generalize n <<< (52 - n.log2) = top at normal upper
    have high : top <<< 53 / (1000 * 2 ^ 43) < 2 ^ (62 - n.log2) := by
      rw [Nat.div_lt_iff_lt_mul (by decide), Nat.shiftLeft_eq, ← scaled]
      omega
    have low : 2 ^ 52 ≤ top <<< 53 / (1000 * 2 ^ 43) := by
      rw [Nat.le_div_iff_mul_le (by decide), Nat.shiftLeft_eq]
      omega
    generalize top <<< 53 / (1000 * 2 ^ 43) = q at high low
    have some_bit : q ≠ 0 := by omega
    have upper_bit := (Nat.log2_lt some_bit).mpr high
    have lower_bit := (Nat.le_log2 some_bit).mpr low
    refine unpack_pack_atMostOne (roundWithAccuracy_atMostOne _ ?_ ?_)
    · unfold totalExponent
      omega
    · unfold totalExponent
      omega
  · have one : (Float.ofScientific 1000 true 3).toModel.unpack =
        .finite .positive (2 ^ 52) (-52) (by decide) := rfl
    rw [one]
    exact ⟨Or.inr ⟨rfl, rfl⟩, by decide +kernel⟩

/-- What is at most one does not exceed it. -/
theorem not_gt_of_atMostOne {x : Float} (low : AtMostOne x.toModel.unpack) : ¬x > 1 := by
  have one : (1 : Float).toModel.unpack = .finite .positive (2 ^ 52) (-52) (by decide) := rfl
  change ¬(1 : Float) < x
  rw [lt_iff, one]
  cases shape : x.toModel.unpack with
  | notANumber => exact fun above => by cases above
  | infinity s =>
    rw [shape] at low
    cases s with
    | positive => cases low
    | negative => exact fun above => by cases above
  | zero s => exact fun above => by cases above
  | finite s m e pos =>
    rw [shape] at low
    cases s with
    | negative => exact fun above => by cases above
    | positive =>
      simp only [UnpackedFloat.compare, Option.some.injEq]
      rcases low with ⟨below, -⟩ | ⟨rfl, rfl⟩
      · rw [Int.compare_eq_gt.mpr (by omega)]
        exact fun above => by cases above
      · exact fun above => by cases above

end OpenOntology.Library.Binary64
