import OpenOntology.Library.Binary64

/-!
# Sorting by binary64 numbers

The numbers that are not NaN compare as the keys of a linear order do, and a list whose
comparator agrees with such keys on its own elements is left sorted by them.
-/
namespace OpenOntology.Library.Binary64
open Float.Model Float.Model.UnpackedFloat

/-- The kind of the number, then its exponent, then its mantissa. -/
abbrev Key : Type := ℤ ×ₗ ℤ ×ₗ ℤ

def unpackedKey : UnpackedFloat → Key
  | .notANumber => toLex (-3, toLex (0, 0))
  | .infinity .negative => toLex (-2, toLex (0, 0))
  | .finite .negative m e _ => toLex (-1, toLex (-e, -m))
  | .zero _ => toLex (0, toLex (0, 0))
  | .finite .positive m e _ => toLex (1, toLex (e, m))
  | .infinity .positive => toLex (2, toLex (0, 0))

def key (x : Float) : Key := unpackedKey x.toModel.unpack

theorem sign_compare (s t : Sign) : compare s t =
    match s, t with
    | .negative, .positive => .lt
    | .positive, .negative => .gt
    | _, _ => .eq := by
  cases s <;> cases t <;> rfl

theorem compare_lt_iff {a b : UnpackedFloat} (real_a : a.isNaN = false) (real_b : b.isNaN = false) :
    a.compare b = some .lt ↔ unpackedKey a < unpackedKey b := by
  cases a with
  | notANumber => cases real_a
  | infinity s =>
    cases b with
    | notANumber => cases real_b
    | infinity t =>
      cases s <;> cases t <;>
        simp [UnpackedFloat.compare, unpackedKey, Prod.Lex.toLex_lt_toLex, sign_compare]
    | zero t => cases s <;> simp [UnpackedFloat.compare, unpackedKey, Prod.Lex.toLex_lt_toLex]
    | finite t =>
      cases s <;> cases t <;> simp [UnpackedFloat.compare, unpackedKey, Prod.Lex.toLex_lt_toLex]
  | zero s =>
    cases b with
    | notANumber => cases real_b
    | zero t => simp [UnpackedFloat.compare, unpackedKey]
    | infinity t | finite t =>
      cases t <;> simp [UnpackedFloat.compare, unpackedKey, Prod.Lex.toLex_lt_toLex]
  | finite s m e =>
    cases b with
    | notANumber => cases real_b
    | infinity t | zero t =>
      cases s <;> cases t <;> simp [UnpackedFloat.compare, unpackedKey, Prod.Lex.toLex_lt_toLex]
    | finite t m' e' =>
      cases s <;> cases t <;>
        simp [UnpackedFloat.compare, unpackedKey, Prod.Lex.toLex_lt_toLex, Ordering.then_eq_lt,
          Ordering.then_eq_gt, Int.compare_eq_lt, Int.compare_eq_gt, Nat.compare_eq_lt,
          Nat.compare_eq_gt]

theorem lt_iff_key {a b : Float} (real_a : a.isNaN = false) (real_b : b.isNaN = false) :
    a < b ↔ key a < key b := by
  rw [lt_iff]
  exact compare_lt_iff real_a real_b

theorem not_lt_self (a : Float) : ¬a < a := by
  by_cases nan : a.isNaN = true
  · exact lt_irrefl_of_isNaN (Or.inl nan)
  · have real := Bool.eq_false_iff.mpr nan
    rw [lt_iff_key real real]
    exact lt_irrefl _

theorem beq_iff (a b : Float) :
    (a == b) = true ↔ a.toModel.unpack.compare b.toModel.unpack = some .eq := by
  change a.toModel.unpack.beq b.toModel.unpack = true ↔ _
  rw [UnpackedFloat.beq, beq_iff_eq]

theorem beq_iff_key {a b : Float} (real_a : a.isNaN = false) (real_b : b.isNaN = false) :
    (a == b) = true ↔ key a = key b := by
  have below := lt_iff_key real_a real_b
  have above := lt_iff_key real_b real_a
  rw [lt_iff] at below above
  rw [compare_swap] at above
  rw [beq_iff]
  cases order : a.toModel.unpack.compare b.toModel.unpack with
  | none =>
    rcases (compare_eq_none_iff _ _).mp order with nan | nan
    · rw [← isNaN_eq, real_a] at nan
      cases nan
    · rw [← isNaN_eq, real_b] at nan
      cases nan
  | some ordering =>
    rw [order] at below above
    cases ordering with
    | lt => simpa using (below.mp rfl).ne
    | gt => simpa using (above.mp rfl).ne'
    | eq =>
      simp only [Option.map_some, Ordering.swap_eq, Option.some.injEq, reduceCtorEq,
        false_iff, not_lt] at below above
      simpa using le_antisymm above below

end OpenOntology.Library.Binary64

namespace OpenOntology.Library

/-- A comparator that compares keys of a linear order, on the elements it sorts. -/
theorem pairwise_mergeSort_key {α κ : Type*} [LinearOrder κ] {le : α → α → Bool} (key : α → κ)
    {l : List α} (agrees : ∀ a ∈ l, ∀ b ∈ l, le a b = decide (key a ≤ key b)) :
    (l.mergeSort le).Pairwise fun a b => key a ≤ key b := by
  rw [← List.pairwise_map (R := fun x y : κ => x ≤ y), List.map_mergeSort (s := fun x y => decide (x ≤ y)) agrees]
  refine (List.pairwise_mergeSort ?_ ?_ (l.map key)).imp fun ordered => of_decide_eq_true ordered
  · intro a b c ab bc
    exact decide_eq_true ((of_decide_eq_true ab).trans (of_decide_eq_true bc))
  · intro a b
    rw [Bool.or_eq_true, decide_eq_true_iff, decide_eq_true_iff]
    exact le_total a b

end OpenOntology.Library
