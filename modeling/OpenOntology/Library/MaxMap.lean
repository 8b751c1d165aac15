import Mathlib.Order.WithBot
import Std.Data.ExtTreeMap
import OpenOntology.Library.JoinReplication

/-!
# Finite maps into a linear order, joined pointwise

A finite map with values in a linear order is a function into the order with a
bottom added. Folding the entries of one map into another by maximum computes the
pointwise join, and the flag such a loop keeps says whether anything was new.
-/
namespace OpenOntology.Library
open Std (ExtTreeMap TransCmp LawfulEqCmp)

set_option linter.unusedSectionVars false

variable {κ ν : Type*} [DecidableEq κ] {cmp : κ → κ → Ordering} [TransCmp cmp]
  [LawfulEqCmp cmp] [LinearOrder ν]

/-- The value at a key; an absent key counts as the bottom. -/
def valueAt (m : ExtTreeMap κ ν cmp) (k : κ) : WithBot ν :=
  match m[k]? with
  | some v => (v : WithBot ν)
  | none => ⊥

theorem valueAt_le_iff (m : ExtTreeMap κ ν cmp) (k : κ) (b : WithBot ν) :
    valueAt m k ≤ b ↔ ∀ v, m[k]? = some v → (v : WithBot ν) ≤ b := by
  unfold valueAt
  cases m[k]? with
  | none => simp
  | some v => simp

theorem valueAt_eq_coe_iff (m : ExtTreeMap κ ν cmp) (k : κ) (v : ν) :
    valueAt m k = (v : WithBot ν) ↔ m[k]? = some v := by
  unfold valueAt
  cases m[k]? with
  | none => simp
  | some w => simp

theorem valueAt_eq_bot_iff (m : ExtTreeMap κ ν cmp) (k : κ) :
    valueAt m k = ⊥ ↔ m[k]? = none := by
  unfold valueAt
  cases m[k]? with
  | none => simp
  | some w => simp

theorem exists_ge_of_le_valueAt (m : ExtTreeMap κ ν cmp) (k : κ) (v : ν)
    (below : (v : WithBot ν) ≤ valueAt m k) : ∃ w, m[k]? = some w ∧ v ≤ w := by
  unfold valueAt at below
  cases found : m[k]? with
  | none => simp [found] at below
  | some w =>
    rw [found] at below
    exact ⟨w, rfl, WithBot.coe_le_coe.mp below⟩

theorem valueAt_insert (m : ExtTreeMap κ ν cmp) (k j : κ) (v : ν) :
    valueAt (m.insert k v) j = if k = j then (v : WithBot ν) else valueAt m j := by
  unfold valueAt
  rw [ExtTreeMap.getElem?_insert]
  by_cases same : k = j
  · simp [same]
  · simp [same, LawfulEqCmp.compare_eq_iff_eq]

/-- Two maps with the same values are the same map. -/
theorem ext_valueAt (m n : ExtTreeMap κ ν cmp) (same : ∀ k, valueAt m k = valueAt n k) : m = n := by
  apply ExtTreeMap.ext_getElem?
  intro k
  cases found : n[k]? with
  | none => exact (valueAt_eq_bot_iff m k).mp ((same k).trans ((valueAt_eq_bot_iff n k).mpr found))
  | some v =>
    exact (valueAt_eq_coe_iff m k v).mp ((same k).trans ((valueAt_eq_coe_iff n k v).mpr found))

/-- One entry folded in: inserted when the key is new or the value greater. -/
def raiseEntry (acc : ExtTreeMap κ ν cmp × Bool) (k : κ) (v : ν) : ExtTreeMap κ ν cmp × Bool :=
  match acc.1[k]? with
  | none => (acc.1.insert k v, true)
  | some existing => if existing < v then (acc.1.insert k v, true) else acc

theorem raiseEntry_of_le (acc : ExtTreeMap κ ν cmp × Bool) (k : κ) (v : ν)
    (below : (v : WithBot ν) ≤ valueAt acc.1 k) : raiseEntry acc k v = acc := by
  unfold raiseEntry
  unfold valueAt at below
  cases found : acc.1[k]? with
  | none => simp [found] at below
  | some existing =>
    rw [found] at below
    have settled : v ≤ existing := WithBot.coe_le_coe.mp below
    simp [not_lt.mpr settled]

theorem raiseEntry_of_gt (acc : ExtTreeMap κ ν cmp × Bool) (k : κ) (v : ν)
    (above : valueAt acc.1 k < (v : WithBot ν)) :
    raiseEntry acc k v = (acc.1.insert k v, true) := by
  unfold raiseEntry
  unfold valueAt at above
  cases found : acc.1[k]? with
  | none => rfl
  | some existing =>
    rw [found] at above
    simp [WithBot.coe_lt_coe.mp above]

theorem valueAt_raiseEntry (acc : ExtTreeMap κ ν cmp × Bool) (k j : κ) (v : ν) :
    valueAt (raiseEntry acc k v).1 j =
      if k = j then valueAt acc.1 j ⊔ (v : WithBot ν) else valueAt acc.1 j := by
  rcases le_or_gt (v : WithBot ν) (valueAt acc.1 k) with below | above
  · rw [raiseEntry_of_le acc k v below]
    split
    next same =>
      subst same
      exact (sup_eq_left.mpr below).symm
    next => rfl
  · rw [raiseEntry_of_gt acc k v above, valueAt_insert]
    split
    next same =>
      subst same
      exact (sup_eq_right.mpr above.le).symm
    next => rfl

theorem valueAt_foldl_raiseEntry_le_iff (l : List (κ × ν)) (acc : ExtTreeMap κ ν cmp × Bool)
    (j : κ) (b : WithBot ν) :
    valueAt (l.foldl (fun acc e => raiseEntry acc e.1 e.2) acc).1 j ≤ b ↔
      valueAt acc.1 j ≤ b ∧ ∀ v, (j, v) ∈ l → (v : WithBot ν) ≤ b := by
  induction l generalizing acc with
  | nil => simp
  | cons e rest ih =>
    obtain ⟨k, v⟩ := e
    rw [List.foldl_cons, ih, valueAt_raiseEntry]
    simp only [List.mem_cons, Prod.mk.injEq]
    by_cases same : k = j
    · subst same
      rw [if_pos rfl, sup_le_iff]
      constructor
      · rintro ⟨⟨old, new⟩, others⟩
        refine ⟨old, ?_⟩
        rintro w (⟨-, rfl⟩ | member)
        · exact new
        · exact others w member
      · rintro ⟨old, all⟩
        exact ⟨⟨old, all v (Or.inl ⟨rfl, rfl⟩)⟩, fun w member => all w (Or.inr member)⟩
    · rw [if_neg same]
      constructor
      · rintro ⟨old, others⟩
        refine ⟨old, ?_⟩
        rintro w (⟨clash, -⟩ | member)
        · exact absurd clash.symm same
        · exact others w member
      · rintro ⟨old, all⟩
        exact ⟨old, fun w member => all w (Or.inr member)⟩

/-- The flag stays down exactly when no entry had anything to raise. -/
theorem foldl_raiseEntry_flag (l : List (κ × ν)) (acc : ExtTreeMap κ ν cmp × Bool) :
    (l.foldl (fun acc e => raiseEntry acc e.1 e.2) acc).2 = false ↔
      acc.2 = false ∧ ∀ e ∈ l, (e.2 : WithBot ν) ≤ valueAt acc.1 e.1 := by
  induction l generalizing acc with
  | nil => simp
  | cons e rest ih =>
    rw [List.foldl_cons, ih, List.forall_mem_cons]
    rcases le_or_gt (e.2 : WithBot ν) (valueAt acc.1 e.1) with below | above
    · rw [raiseEntry_of_le acc e.1 e.2 below]
      simp only [below, true_and]
    · rw [raiseEntry_of_gt acc e.1 e.2 above]
      simp only [not_le.mpr above, Bool.true_eq_false, false_and, and_false]

/-- Fold every entry of `src` into `dst` and report whether `dst` changed. -/
def joinInto (dst src : ExtTreeMap κ ν cmp) : ExtTreeMap κ ν cmp × Bool :=
  src.foldl raiseEntry (dst, false)

theorem joinInto_eq_foldl (dst src : ExtTreeMap κ ν cmp) :
    joinInto dst src = src.toList.foldl (fun acc e => raiseEntry acc e.1 e.2) (dst, false) :=
  ExtTreeMap.foldl_eq_foldl_toList

/-- The loop computes the pointwise join. -/
@[simp] theorem valueAt_joinInto (dst src : ExtTreeMap κ ν cmp) (j : κ) :
    valueAt (joinInto dst src).1 j = valueAt dst j ⊔ valueAt src j := by
  apply eq_of_forall_ge_iff
  intro b
  rw [joinInto_eq_foldl, valueAt_foldl_raiseEntry_le_iff, sup_le_iff, valueAt_le_iff src]
  simp only [ExtTreeMap.mem_toList_iff_getElem?_eq_some]

theorem joinInto_flag (dst src : ExtTreeMap κ ν cmp) :
    (joinInto dst src).2 = false ↔ ∀ j, valueAt src j ≤ valueAt dst j := by
  rw [joinInto_eq_foldl, foldl_raiseEntry_flag]
  simp only [true_and, Prod.forall, ExtTreeMap.mem_toList_iff_getElem?_eq_some]
  simp only [valueAt_le_iff src]

/-- An unreported join left its destination as it was. -/
theorem joinInto_of_le (dst src : ExtTreeMap κ ν cmp)
    (below : ∀ j, valueAt src j ≤ valueAt dst j) : joinInto dst src = (dst, false) := by
  have same : (joinInto dst src).1 = dst := by
    apply ext_valueAt
    intro j
    rw [valueAt_joinInto]
    exact sup_eq_left.mpr (below j)
  exact Prod.ext same ((joinInto_flag dst src).mpr below)

/-- A fold of joins over the entries of a map, read through its bounds. -/
theorem foldl_entries_sup_le_iff {L : Type*} [SemilatticeSup L] (f : κ → ν → L)
    (m : ExtTreeMap κ ν cmp) (a b : L) :
    m.foldl (fun acc k v => acc ⊔ f k v) a ≤ b ↔
      a ≤ b ∧ ∀ k v, m[k]? = some v → f k v ≤ b := by
  rw [ExtTreeMap.foldl_eq_foldl_toList, foldl_sup_le_iff (fun e : κ × ν => f e.1 e.2)]
  simp only [Prod.forall, ExtTreeMap.mem_toList_iff_getElem?_eq_some]

theorem foldl_entries_sup_attained {L : Type*} [LinearOrder L] (f : κ → ν → L)
    (m : ExtTreeMap κ ν cmp) (a : L) :
    m.foldl (fun acc k v => acc ⊔ f k v) a = a ∨
      ∃ k v, m[k]? = some v ∧ m.foldl (fun acc k v => acc ⊔ f k v) a = f k v := by
  rw [ExtTreeMap.foldl_eq_foldl_toList]
  rcases foldl_sup_attained (fun e : κ × ν => f e.1 e.2) m.toList a with start | ⟨e, member, at_e⟩
  · exact Or.inl start
  · exact Or.inr ⟨e.1, e.2, ExtTreeMap.mem_toList_iff_getElem?_eq_some.mp member, at_e⟩

end OpenOntology.Library
