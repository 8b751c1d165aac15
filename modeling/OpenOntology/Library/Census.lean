import Mathlib.Data.List.Basic
import Std.Data.ExtTreeMap

/-!
# Counting the entries of a map

How many entries of an ordered map satisfy a predicate, and what one insertion, one removal
or a sweep makes of that number.
-/
namespace OpenOntology.Library

variable {α β : Type*} [Ord α] [Std.TransOrd α] [Std.LawfulEqOrd α]

/-- How many entries satisfy the predicate. -/
def census (p : β → Bool) (m : Std.ExtTreeMap α β) : ℕ := (m.filter fun _ v => p v).size

/-- What the entry of one key contributes. -/
def Occupies (p : β → Bool) (entry : Option β) : ℕ := if entry.any p then 1 else 0

variable {p q : β → Bool} {m : Std.ExtTreeMap α β} {k : α} {v : β}

@[simp] theorem occupies_none : Occupies p none = 0 := rfl

@[simp] theorem occupies_some : Occupies p (some v) = if p v then 1 else 0 := by
  simp [Occupies]

theorem mem_census : k ∈ (m.filter fun _ v => p v) ↔ m[k]?.any p = true := by
  rw [Std.ExtTreeMap.mem_iff_isSome_getElem?, Std.ExtTreeMap.getElem?_filter']
  cases m[k]? <;> simp [Option.filter_some]

theorem filter_erase :
    ((m.erase k).filter fun _ v => p v) = (m.filter fun _ v => p v).erase k := by
  apply Std.ExtTreeMap.ext_getElem?
  intro i
  simp only [Std.ExtTreeMap.getElem?_filter', Std.ExtTreeMap.getElem?_erase]
  split <;> rfl

theorem filter_insert :
    ((m.insert k v).filter fun _ v => p v) =
      if p v then (m.filter fun _ v => p v).insert k v else (m.filter fun _ v => p v).erase k := by
  apply Std.ExtTreeMap.ext_getElem?
  intro i
  cases kept : p v with
  | true =>
    simp only [if_true, Std.ExtTreeMap.getElem?_filter', Std.ExtTreeMap.getElem?_insert]
    split
    next => rw [Option.filter_some, kept, if_pos rfl]
    next => rfl
  | false =>
    simp only [Bool.false_eq_true, if_false, Std.ExtTreeMap.getElem?_filter',
      Std.ExtTreeMap.getElem?_insert, Std.ExtTreeMap.getElem?_erase]
    split
    next => rw [Option.filter_some, kept, if_neg Bool.noConfusion]
    next => rfl

@[simp] theorem census_empty : census p (∅ : Std.ExtTreeMap α β) = 0 := by
  have none_left : ((∅ : Std.ExtTreeMap α β).filter fun _ v => p v) = ∅ := by
    apply Std.ExtTreeMap.ext_getElem?
    intro i
    simp
  unfold census
  rw [none_left, Std.ExtTreeMap.size_empty]

omit [Std.LawfulEqOrd α] in
theorem size_pos_of_mem (member : k ∈ m) : 0 < m.size := by
  refine Nat.pos_of_ne_zero fun empty => ?_
  rw [Std.ExtTreeMap.eq_empty_iff_size_eq_zero.mpr empty] at member
  exact Std.ExtTreeMap.not_mem_empty member

theorem census_erase : census p (m.erase k) + Occupies p m[k]? = census p m := by
  unfold census Occupies
  rw [filter_erase, Std.ExtTreeMap.size_erase]
  by_cases counted : m[k]?.any p = true
  · have member := mem_census.mpr counted
    have inhabited := size_pos_of_mem member
    rw [if_pos (Std.ExtTreeMap.contains_iff_mem.mpr member), if_pos counted]
    omega
  · rw [if_neg fun held => counted (mem_census.mp (Std.ExtTreeMap.contains_iff_mem.mp held)),
      if_neg counted]
    rfl

theorem census_insert :
    census p (m.insert k v) + Occupies p m[k]? = census p m + if p v then 1 else 0 := by
  have without := census_erase (p := p) (m := m) (k := k)
  unfold census at *
  rw [filter_erase] at without
  rw [filter_insert]
  cases kept : p v with
  | true =>
    rw [if_pos rfl, if_pos rfl, Std.ExtTreeMap.size_insert]
    rw [Std.ExtTreeMap.size_erase] at without
    split at without
    next member =>
      have inhabited := size_pos_of_mem (Std.ExtTreeMap.contains_iff_mem.mp member)
      rw [if_pos member]
      omega
    next absent =>
      rw [if_neg absent]
      omega
  | false =>
    rw [if_neg Bool.noConfusion, if_neg Bool.noConfusion]
    exact without

/-- A sweep that keeps what is counted leaves the count alone. -/
theorem census_filter (kept : ∀ v, p v = true → q v = true) :
    census p (m.filter fun _ v => q v) = census p m := by
  have same : ((m.filter fun _ v => q v).filter fun _ v => p v) = m.filter fun _ v => p v := by
    apply Std.ExtTreeMap.ext_getElem?
    intro i
    simp only [Std.ExtTreeMap.getElem?_filter']
    cases m[i]? with
    | none => rfl
    | some v =>
      simp only [Option.filter_some]
      cases counted : p v with
      | true => rw [if_pos (kept v counted), Option.filter_some, counted]
      | false =>
        split
        next => rw [Option.filter_some, counted]
        next => rfl
  unfold census
  rw [same]

omit [Std.LawfulEqOrd α] in
theorem census_eq_countP : census p m = m.toList.countP fun entry => p entry.2 := by
  unfold census
  rw [← Std.ExtTreeMap.length_toList, Std.ExtTreeMap.toList_filter, List.countP_eq_length_filter]

omit [Std.LawfulEqOrd α] in
/-- Every entry is counted on one side. -/
theorem census_add_not : census p m + census (fun v => !p v) m = m.size := by
  rw [census_eq_countP, census_eq_countP, ← Std.ExtTreeMap.length_toList]
  symm
  simpa using List.length_eq_countP_add_countP (fun entry : α × β => p entry.2) (l := m.toList)

end OpenOntology.Library
