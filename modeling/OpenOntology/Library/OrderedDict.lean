import Mathlib.Data.List.Nodup

/-!
# Dictionaries in order

Python's `OrderedDict`: distinct keys in the order of their last touch, oldest first.
-/
namespace OpenOntology.Library

structure OrderedDict (κ α : Type*) where
  entries : List (κ × α) := []
  distinct : (entries.map Prod.fst).Nodup := by simp

namespace OrderedDict

variable {κ α : Type*} [DecidableEq κ]

def find (d : OrderedDict κ α) (k : κ) : Option α :=
  (d.entries.find? fun entry => entry.1 = k).map Prod.snd

/-- `d[k] = v`, then `move_to_end`. -/
def toEnd (d : OrderedDict κ α) (k : κ) (v : α) : OrderedDict κ α where
  entries := (d.entries.filter fun entry => entry.1 ≠ k) ++ [(k, v)]
  distinct := by
    rw [List.map_append, List.nodup_append]
    refine ⟨d.distinct.sublist (List.filter_sublist.map Prod.fst), List.nodup_singleton k, ?_⟩
    intro j member j' last
    obtain ⟨entry, kept, rfl⟩ := List.mem_map.mp member
    rw [List.map_singleton, List.mem_singleton] at last
    subst last
    simpa using (List.mem_filter.mp kept).2

/-- The entries that `keep` asks for, in their order. -/
def filter (d : OrderedDict κ α) (keep : κ × α → Bool) : OrderedDict κ α where
  entries := d.entries.filter keep
  distinct := d.distinct.sublist (List.filter_sublist.map Prod.fst)

/-- `popitem(last=False)`, `n` times. -/
def popFirst (d : OrderedDict κ α) (n : Nat) : OrderedDict κ α where
  entries := d.entries.drop n
  distinct := d.distinct.sublist ((List.drop_sublist n d.entries).map Prod.fst)

theorem find_eq_some_iff (d : OrderedDict κ α) (k : κ) (v : α) :
    d.find k = some v ↔ (k, v) ∈ d.entries := by
  unfold find
  rw [Option.map_eq_some_iff]
  constructor
  · rintro ⟨entry, found, rfl⟩
    have same : entry.1 = k := by simpa using List.find?_some found
    subst same
    exact List.mem_of_find?_eq_some found
  · intro member
    cases found : d.entries.find? fun entry => entry.1 = k with
    | none => simpa using List.find?_eq_none.mp found (k, v) member
    | some entry =>
      have same : entry.1 = k := by simpa using List.find?_some found
      refine ⟨entry, rfl, ?_⟩
      have equal := List.inj_on_of_nodup_map d.distinct (List.mem_of_find?_eq_some found) member same
      rw [equal]

/-- A key the dictionary does not have is appended. -/
theorem entries_toEnd_of_fresh (d : OrderedDict κ α) {k : κ} (v : α)
    (fresh : k ∉ d.entries.map Prod.fst) : (d.toEnd k v).entries = d.entries ++ [(k, v)] := by
  show (d.entries.filter fun entry => entry.1 ≠ k) ++ [(k, v)] = _
  rw [List.filter_eq_self.mpr fun entry member => ?_]
  have other : entry.1 ≠ k := by
    intro same
    exact fresh (same ▸ List.mem_map_of_mem member)
  simpa using other

theorem find_toEnd_self (d : OrderedDict κ α) (k : κ) (v : α) : (d.toEnd k v).find k = some v := by
  rw [find_eq_some_iff]
  exact List.mem_append_right _ List.mem_cons_self

theorem find_toEnd_of_ne (d : OrderedDict κ α) {k j : κ} (v : α) (other : j ≠ k) :
    (d.toEnd k v).find j = d.find j := by
  refine Option.ext fun w => ?_
  rw [find_eq_some_iff, find_eq_some_iff]
  simp [toEnd, other]

theorem find_of_popFirst {d : OrderedDict κ α} {n : Nat} {k : κ} {v : α}
    (found : (d.popFirst n).find k = some v) : d.find k = some v := by
  rw [find_eq_some_iff] at found ⊢
  exact List.mem_of_mem_drop found

/-- The last touched entry outlives any eviction that leaves one entry. -/
theorem find_popFirst_toEnd (d : OrderedDict κ α) (k : κ) (v : α) {n : Nat}
    (short : n < (d.toEnd k v).entries.length) : ((d.toEnd k v).popFirst n).find k = some v := by
  rw [find_eq_some_iff]
  unfold popFirst toEnd at *
  dsimp only at *
  rw [List.length_append, List.length_singleton] at short
  rw [List.drop_append_of_le_length (by omega)]
  exact List.mem_append_right _ List.mem_cons_self

end OrderedDict
/-! ## Keys without repetition -/

section
variable {α : Type*} [BEq α] [LawfulBEq α]

theorem nodup_eraseDups : ∀ l : List α, l.eraseDups.Nodup
  | [] => by simp
  | a :: rest => by
    rw [List.eraseDups_cons, List.nodup_cons]
    refine ⟨?_, nodup_eraseDups _⟩
    rw [List.mem_eraseDups, List.mem_filter]
    simp
termination_by l => l.length
decreasing_by exact Nat.lt_succ_of_le (List.length_filter_le _ _)

omit [LawfulBEq α] in
theorem length_eraseDups_le : ∀ l : List α, l.eraseDups.length ≤ l.length
  | [] => by simp
  | a :: rest => by
    rw [List.eraseDups_cons, List.length_cons, List.length_cons]
    have shorter := length_eraseDups_le (rest.filter fun b => !(b == a))
    have kept := List.length_filter_le (fun b => !(b == a)) rest
    omega
termination_by l => l.length
decreasing_by exact Nat.lt_succ_of_le (List.length_filter_le _ _)

/-- A list without repetition is left as it is. -/
theorem eraseDups_of_nodup {l : List α} (distinct : l.Nodup) : l.eraseDups = l := by
  induction l with
  | nil => rfl
  | cons a rest ih =>
    obtain ⟨fresh, distinct⟩ := List.nodup_cons.mp distinct
    have others : (rest.filter fun b => !(b == a)) = rest := by
      rw [List.filter_eq_self]
      intro b member
      simp only [Bool.not_eq_true', beq_eq_false_iff_ne, ne_eq]
      rintro rfl
      exact fresh member
    rw [List.eraseDups_cons, others, ih distinct]

end

end OpenOntology.Library
