import Mathlib

/-!
# Loading a map from its values

A map that files every value under a key of its own is rebuilt from the list of its
values, in whatever order they come, by anything that inserts a value whose key is new.
-/
namespace OpenOntology.Library
open Std

variable {κ ν : Type*} {cmp : κ → κ → Ordering} [TransCmp cmp] [LawfulEqCmp cmp]

/-- The operation inserts a value whose key is not held. -/
def Inserts (key : ν → κ) (load : ExtTreeMap κ ν cmp → ν → ExtTreeMap κ ν cmp) : Prop :=
  ∀ (m : ExtTreeMap κ ν cmp) (v : ν), m[key v]? = none → load m v = m.insert (key v) v

/-- Every value is filed under its own key. -/
def FiledBy (key : ν → κ) (m : ExtTreeMap κ ν cmp) : Prop :=
  ∀ (k : κ) (v : ν), m[k]? = some v → key v = k

variable {key : ν → κ} {load : ExtTreeMap κ ν cmp → ν → ExtTreeMap κ ν cmp}

theorem foldl_load_getElem? (inserts : Inserts key load) (l : List ν)
    (distinct : (l.map key).Nodup) (m : ExtTreeMap κ ν cmp)
    (fresh : ∀ v ∈ l, m[key v]? = none) (k : κ) (v : ν) :
    (l.foldl load m)[k]? = some v ↔ m[k]? = some v ∨ v ∈ l ∧ key v = k := by
  induction l generalizing m with
  | nil => simp
  | cons w rest ih =>
    obtain ⟨unseen, distinct⟩ := List.nodup_cons.mp distinct
    have head := fresh w List.mem_cons_self
    have apart : ∀ x ∈ rest, ¬cmp (key w) (key x) = .eq := by
      intro x member same
      rw [LawfulEqCmp.compare_eq_iff_eq.mp same] at unseen
      exact unseen (List.mem_map_of_mem member)
    have later : ∀ x ∈ rest, (m.insert (key w) w)[key x]? = none := by
      intro x member
      rw [ExtTreeMap.getElem?_insert, if_neg (apart x member)]
      exact fresh x (List.mem_cons_of_mem w member)
    rw [List.foldl_cons, inserts m w head, ih distinct _ later, ExtTreeMap.getElem?_insert]
    by_cases same : cmp (key w) k = .eq
    · have filed : key w = k := LawfulEqCmp.compare_eq_iff_eq.mp same
      subst filed
      rw [if_pos same, head]
      constructor
      · rintro (found | ⟨member, other⟩)
        · cases found
          exact Or.inr ⟨List.mem_cons_self, rfl⟩
        · exact Or.inr ⟨List.mem_cons_of_mem w member, other⟩
      · rintro (found | ⟨member, filed⟩)
        · cases found
        · rcases List.mem_cons.mp member with rfl | member
          · exact Or.inl rfl
          · exact Or.inr ⟨member, filed⟩
    · rw [if_neg same]
      refine or_congr_right ⟨fun ⟨member, filed⟩ => ⟨List.mem_cons_of_mem w member, filed⟩, ?_⟩
      rintro ⟨member, rfl⟩
      rcases List.mem_cons.mp member with rfl | member
      · exact absurd ReflCmp.compare_self same
      · exact ⟨member, rfl⟩

/-- The keys of the values of a filed map are distinct. -/
theorem nodup_keys_of_values {m : ExtTreeMap κ ν cmp} (filed : FiledBy key m) {l : List ν}
    (values : l.Perm (m.toList.map Prod.snd)) : (l.map key).Nodup := by
  have keys : (m.toList.map Prod.snd).map key = m.toList.map Prod.fst := by
    rw [List.map_map]
    refine List.map_congr_left fun entry member => ?_
    exact filed entry.1 entry.2 (ExtTreeMap.mem_toList_iff_getElem?_eq_some.mp member)
  rw [(values.map key).nodup_iff, keys, ExtTreeMap.map_fst_toList_eq_keys]
  exact ExtTreeMap.nodup_keys

theorem mem_values_iff {m : ExtTreeMap κ ν cmp} (filed : FiledBy key m) {l : List ν}
    (values : l.Perm (m.toList.map Prod.snd)) (v : ν) : v ∈ l ↔ m[key v]? = some v := by
  rw [values.mem_iff, List.mem_map]
  constructor
  · rintro ⟨entry, inside, rfl⟩
    have held := ExtTreeMap.mem_toList_iff_getElem?_eq_some.mp inside
    rwa [filed entry.1 entry.2 held]
  · intro held
    exact ⟨(key v, v), ExtTreeMap.mem_toList_iff_getElem?_eq_some.mpr held, rfl⟩

/-- Among the values of a filed map one key picks what it files. -/
theorem filter_values [DecidableEq κ] {m : ExtTreeMap κ ν cmp} (filed : FiledBy key m)
    {l : List ν} (values : l.Perm (m.toList.map Prod.snd)) (k : κ) :
    l.filter (fun v => key v = k) = m[k]?.toList := by
  have distinct := List.Nodup.of_map key (nodup_keys_of_values filed values)
  have inside : ∀ v, v ∈ l.filter (fun v => key v = k) ↔ m[k]? = some v := by
    intro v
    rw [List.mem_filter, mem_values_iff filed values, decide_eq_true_iff]
    constructor
    · rintro ⟨held, rfl⟩
      exact held
    · intro held
      have same := filed k v held
      exact ⟨by rwa [same], same⟩
  cases found : m[k]? with
  | none =>
    refine List.eq_nil_iff_forall_not_mem.mpr fun v member => ?_
    rw [inside, found] at member
    cases member
  | some v =>
    refine List.perm_singleton.mp ((List.perm_ext_iff_of_nodup (distinct.filter _)
      (List.nodup_singleton v)).mpr fun w => ?_)
    rw [inside, found, List.mem_singleton, Option.some.injEq, eq_comm]

/-- Loading the values of a filed map into the empty one rebuilds it. -/
theorem foldl_load_values (inserts : Inserts key load) {m : ExtTreeMap κ ν cmp}
    (filed : FiledBy key m) {l : List ν} (values : l.Perm (m.toList.map Prod.snd)) :
    l.foldl load ∅ = m := by
  refine ExtTreeMap.ext_getElem? fun {k} => Option.ext fun v => ?_
  rw [foldl_load_getElem? inserts l (nodup_keys_of_values filed values) ∅
    (fun _ _ => ExtTreeMap.getElem?_empty) k v, ExtTreeMap.getElem?_empty,
    mem_values_iff filed values]
  constructor
  · rintro (impossible | ⟨held, rfl⟩)
    · cases impossible
    · exact held
  · intro held
    have same := filed k v held
    exact Or.inr ⟨by rwa [same], same⟩

/-! ## Filing the entries of another map -/

section
variable {α β : Type*} (file : κ → α → Option β → β)

theorem foldl_file_list (l : List (κ × α)) (distinct : (l.map Prod.fst).Nodup)
    (m : ExtTreeMap κ β cmp) (k : κ) :
    (∀ a, (k, a) ∈ l →
      (l.foldl (fun m e => m.insert e.1 (file e.1 e.2 m[e.1]?)) m)[k]? = some (file k a m[k]?)) ∧
      (k ∉ l.map Prod.fst →
        (l.foldl (fun m e => m.insert e.1 (file e.1 e.2 m[e.1]?)) m)[k]? = m[k]?) := by
  induction l generalizing m with
  | nil => simp
  | cons entry rest ih =>
    obtain ⟨unseen, distinct⟩ := List.nodup_cons.mp distinct
    obtain ⟨filed, kept⟩ := ih distinct (m.insert entry.1 (file entry.1 entry.2 m[entry.1]?))
    rw [List.foldl_cons]
    by_cases same : entry.1 = k
    · subst same
      have last := kept unseen
      rw [ExtTreeMap.getElem?_insert_self] at last
      refine ⟨fun a member => ?_, fun absent => absurd List.mem_cons_self absent⟩
      rcases List.mem_cons.mp member with here | later
      · rw [last, ← here]
      · exact absurd (List.mem_map_of_mem later) unseen
    · have apart : ¬cmp entry.1 k = .eq := fun equal => same (LawfulEqCmp.compare_eq_iff_eq.mp equal)
      rw [ExtTreeMap.getElem?_insert, if_neg apart] at filed kept
      constructor
      · intro a member
        rcases List.mem_cons.mp member with here | later
        · exact absurd (congrArg Prod.fst here.symm) same
        · exact filed a later
      · exact fun absent => kept fun later => absent (List.mem_cons_of_mem _ later)

/-- Filing every entry of a map over what another map holds under its key. -/
theorem foldl_file_getElem? (t : ExtTreeMap κ α cmp) (m : ExtTreeMap κ β cmp) (k : κ) :
    (t.foldl (fun m k a => m.insert k (file k a m[k]?)) m)[k]? =
      match t[k]? with
      | some a => some (file k a m[k]?)
      | none => m[k]? := by
  have distinct : (t.toList.map Prod.fst).Nodup := by
    rw [ExtTreeMap.map_fst_toList_eq_keys]
    exact ExtTreeMap.nodup_keys
  obtain ⟨filed, kept⟩ := foldl_file_list file t.toList distinct m k
  rw [ExtTreeMap.foldl_eq_foldl_toList]
  cases held : t[k]? with
  | some a => exact filed a (ExtTreeMap.mem_toList_iff_getElem?_eq_some.mpr held)
  | none =>
    refine kept fun member => ?_
    obtain ⟨entry, inside, rfl⟩ := List.mem_map.mp member
    rw [ExtTreeMap.mem_toList_iff_getElem?_eq_some.mp inside] at held
    cases held

end

/-! ## Listing a map -/

/-- The values of a filed map come in the order of their keys. -/
theorem mergeSort_filter_values {m : ExtTreeMap κ ν cmp} (filed : FiledBy key m)
    {le : κ → κ → Bool} (ascending : ∀ a b, cmp a b = .lt → le a b = true) (shown : ν → Bool) :
    ((m.toList.map Prod.snd).filter shown).mergeSort (fun a b => le (key a) (key b)) =
      (m.toList.map Prod.snd).filter shown := by
  apply List.mergeSort_of_pairwise
  apply List.Pairwise.filter
  rw [List.pairwise_map]
  refine ExtTreeMap.ordered_keys_toList.imp_of_mem ?_
  intro a b member member' less
  rw [filed a.1 a.2 (ExtTreeMap.mem_toList_iff_getElem?_eq_some.mp member),
    filed b.1 b.2 (ExtTreeMap.mem_toList_iff_getElem?_eq_some.mp member')]
  exact ascending _ _ less

omit [LawfulEqCmp cmp] in
theorem map_filter_values {ρ : Type*} (m : ExtTreeMap κ ν cmp) (shown : ν → Bool) (view : ν → ρ) :
    ((m.toList.map Prod.snd).filter shown).map view =
      (m.filterMap fun _ v => ((some v).filter shown).map view).toList.map Prod.snd := by
  rw [ExtTreeMap.toList_filterMap]
  induction m.toList with
  | nil => rfl
  | cons entry rest ih => cases seen : shown entry.2 <;> simp [seen, ih]

/-- Two filed maps that show the same at every key are listed alike. -/
theorem listed_congr {ρ : Type*} {m m' : ExtTreeMap κ ν cmp} (filed : FiledBy key m)
    (filed' : FiledBy key m') {le : κ → κ → Bool}
    (ascending : ∀ a b, cmp a b = .lt → le a b = true) (shown shown' : ν → Bool) (view : ν → ρ)
    (same : ∀ k : κ, (m[k]?.filter shown).map view = (m'[k]?.filter shown').map view) :
    (((m.toList.map Prod.snd).filter shown).mergeSort fun a b => le (key a) (key b)).map view =
      (((m'.toList.map Prod.snd).filter shown').mergeSort fun a b =>
        le (key a) (key b)).map view := by
  rw [mergeSort_filter_values filed ascending, mergeSort_filter_values filed' ascending,
    map_filter_values, map_filter_values]
  congr 2
  apply ExtTreeMap.ext_getElem?
  intro k
  have entry : ∀ (held : Option ν) (seen : ν → Bool),
      (held.bind fun v => ((some v).filter seen).map view) = (held.filter seen).map view := by
    intro held seen
    cases held <;> rfl
  rw [ExtTreeMap.getElem?_filterMap', ExtTreeMap.getElem?_filterMap', entry, entry, same k]

end OpenOntology.Library
