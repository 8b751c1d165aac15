import Mathlib

/-!
# The first greatest element

A register that keeps its content until something strictly greater arrives ends with
the first of the greatest elements it was offered, `List.argmax`. When the elements
come in batches, whose order is free, the content is a function of the set of batches
exactly when the batches that lead agree on it.
-/
namespace OpenOntology.Library

variable {α β γ ι : Type*} [LinearOrder β] (f : α → β)

theorem argmax_append_left {l l' : List α} {a : α} (first : l.argmax f = some a)
    (below : ∀ b ∈ l', f b ≤ f a) : (l ++ l').argmax f = some a := by
  induction l' using List.reverseRecOn with
  | nil => rwa [List.append_nil]
  | append_singleton rest b ih =>
    have kept := ih fun c member => below c (List.mem_append_left _ member)
    have not_above := below b (List.mem_append_right _ List.mem_cons_self)
    rw [← List.append_assoc, List.argmax_concat, kept]
    exact if_neg (not_lt.mpr not_above)

theorem argmax_append_right {l l' : List α} {a : α} (last : l'.argmax f = some a)
    (below : ∀ b ∈ l, f b < f a) : (l ++ l').argmax f = some a := by
  induction l with
  | nil => exact last
  | cons b rest ih =>
    have kept := ih fun c member => below c (List.mem_cons_of_mem b member)
    rw [List.cons_append, List.argmax_cons, kept]
    exact if_pos (below b List.mem_cons_self)

/-- The first greatest element of some batches is the first greatest of its own. -/
theorem argmax_flatMap_leads (batch : ι → List α) (batches : List ι) {a : α}
    (first : (batches.flatMap batch).argmax f = some a) :
    ∃ i ∈ batches, (batch i).argmax f = some a := by
  induction batches with
  | nil => cases first
  | cons i rest ih =>
    rw [List.flatMap_cons] at first
    have greatest : ∀ b ∈ batch i ++ rest.flatMap batch, f b ≤ f a :=
      fun b member => List.le_of_mem_argmax member first
    cases leads : (batch i).argmax f with
    | none =>
      rw [List.argmax_eq_none.mp leads, List.nil_append] at first
      obtain ⟨j, member, lead⟩ := ih first
      exact ⟨j, List.mem_cons_of_mem i member, lead⟩
    | some b =>
      by_cases reached : ∀ c ∈ rest.flatMap batch, f c ≤ f b
      · rw [argmax_append_left f leads reached] at first
        exact ⟨i, List.mem_cons_self, leads.trans first⟩
      · cases later : (rest.flatMap batch).argmax f with
        | none =>
          refine absurd ?_ reached
          rw [List.argmax_eq_none.mp later]
          exact List.forall_mem_nil _
        | some c =>
          have above : f b < f c := by
            by_contra not_above
            refine reached fun d member => ?_
            exact (List.le_of_mem_argmax member later).trans (not_lt.mp not_above)
          rw [argmax_append_right f later fun d member =>
            (List.le_of_mem_argmax member leads).trans_lt above] at first
          obtain ⟨j, member, lead⟩ := ih (later.trans first)
          exact ⟨j, List.mem_cons_of_mem i member, lead⟩

/-- Batch `i` leads with `a`: it is the first greatest of its batch, and nothing in
any batch is greater. -/
def Leads (batch : ι → List α) (batches : List ι) (i : ι) (a : α) : Prop :=
  (batch i).argmax f = some a ∧ ∀ j ∈ batches, ∀ b ∈ batch j, f b ≤ f a

theorem argmax_flatMap_of_leads {batch : ι → List α} {i : ι} {rest : List ι} {a : α}
    (leads : Leads f batch (i :: rest) i a) :
    ((i :: rest).flatMap batch).argmax f = some a := by
  rw [List.flatMap_cons]
  refine argmax_append_left f leads.1 fun b member => ?_
  obtain ⟨j, within, inside⟩ := List.mem_flatMap.mp member
  exact leads.2 j (List.mem_cons_of_mem i within) b inside

theorem Leads.of_mem_iff {batch : ι → List α} {batches batches' : List ι} {i : ι} {a : α}
    (leads : Leads f batch batches i a) (same : ∀ j, j ∈ batches' ↔ j ∈ batches) :
    Leads f batch batches' i a :=
  ⟨leads.1, fun j member => leads.2 j ((same j).mp member)⟩

theorem leads_of_argmax {batch : ι → List α} {batches : List ι} {a : α}
    (first : (batches.flatMap batch).argmax f = some a) :
    ∃ i ∈ batches, Leads f batch batches i a := by
  obtain ⟨i, member, own⟩ := argmax_flatMap_leads f batch batches first
  refine ⟨i, member, own, fun j within b inside => ?_⟩
  exact List.le_of_mem_argmax (List.mem_flatMap.mpr ⟨j, within, inside⟩) first

/-- What is kept of the first greatest element does not depend on the order of the
batches exactly when all leading batches agree on it. -/
theorem argmax_flatMap_perm_iff (batch : ι → List α) (keep : α → γ) (batches : List ι) :
    (∀ batches' : List ι, batches'.Perm batches → ((batches'.flatMap batch).argmax f).map keep =
        ((batches.flatMap batch).argmax f).map keep) ↔
      ∀ i ∈ batches, ∀ j ∈ batches, ∀ a b, Leads f batch batches i a →
        Leads f batch batches j b → keep a = keep b := by
  constructor
  · intro same i member j member' a b leads leads'
    obtain ⟨before, after, rfl⟩ := List.append_of_mem member
    obtain ⟨before', after', split⟩ := List.append_of_mem member'
    have front : ((i :: (before ++ after)).flatMap batch).argmax f = some a :=
      argmax_flatMap_of_leads f (leads.of_mem_iff f fun k => by simp; tauto)
    have front' : ((j :: (before' ++ after')).flatMap batch).argmax f = some b :=
      argmax_flatMap_of_leads f (leads'.of_mem_iff f fun k => by rw [split]; simp; tauto)
    have one := same (i :: (before ++ after)) List.perm_middle.symm
    have other := same (j :: (before' ++ after')) (by rw [split]; exact List.perm_middle.symm)
    rw [← one, front, front'] at other
    exact (Option.some.inj other).symm
  · intro agree batches' perm
    have same : ∀ k, k ∈ batches' ↔ k ∈ batches := fun k => perm.mem_iff
    cases first : (batches.flatMap batch).argmax f with
    | none =>
      have blank : batches'.flatMap batch = [] := by
        have empty := List.argmax_eq_none.mp first
        rw [List.flatMap_eq_nil_iff] at empty ⊢
        exact fun k member => empty k ((same k).mp member)
      rw [blank]
      rfl
    | some a =>
      obtain ⟨i, member, leads⟩ := leads_of_argmax f first
      cases first' : (batches'.flatMap batch).argmax f with
      | none =>
        have blank := List.argmax_eq_none.mp first'
        rw [List.flatMap_eq_nil_iff] at blank
        have empty := leads.1
        rw [blank i ((same i).mpr member)] at empty
        cases empty
      | some b =>
        obtain ⟨j, member', leads'⟩ := leads_of_argmax f first'
        exact congrArg some (agree j ((same j).mp member') i member b a
          (leads'.of_mem_iff f fun k => (same k).symm) leads)

end OpenOntology.Library
