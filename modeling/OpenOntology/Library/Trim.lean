import Mathlib.Data.List.DropRight
import Mathlib.Data.List.Basic

/-!
# Trimming and splitting lists

Cutting a list back to its first and last element outside a predicate, and the
unique split of a list at a separator. The standard trimming functions of the
source languages differ only in the predicate, so the facts are proved for an
arbitrary one.
-/
namespace OpenOntology.Library

variable {α : Type*}

/-- Drop the longest prefix and the longest suffix on which `blank` holds. -/
def trimBoth (blank : α → Bool) (l : List α) : List α :=
  (l.dropWhile blank).rdropWhile blank

theorem trimBoth_subset (blank : α → Bool) (l : List α) : trimBoth blank l ⊆ l := by
  intro a member
  have inner : a ∈ l.dropWhile blank := (List.rdropWhile_prefix blank _).subset member
  exact (List.dropWhile_suffix blank).subset inner

/-- Nothing at the front survives to be trimmed a second time: the trailing cut
leaves the first element of a nonempty list where it is. -/
theorem dropWhile_trimBoth (blank : α → Bool) (l : List α) :
    (trimBoth blank l).dropWhile blank = trimBoth blank l := by
  rw [List.dropWhile_eq_self_iff]
  intro nonempty
  have front : l.dropWhile blank ≠ [] := by
    intro empty
    simp [trimBoth, empty] at nonempty
  have same : (trimBoth blank l)[0] = (l.dropWhile blank).get
      ⟨0, List.length_pos_of_ne_nil front⟩ :=
    (List.rdropWhile_prefix blank _).getElem _
  rw [same]
  simpa using List.dropWhile_get_zero_not blank l (List.length_pos_of_ne_nil front)

theorem trimBoth_idem (blank : α → Bool) (l : List α) :
    trimBoth blank (trimBoth blank l) = trimBoth blank l := by
  have front := dropWhile_trimBoth blank l
  calc trimBoth blank (trimBoth blank l)
      = (trimBoth blank l).rdropWhile blank := by rw [trimBoth, front]
    _ = trimBoth blank l := List.rdropWhile_idempotent blank _

/-- A map that keeps the predicate commutes with the cut. -/
theorem trimBoth_map (blank : α → Bool) (f : α → α) (keeps : ∀ a, blank (f a) = blank a)
    (l : List α) : trimBoth blank (l.map f) = (trimBoth blank l).map f := by
  have same : blank ∘ f = blank := funext keeps
  simp only [trimBoth, List.rdropWhile, List.dropWhile_map, ← List.map_reverse, same]

theorem trimBoth_eq_nil_iff (blank : α → Bool) (l : List α) :
    trimBoth blank l = [] ↔ ∀ a ∈ l, blank a = true := by
  unfold trimBoth
  rw [List.rdropWhile_eq_nil_iff]
  constructor
  · intro rest
    have whole : ∀ a ∈ l.takeWhile blank ++ l.dropWhile blank, blank a = true := by
      intro a member
      rcases List.mem_append.mp member with front | back
      · exact List.mem_takeWhile_imp front
      · exact rest a back
    rwa [List.takeWhile_append_dropWhile] at whole
  · intro all a member
    exact all a ((List.dropWhile_suffix blank).subset member)

/-- A list without a blank element is its own trimming. -/
theorem trimBoth_eq_self (blank : α → Bool) (l : List α) (solid : ∀ a ∈ l, blank a = false) :
    trimBoth blank l = l := by
  have front : l.dropWhile blank = l := by
    rw [List.dropWhile_eq_self_iff]
    intro nonempty
    simp [solid _ (List.getElem_mem nonempty)]
  rw [trimBoth, front, List.rdropWhile_eq_self_iff]
  intro nonempty
  simp [solid _ (List.getLast_mem nonempty)]

theorem trimBoth_eq_self_iff (blank : α → Bool) (l : List α) :
    trimBoth blank l = l ↔ l.dropWhile blank = l ∧ l.rdropWhile blank = l := by
  constructor
  · intro same
    have front := dropWhile_trimBoth blank l
    rw [same] at front
    unfold trimBoth at same
    rw [front] at same
    exact ⟨front, same⟩
  · rintro ⟨front, back⟩
    rw [trimBoth, front, back]

/-- Trimmed of the wider blanks, a list holds none of the narrower ones at its ends. -/
theorem trimBoth_of_imp {narrow wide : α → Bool} (narrower : ∀ a, narrow a = true → wide a = true)
    (l : List α) : trimBoth narrow (trimBoth wide l) = trimBoth wide l := by
  obtain ⟨front, back⟩ := (trimBoth_eq_self_iff wide _).mp (trimBoth_idem wide l)
  rw [List.dropWhile_eq_self_iff] at front
  rw [List.rdropWhile_eq_self_iff] at back
  rw [trimBoth_eq_self_iff, List.dropWhile_eq_self_iff, List.rdropWhile_eq_self_iff]
  exact ⟨fun some blank => front some (narrower _ blank),
    fun some blank => back some (narrower _ blank)⟩

/-- Nothing is cut from a list whose two ends belong to trimmed nonempty lists. -/
theorem trimBoth_append (blank : α → Bool) (l middle m : List α) (some_l : l ≠ []) (some_m : m ≠ [])
    (trimmed_l : trimBoth blank l = l) (trimmed_m : trimBoth blank m = m) :
    trimBoth blank (l ++ middle ++ m) = l ++ middle ++ m := by
  rw [trimBoth_eq_self_iff] at trimmed_l trimmed_m ⊢
  constructor
  · rw [List.dropWhile_eq_self_iff]
    intro nonempty
    have head := List.dropWhile_eq_self_iff.mp trimmed_l.1 (List.length_pos_of_ne_nil some_l)
    simpa only [List.append_assoc, List.getElem_append_left (List.length_pos_of_ne_nil some_l)]
      using head
  · rw [List.rdropWhile_eq_self_iff]
    intro nonempty
    have last := List.rdropWhile_eq_self_iff.mp trimmed_m.2 some_m
    rwa [List.getLast_append_of_ne_nil nonempty some_m]

/-- The first occurrence of a separator splits a list in one way only. -/
theorem append_cons_inj_of_not_mem {x : α} (a a' b b' : List α) (free : x ∉ a) (free' : x ∉ a')
    (same : a ++ x :: b = a' ++ x :: b') : a = a' ∧ b = b' := by
  induction a generalizing a' with
  | nil =>
    cases a' with
    | nil => simpa using same
    | cons y rest =>
      simp only [List.nil_append, List.cons_append, List.cons.injEq] at same
      exact absurd (same.1 ▸ List.mem_cons_self) free'
  | cons y rest ih =>
    cases a' with
    | nil =>
      simp only [List.nil_append, List.cons_append, List.cons.injEq] at same
      exact absurd (same.1 ▸ List.mem_cons_self) free
    | cons z rest' =>
      simp only [List.cons_append, List.cons.injEq] at same
      simp only [List.mem_cons, not_or] at free free'
      obtain ⟨prefix_same, suffix_same⟩ := ih rest' free.2 free'.2 same.2
      exact ⟨by rw [same.1, prefix_same], suffix_same⟩

/-- So does the last one. -/
theorem append_cons_inj_of_not_mem_right {x : α} {a a' b b' : List α} (free : x ∉ b)
    (free' : x ∉ b') (same : a ++ x :: b = a' ++ x :: b') : a = a' ∧ b = b' := by
  have turned : b.reverse ++ x :: a.reverse = b'.reverse ++ x :: a'.reverse := by
    simpa using congrArg List.reverse same
  obtain ⟨after, before⟩ := append_cons_inj_of_not_mem _ _ _ _ (by simpa using free)
    (by simpa using free') turned
  exact ⟨List.reverse_inj.mp before, List.reverse_inj.mp after⟩

end OpenOntology.Library
