import Mathlib.Data.List.Nodup

/-!
# The first element with each key

One pass over a list that keeps an element unless an earlier one has its key; an element
without a key is always kept.
-/
namespace OpenOntology.Library

variable {α κ : Type*} [DecidableEq κ] (key : α → Option κ)

/-- `seen` are the keys of the elements kept before. -/
def firstsFrom : List κ → List α → List α
  | _, [] => []
  | seen, a :: rest =>
    match key a with
    | none => a :: firstsFrom seen rest
    | some k => if k ∈ seen then firstsFrom seen rest else a :: firstsFrom (k :: seen) rest

def firsts (l : List α) : List α := firstsFrom key [] l

variable {key}

/-- The kept element of a key is the first that has it, unless the key was seen before. -/
theorem mem_firstsFrom {seen : List κ} {l : List α} {a : α} {k : κ} (keyed : key a = some k) :
    a ∈ firstsFrom key seen l ↔ k ∉ seen ∧ l.find? (fun b => key b = some k) = some a := by
  induction l generalizing seen with
  | nil => simp [firstsFrom]
  | cons b rest ih =>
    have tail : a ∈ firstsFrom key seen rest ↔
        k ∉ seen ∧ rest.find? (fun b => key b = some k) = some a := ih
    unfold firstsFrom
    split
    next unkeyed =>
      have apart : a ≠ b := fun same => by rw [← same, keyed] at unkeyed; cases unkeyed
      rw [List.mem_cons, or_iff_right apart, tail, List.find?_cons_of_neg (by simp [unkeyed])]
    next k' keyed' =>
      by_cases same : k' = k
      · subst same
        rw [List.find?_cons_of_pos (by simp [keyed'])]
        split
        next held =>
          rw [tail]
          exact iff_of_false (fun fresh => fresh.1 held) (fun fresh => fresh.1 held)
        next fresh =>
          rw [List.mem_cons, ih, Option.some.injEq]
          constructor
          · rintro (rfl | ⟨never, -⟩)
            · exact ⟨fresh, rfl⟩
            · exact absurd List.mem_cons_self never
          · exact fun kept => Or.inl kept.2.symm
      · have apart : a ≠ b := fun equal => by
          rw [← equal, keyed] at keyed'
          exact same (Option.some.inj keyed').symm
        rw [List.find?_cons_of_neg (by simp [keyed', same])]
        split
        next => exact tail
        next =>
          rw [List.mem_cons, or_iff_right apart, ih, List.mem_cons, not_or]
          exact ⟨fun kept => ⟨kept.1.2, kept.2⟩, fun kept => ⟨⟨Ne.symm same, kept.1⟩, kept.2⟩⟩

theorem mem_firsts {l : List α} {a : α} {k : κ} (keyed : key a = some k) :
    a ∈ firsts key l ↔ l.find? (fun b => key b = some k) = some a := by
  unfold firsts
  rw [mem_firstsFrom keyed]
  exact and_iff_right List.not_mem_nil

/-- Every key of the list is kept. -/
theorem exists_mem_firsts {l : List α} {a : α} {k : κ} (member : a ∈ l) (keyed : key a = some k) :
    ∃ b ∈ firsts key l, key b = some k := by
  cases found : l.find? fun b => key b = some k with
  | none =>
    have never := List.find?_eq_none.mp found a member
    exact absurd (decide_eq_true keyed) never
  | some b =>
    have keyed' : key b = some k := by simpa using List.find?_some found
    exact ⟨b, (mem_firsts keyed').mpr found, keyed'⟩

theorem firstsFrom_unseen {seen : List κ} {l : List α} {a : α} {k : κ} (keyed : key a = some k)
    (member : a ∈ firstsFrom key seen l) : k ∉ seen :=
  ((mem_firstsFrom keyed).mp member).1

/-- No two kept elements share a key. -/
theorem firstsFrom_pairwise (seen : List κ) (l : List α) :
    (firstsFrom key seen l).Pairwise fun a b => ∀ k, key a = some k → key b ≠ some k := by
  induction l generalizing seen with
  | nil => exact List.Pairwise.nil
  | cons a rest ih =>
    unfold firstsFrom
    split
    next unkeyed =>
      refine List.Pairwise.cons (fun b _ k keyed => ?_) (ih seen)
      rw [unkeyed] at keyed
      cases keyed
    next k keyed =>
      split
      · exact ih seen
      · refine List.Pairwise.cons (fun b member k' keyed' same => ?_) (ih (k :: seen))
        cases keyed.symm.trans keyed'
        exact firstsFrom_unseen same member List.mem_cons_self

end OpenOntology.Library
