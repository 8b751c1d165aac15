import Mathlib

/-!
# Partial traversals

A list traversed by a function that may fail: when the traversal succeeds, and what its
result has to do with the list.
-/
namespace OpenOntology.Library

variable {α β ε : Type*}

theorem bind_ok_iff {γ : Type*} {first : Except ε α} {next : α → Except ε γ} {value : γ} :
    first.bind next = .ok value ↔ ∃ x, first = .ok x ∧ next x = .ok value := by
  cases first <;> simp [Except.bind]

theorem map_ok_iff {γ : Type*} {first : Except ε α} {f : α → γ} {value : γ} :
    first.map f = .ok value ↔ ∃ x, first = .ok x ∧ f x = value := by
  cases first <;> simp [Except.map]

theorem mapError_ok_iff {γ : Type*} {first : Except ε α} {f : ε → γ} {value : α} :
    first.mapError f = .ok value ↔ first = .ok value := by
  cases first <;> simp [Except.mapError]

theorem mapM_some_iff {f : α → Option β} {l : List α} {r : List β} :
    l.mapM f = some r ↔ List.Forall₂ (fun a b => f a = some b) l r := by
  induction l generalizing r with
  | nil => cases r <;> simp
  | cons a rest ih => cases r <;> simp [ih, Option.bind_eq_some_iff]

theorem mapM_ok_iff {ε α β : Type} {f : α → Except ε β} {l : List α} {r : List β} :
    l.mapM f = .ok r ↔ List.Forall₂ (fun a b => f a = .ok b) l r := by
  induction l generalizing r with
  | nil => cases r <;> simp [pure, Except.pure]
  | cons a rest ih =>
    rw [List.mapM_cons]
    cases first : f a with
    | error e => cases r <;> simp [bind, Except.bind, first]
    | ok b =>
      cases others : rest.mapM f with
      | error e =>
        have never : ∀ r', ¬List.Forall₂ (fun a b => f a = Except.ok b) rest r' := by
          intro r' related
          rw [← ih, others] at related
          cases related
        cases r <;> simp [bind, Except.bind, first, never]
      | ok rest' =>
        have only : ∀ r', List.Forall₂ (fun a b => f a = Except.ok b) rest r' ↔ rest' = r' := by
          intro r'
          rw [← ih, others, Except.ok.injEq]
        cases r <;> simp [bind, Except.bind, pure, Except.pure, first, only]

/-- A traversal fails with the failure of an element. -/
theorem mapM_error {ε α β : Type} {f : α → Except ε β} {l : List α} {e : ε}
    (failed : l.mapM f = .error e) : ∃ a ∈ l, f a = .error e := by
  induction l with
  | nil => cases failed
  | cons a rest ih =>
    rw [List.mapM_cons] at failed
    cases first : f a with
    | error e' =>
      rw [first] at failed
      cases failed
      exact ⟨a, List.mem_cons_self, first⟩
    | ok b =>
      cases others : rest.mapM f with
      | ok r =>
        rw [first, others] at failed
        cases failed
      | error e' =>
        rw [first, others] at failed
        cases failed
        obtain ⟨a', member, same⟩ := ih others
        exact ⟨a', List.mem_cons_of_mem a member, same⟩

/-- A relation that has a partner for every element relates the list to some list. -/
theorem exists_forall₂ {R : α → β → Prop} {l : List α} :
    (∃ r, List.Forall₂ R l r) ↔ ∀ a ∈ l, ∃ b, R a b := by
  induction l with
  | nil => simp
  | cons a rest ih =>
    rw [List.forall_mem_cons, ← ih]
    constructor
    · rintro ⟨r, related⟩
      cases related with
      | cons first others => exact ⟨⟨_, first⟩, _, others⟩
    · rintro ⟨⟨b, first⟩, r, others⟩
      exact ⟨b :: r, .cons first others⟩

/-- Images that agree pair by pair are equal lists. -/
theorem map_eq_map_of_forall₂ {γ : Type*} {f : α → γ} {g : β → γ} {l : List α} {r : List β}
    (related : List.Forall₂ (fun a b => f a = g b) l r) : l.map f = r.map g := by
  induction related with
  | nil => rfl
  | cons first _ ih => rw [List.map_cons, List.map_cons, first, ih]

theorem forall₂_exists_right {R : α → β → Prop} {l : List α} {r : List β}
    (related : List.Forall₂ R l r) {a : α} (member : a ∈ l) : ∃ b ∈ r, R a b := by
  induction related with
  | nil => cases member
  | cons first others ih =>
    rcases List.mem_cons.mp member with rfl | later
    · exact ⟨_, List.mem_cons_self, first⟩
    · obtain ⟨b, inside, holds⟩ := ih later
      exact ⟨b, List.mem_cons_of_mem _ inside, holds⟩

theorem forall₂_exists_left {R : α → β → Prop} {l : List α} {r : List β}
    (related : List.Forall₂ R l r) {b : β} (member : b ∈ r) : ∃ a ∈ l, R a b :=
  forall₂_exists_right related.flip member

theorem rel_some_iff {γ : Type*} {R : α → γ → Prop} {a : α} {found : Option γ} :
    Option.Rel R (some a) found ↔ ∃ c, R a c ∧ found = some c := by
  constructor
  · intro related
    cases related with
    | some same => exact ⟨_, same, rfl⟩
  · rintro ⟨c, same, rfl⟩
    exact .some same

/-- Searches of related lists by related tests find related elements. -/
theorem find?_rel {γ : Type*} {R : α → γ → Prop} {l : List α} {m : List γ} {p : α → Bool}
    {q : γ → Bool} (related : List.Forall₂ R l m) (same : ∀ a b, R a b → p a = q b) :
    Option.Rel R (l.find? p) (m.find? q) := by
  induction related with
  | nil => exact .none
  | cons first rest ih =>
    rename_i a b l m
    rw [List.find?_cons, List.find?_cons, same a b first]
    cases q b with
    | true => exact .some first
    | false => exact ih

/-- A stricter test that the first found element passes finds it first, too. -/
theorem find?_of_imp {p q : α → Bool} {l : List α} {a : α} (found : l.find? p = some a)
    (passes : q a = true) (imp : ∀ b, q b = true → p b = true) : l.find? q = some a := by
  rw [List.find?_eq_some_iff_append] at found ⊢
  obtain ⟨-, before, after, split, earlier⟩ := found
  refine ⟨passes, before, after, split, fun b member => ?_⟩
  have failed := earlier b member
  simp only [Bool.not_eq_true', Bool.eq_false_iff] at failed ⊢
  exact fun strict => failed (imp b strict)

/-- What is kept of a list is the image of a list related to it. -/
theorem filterMap_eq_map_of_forall₂ {γ : Type*} {f : α → Option γ} {g : β → γ} {l : List α}
    {r : List β} (related : List.Forall₂ (fun a b => f a = some (g b)) l r) :
    l.filterMap f = r.map g := by
  induction related with
  | nil => rfl
  | cons first _ ih => rw [List.filterMap_cons_some first, List.map_cons, ih]

theorem forall_mem_take_cons {P : α → Prop} {a : α} {l : List α} {n : Nat} :
    (∀ b ∈ (a :: l).take n, P b) ↔ (1 ≤ n → P a) ∧ ∀ b ∈ l.take (n - 1), P b := by
  cases n <;> simp

end OpenOntology.Library
