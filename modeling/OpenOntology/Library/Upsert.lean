import Mathlib.Data.List.Basic

/-!
# Writes that only happen on a difference

A store receives facts through an operation that writes a fact unless it holds
already. If a written fact holds and compatible facts leave each other alone, then
a list of pairwise compatible facts holds as a whole after one pass, and further
passes over any of them change nothing.
-/
namespace OpenOntology.Library

variable {σ α : Type*}

/-- Facts that each leave the state alone leave it alone together. -/
theorem foldl_settled (apply : σ → α → σ) (s : σ) (l : List α)
    (settled : ∀ a ∈ l, apply s a = s) : l.foldl apply s = s := by
  induction l with
  | nil => rfl
  | cons a rest ih =>
    rw [List.foldl_cons, settled a List.mem_cons_self]
    exact ih fun b member => settled b (List.mem_cons_of_mem a member)

/-- Conditional writes. `ready n` is the invariant with room for `n` more writes. -/
structure Upsert (σ α : Type*) where
  apply : σ → α → σ
  holds : σ → α → Prop
  ready : Nat → σ → Prop
  valid : α → Prop
  compatible : α → α → Prop
  lands : ∀ n s a, ready (n + 1) s → valid a → holds (apply s a) a ∧ ready n (apply s a)
  keeps : ∀ n s a b, ready (n + 1) s → valid a → valid b → compatible a b → holds s a →
    holds (apply s b) a

namespace Upsert

variable (U : Upsert σ α)

theorem ready_cons {a : α} {rest : List α} {n : Nat} {s : σ}
    (ready : U.ready ((a :: rest).length + n) s) : U.ready (rest.length + n + 1) s := by
  have count : (a :: rest).length + n = rest.length + n + 1 := by
    rw [List.length_cons]
    omega
  rwa [count] at ready

theorem foldl_ready (l : List α) (n : Nat) (s : σ) (ready : U.ready (l.length + n) s)
    (valid : ∀ a ∈ l, U.valid a) : U.ready n (l.foldl U.apply s) := by
  induction l generalizing s with
  | nil => simpa using ready
  | cons a rest ih =>
    have room := U.ready_cons ready
    exact ih (U.apply s a) (U.lands _ s a room (valid a List.mem_cons_self)).2
      fun b member => valid b (List.mem_cons_of_mem a member)

/-- A fact that holds survives facts compatible with it. -/
theorem foldl_keeps (l : List α) (n : Nat) (s : σ) (a : α) (ready : U.ready (l.length + n) s)
    (valid : ∀ b ∈ l, U.valid b) (valid_a : U.valid a) (compatible : ∀ b ∈ l, U.compatible a b)
    (held : U.holds s a) : U.holds (l.foldl U.apply s) a := by
  induction l generalizing s with
  | nil => exact held
  | cons b rest ih =>
    have room := U.ready_cons ready
    have head := valid b List.mem_cons_self
    exact ih (U.apply s b) (U.lands _ s b room head).2
      (fun c member => valid c (List.mem_cons_of_mem b member))
      (fun c member => compatible c (List.mem_cons_of_mem b member))
      (U.keeps _ s a b room valid_a head (compatible b List.mem_cons_self) held)

/-- After one pass over pairwise compatible facts all of them hold. -/
theorem foldl_holds (l : List α) (n : Nat) (s : σ) (ready : U.ready (l.length + n) s)
    (valid : ∀ a ∈ l, U.valid a) (compatible : ∀ a ∈ l, ∀ b ∈ l, U.compatible a b) :
    ∀ a ∈ l, U.holds (l.foldl U.apply s) a := by
  induction l generalizing s with
  | nil =>
    intro a member
    cases member
  | cons b rest ih =>
    have room := U.ready_cons ready
    have head := valid b List.mem_cons_self
    have tail : ∀ c ∈ rest, U.valid c := fun c member => valid c (List.mem_cons_of_mem b member)
    obtain ⟨held, next⟩ := U.lands _ s b room head
    intro a member
    rcases List.mem_cons.mp member with rfl | later
    · exact U.foldl_keeps rest n _ a next tail head
        (fun c inside => compatible a List.mem_cons_self c (List.mem_cons_of_mem a inside)) held
    · exact ih (U.apply s b) next tail
        (fun c inside d inside' => compatible c (List.mem_cons_of_mem b inside) d
          (List.mem_cons_of_mem b inside')) a later

/-- Where a fact that holds is not written, one pass leaves nothing for a second. -/
theorem foldl_twice (idle : ∀ s a, U.holds s a → U.apply s a = s) (l : List α) (n : Nat) (s : σ)
    (ready : U.ready (l.length + n) s) (valid : ∀ a ∈ l, U.valid a)
    (compatible : ∀ a ∈ l, ∀ b ∈ l, U.compatible a b) :
    l.foldl U.apply (l.foldl U.apply s) = l.foldl U.apply s := by
  apply foldl_settled
  intro a member
  exact idle _ a (U.foldl_holds l n s ready valid compatible a member)

/-- Where every write moves a clock forward, an unmoved clock means that no fact of
the list was written. -/
theorem foldl_unmoved (clock : σ → Int) (l : List α) (n : Nat) (s : σ)
    (moves : ∀ n s a, U.ready (n + 1) s → U.valid a →
      U.apply s a = s ∨ clock s < clock (U.apply s a))
    (ready : U.ready (l.length + n) s) (valid : ∀ a ∈ l, U.valid a) :
    clock s ≤ clock (l.foldl U.apply s) ∧
      (clock (l.foldl U.apply s) = clock s → ∀ a ∈ l, U.apply s a = s) := by
  induction l generalizing s with
  | nil =>
    refine ⟨Int.le_refl _, ?_⟩
    intro _ a member
    cases member
  | cons b rest ih =>
    have room := U.ready_cons ready
    have head := valid b List.mem_cons_self
    obtain ⟨forward, later⟩ := ih (U.apply s b) (U.lands _ s b room head).2
      (fun c member => valid c (List.mem_cons_of_mem b member))
    rw [List.foldl_cons]
    rcases moves _ s b room head with same | moved
    · rw [same] at forward later ⊢
      refine ⟨forward, ?_⟩
      intro unmoved a member
      rcases List.mem_cons.mp member with rfl | inside
      · exact same
      · exact later unmoved a inside
    · refine ⟨by omega, ?_⟩
      intro unmoved
      omega

end Upsert
end OpenOntology.Library
