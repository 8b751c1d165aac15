import Mathlib.Order.BoundedOrder.Lattice

/-!
# Replication by join

States receive messages through an arbitrary merge. When a merge acts on an
observable of the state as the join of a semilattice, the observable after any
number of messages depends on the set of messages only: not on their order and
not on how often each of them arrives.
-/
namespace OpenOntology.Library

variable {α σ μ L : Type*} [SemilatticeSup L]

theorem foldl_sup_le_iff (f : α → L) (l : List α) (a b : L) :
    l.foldl (fun acc x => acc ⊔ f x) a ≤ b ↔ a ≤ b ∧ ∀ x ∈ l, f x ≤ b := by
  induction l generalizing a with
  | nil => simp
  | cons x rest ih =>
    rw [List.foldl_cons, ih, sup_le_iff]
    simp only [List.mem_cons, forall_eq_or_imp]
    exact and_assoc

/-- A fold of joins is determined by the set of elements it runs over. -/
theorem foldl_sup_congr (f : α → L) (l₁ l₂ : List α) (a : L) (same : ∀ x, x ∈ l₁ ↔ x ∈ l₂) :
    l₁.foldl (fun acc x => acc ⊔ f x) a = l₂.foldl (fun acc x => acc ⊔ f x) a := by
  apply eq_of_forall_ge_iff
  intro b
  rw [foldl_sup_le_iff, foldl_sup_le_iff]
  simp only [same]

theorem le_foldl_sup (f : α → L) (l : List α) (a : L) (x : α) (member : x ∈ l) :
    f x ≤ l.foldl (fun acc y => acc ⊔ f y) a :=
  ((foldl_sup_le_iff f l a _).mp le_rfl).2 x member

theorem foldl_sup_from [OrderBot L] (f : α → L) (l : List α) (a : L) :
    l.foldl (fun acc x => acc ⊔ f x) a = a ⊔ l.foldl (fun acc x => acc ⊔ f x) ⊥ := by
  apply eq_of_forall_ge_iff
  intro b
  rw [foldl_sup_le_iff, sup_le_iff, foldl_sup_le_iff]
  simp only [bot_le, true_and]

/-- In a linear order a fold of joins is attained, by the start or by an element. -/
theorem foldl_sup_attained {M : Type*} [LinearOrder M] (f : α → M) (l : List α) (a : M) :
    l.foldl (fun acc x => acc ⊔ f x) a = a ∨
      ∃ x ∈ l, l.foldl (fun acc x => acc ⊔ f x) a = f x := by
  induction l generalizing a with
  | nil => exact Or.inl rfl
  | cons x rest ih =>
    rw [List.foldl_cons]
    rcases ih (a ⊔ f x) with settled | ⟨y, member, reached⟩
    · rcases le_total a (f x) with below | above
      · rw [sup_eq_right.mpr below] at settled ⊢
        exact Or.inr ⟨x, List.mem_cons_self, settled⟩
      · rw [sup_eq_left.mpr above] at settled ⊢
        exact Or.inl settled
    · exact Or.inr ⟨y, List.mem_cons_of_mem x member, reached⟩

/-- A merge whose effect on `view` is the join with what the message carries, on
the states and messages that satisfy an invariant the merge preserves. -/
structure JoinMerge (σ μ L : Type*) [SemilatticeSup L] where
  merge : σ → μ → σ
  view : σ → L
  carried : μ → L
  goodState : σ → Prop
  goodMessage : μ → Prop
  preserved : ∀ s m, goodState s → goodMessage m → goodState (merge s m)
  join : ∀ s m, goodState s → goodMessage m → view (merge s m) = view s ⊔ carried m

namespace JoinMerge

variable (J : JoinMerge σ μ L)

/-- Deliver the messages one after another. -/
def deliver (s : σ) (l : List μ) : σ := l.foldl J.merge s

theorem deliver_good (l : List μ) (s : σ) (good : J.goodState s)
    (messages : ∀ m ∈ l, J.goodMessage m) : J.goodState (J.deliver s l) := by
  induction l generalizing s with
  | nil => exact good
  | cons m rest ih =>
    have head := messages m List.mem_cons_self
    exact ih (J.merge s m) (J.preserved s m good head)
      (fun m' member => messages m' (List.mem_cons_of_mem m member))

theorem view_deliver (l : List μ) (s : σ) (good : J.goodState s)
    (messages : ∀ m ∈ l, J.goodMessage m) :
    J.view (J.deliver s l) = l.foldl (fun acc m => acc ⊔ J.carried m) (J.view s) := by
  induction l generalizing s with
  | nil => rfl
  | cons m rest ih =>
    have head := messages m List.mem_cons_self
    have tail := ih (J.merge s m) (J.preserved s m good head)
      (fun m' member => messages m' (List.mem_cons_of_mem m member))
    rw [List.foldl_cons, ← J.join s m good head]
    exact tail

/-- Convergence of the observable: equal sets of messages, equal views. -/
theorem view_deliver_congr (l₁ l₂ : List μ) (s : σ) (good : J.goodState s)
    (messages : ∀ m ∈ l₁, J.goodMessage m) (same : ∀ m, m ∈ l₁ ↔ m ∈ l₂) :
    J.view (J.deliver s l₁) = J.view (J.deliver s l₂) := by
  rw [J.view_deliver l₁ s good messages,
    J.view_deliver l₂ s good (fun m member => messages m ((same m).mpr member))]
  exact foldl_sup_congr J.carried l₁ l₂ (J.view s) same

/-- A delivered message has nothing left to add. -/
theorem carried_le_view (l : List μ) (s : σ) (good : J.goodState s)
    (messages : ∀ m ∈ l, J.goodMessage m) (m : μ) (member : m ∈ l) :
    J.carried m ≤ J.view (J.deliver s l) := by
  rw [J.view_deliver l s good messages]
  exact le_foldl_sup J.carried l (J.view s) m member

end JoinMerge
end OpenOntology.Library
