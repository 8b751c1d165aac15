import Mathlib

/-!
# Gossip

Parties contact each other in some order; on every contact the receiver merges what the
sender holds at that moment. A register keeps its content until something of strictly
greater rank comes in. When everyone has heard of everyone, directly or not, all agree on
a content exactly when no other content held at the start was of greatest rank.
-/
namespace OpenOntology.Library

variable {ρ σ β γ : Type*} [DecidableEq ρ]

section
variable (merge : σ → σ → σ)

/-- The receiver of the contact merges what the sender holds. -/
def contact (s : ρ → σ) (c : ρ × ρ) : ρ → σ :=
  Function.update s c.1 (merge (s c.1) (s c.2))

def exchange (s : ρ → σ) (contacts : List (ρ × ρ)) : ρ → σ := contacts.foldl (contact merge) s

end

/-- Whose starting state each party has heard of, by way of others included. -/
def heard (contacts : List (ρ × ρ)) : ρ → Set ρ := exchange (· ∪ ·) (fun r => {r}) contacts

variable {merge : σ → σ → σ} {good : σ → Prop}

/-- What the contacts keep of every party's state and of what it has heard, they keep
together. -/
theorem exchange_induction {s : ρ → σ} (P : ρ → σ → Set ρ → Prop)
    (start : ∀ r, P r (s r) {r})
    (step : ∀ r r' t t' K K', P r t K → P r' t' K' → P r (merge t t') (K ∪ K'))
    (contacts : List (ρ × ρ)) (r : ρ) : P r (exchange merge s contacts r) (heard contacts r) := by
  unfold heard
  induction contacts using List.reverseRecOn generalizing r with
  | nil => exact start r
  | append_singleton rest c ih =>
    unfold exchange at ih ⊢
    rw [List.foldl_append, List.foldl_append]
    simp only [List.foldl_cons, List.foldl_nil, contact]
    by_cases receives : r = c.1
    · subst receives
      rw [Function.update_self, Function.update_self]
      exact step c.1 c.2 _ _ _ _ (ih c.1) (ih c.2)
    · rw [Function.update_of_ne receives, Function.update_of_ne receives]
      exact ih r

/-- A merge keeps the content of greater rank, and its own among equals. -/
structure Register [LinearOrder β] (merge : σ → σ → σ) (good : σ → Prop) (rank : σ → β)
    (content : σ → γ) : Prop where
  keeps : ∀ a b, good a → good b → good (merge a b)
  ranks : ∀ a b, good a → good b → rank (merge a b) = rank a ⊔ rank b
  contents : ∀ a b, good a → good b →
    content (merge a b) = if rank a < rank b then content b else content a

/-- Where a register of party `r` stands after it has heard of the parties in `K`. -/
structure Stands [LinearOrder β] (good : σ → Prop) (rank : σ → β) (content : σ → γ)
    (s : ρ → σ) (r : ρ) (t : σ) (K : Set ρ) : Prop where
  sound : good t
  source : ∃ k ∈ K, rank t = rank (s k) ∧ content t = content (s k)
  greatest : ∀ k ∈ K, rank (s k) ≤ rank t
  own : rank t = rank (s r) → content t = content (s r)
  member : r ∈ K

variable [LinearOrder β] {rank : σ → β} {content : σ → γ}

theorem Register.stands (register : Register merge good rank content) {s : ρ → σ}
    (standing : ∀ r, good (s r)) (contacts : List (ρ × ρ)) (r : ρ) :
    Stands good rank content s r (exchange merge s contacts r) (heard contacts r) := by
  refine exchange_induction (Stands good rank content s) (fun r => ?_) ?_ contacts r
  · refine ⟨standing r, ⟨r, rfl, rfl, rfl⟩, ?_, fun _ => rfl, rfl⟩
    intro k member
    rw [Set.mem_singleton_iff.mp member]
  · intro r r' t t' K K' here there
    have joined := register.ranks t t' here.sound there.sound
    have kept := register.contents t t' here.sound there.sound
    refine ⟨register.keeps t t' here.sound there.sound, ?_, ?_, ?_, Or.inl here.member⟩
    · by_cases above : rank t < rank t'
      · obtain ⟨k, member, same, payload⟩ := there.source
        rw [if_pos above] at kept
        exact ⟨k, Or.inr member, by rw [joined, sup_eq_right.mpr above.le, same], kept.trans payload⟩
      · obtain ⟨k, member, same, payload⟩ := here.source
        rw [if_neg above] at kept
        exact ⟨k, Or.inl member, by rw [joined, sup_eq_left.mpr (not_lt.mp above), same],
          kept.trans payload⟩
    · intro k member
      rw [joined]
      rcases member with member | member
      · exact (here.greatest k member).trans le_sup_left
      · exact (there.greatest k member).trans le_sup_right
    · intro reached
      rw [joined] at reached
      have own := here.greatest r here.member
      have not_above : ¬rank t < rank t' := by
        intro above
        rw [sup_eq_right.mpr above.le] at reached
        exact absurd (own.trans_lt above) (by rw [reached]; exact lt_irrefl _)
      rw [sup_eq_left.mpr (not_lt.mp not_above)] at reached
      rw [kept, if_neg not_above]
      exact here.own reached

/-- Once everyone has heard of everyone, all registers hold `p` exactly when whatever
else was held is of lower rank than some `p` that was held. -/
theorem Register.agree_iff (register : Register merge good rank content) {s : ρ → σ}
    (standing : ∀ r, good (s r)) {contacts : List (ρ × ρ)}
    (complete : ∀ r k, k ∈ heard contacts r) (p : γ) :
    (∀ r, content (exchange merge s contacts r) = p) ↔
      ∀ r, content (s r) ≠ p → ∃ k, content (s k) = p ∧ rank (s r) < rank (s k) := by
  constructor
  · intro agreed r differs
    have stands := register.stands standing contacts r
    obtain ⟨k, -, same, payload⟩ := stands.source
    refine ⟨k, payload.symm.trans (agreed r), lt_of_le_of_ne ?_ ?_⟩
    · rw [← same]
      exact stands.greatest r stands.member
    · intro tied
      exact differs ((stands.own (same.trans tied.symm)).symm.trans (agreed r))
  · intro outranked r
    have stands := register.stands standing contacts r
    obtain ⟨k, -, same, payload⟩ := stands.source
    by_contra differs
    rw [payload] at differs
    obtain ⟨j, -, above⟩ := outranked k differs
    have below := stands.greatest j (complete r j)
    rw [same] at below
    exact absurd above (not_lt.mpr below)

/-- What a merge holds when one of the sides does, a party holds when one it has heard
of did. -/
theorem exchange_any {holds : σ → Prop} (keeps : ∀ a b, good a → good b → good (merge a b))
    (either : ∀ a b, good a → good b → (holds (merge a b) ↔ holds a ∨ holds b)) {s : ρ → σ}
    (standing : ∀ r, good (s r)) (contacts : List (ρ × ρ)) (r : ρ) :
    good (exchange merge s contacts r) ∧
      (holds (exchange merge s contacts r) ↔ ∃ k ∈ heard contacts r, holds (s k)) := by
  refine exchange_induction (fun _ t K => good t ∧ (holds t ↔ ∃ k ∈ K, holds (s k)))
    (fun r => ⟨standing r, by simp⟩) ?_ contacts r
  intro r r' t t' K K' ⟨here, mine⟩ ⟨there, theirs⟩
  refine ⟨keeps t t' here there, ?_⟩
  rw [either t t' here there, mine, theirs]
  constructor
  · rintro (⟨k, member, held⟩ | ⟨k, member, held⟩)
    · exact ⟨k, Or.inl member, held⟩
    · exact ⟨k, Or.inr member, held⟩
  · rintro ⟨k, member | member, held⟩
    · exact Or.inl ⟨k, member, held⟩
    · exact Or.inr ⟨k, member, held⟩

end OpenOntology.Library
