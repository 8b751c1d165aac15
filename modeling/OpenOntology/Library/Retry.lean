import Mathlib.Data.Nat.Basic

/-!
# Bounded retries

An operation is attempted until it succeeds, fails in a way that is not worth another
attempt, or has been attempted as often as allowed. The result is the outcome of the last
attempt made, and every attempt before it failed in a way worth another one.
-/
namespace OpenOntology.Library

variable {ε α : Type*} (again : ε → Bool) (op : ℕ → Except ε α)

/-- Attempt number `n`, with `left` more attempts allowed after it. -/
def retryFrom : ℕ → ℕ → Except ε α
  | n, 0 => op n
  | n, left + 1 =>
    match op n with
    | .ok a => .ok a
    | .error e => if again e then retryFrom (n + 1) left else .error e

/-- The attempts are numbered from one. -/
def retry (attempts : ℕ) : Except ε α := retryFrom again op 1 (attempts - 1)

/-- The attempt `n + i` decides: all before it failed and were worth another. -/
structure Decides (n left i : ℕ) : Prop where
  allowed : i ≤ left
  failed : ∀ j < i, ∃ e, op (n + j) = .error e ∧ again e = true
  last : ∀ e, op (n + i) = .error e → again e = true → i = left

variable {again op}

theorem Decides.later {n left i : ℕ} {e : ε} (decides : Decides again op (n + 1) left i)
    (failed : op n = .error e) (worth : again e = true) : Decides again op n (left + 1) (i + 1) := by
  refine ⟨Nat.succ_le_succ decides.allowed, ?_, ?_⟩
  · intro j below
    cases j with
    | zero => exact ⟨e, failed, worth⟩
    | succ j =>
      have before := decides.failed j (Nat.lt_of_succ_lt_succ below)
      rwa [Nat.add_assoc, Nat.add_comm 1 j] at before
  · intro e' failed' worth'
    refine congrArg Nat.succ (decides.last e' ?_ worth')
    rwa [Nat.add_assoc, Nat.add_comm 1 i]

/-- The result is the outcome of the attempt that decides. -/
theorem retryFrom_decides (n left : ℕ) :
    ∃ i, Decides again op n left i ∧ retryFrom again op n left = op (n + i) := by
  induction left generalizing n with
  | zero =>
    refine ⟨0, ⟨le_rfl, ?_, fun _ _ _ => rfl⟩, rfl⟩
    intro j below
    exact absurd below (Nat.not_lt_zero j)
  | succ left ih =>
    have here : (∀ e, op n = .error e → again e = false) → Decides again op n (left + 1) 0 := by
      intro final
      refine ⟨Nat.zero_le _, fun j below => absurd below (Nat.not_lt_zero j), ?_⟩
      intro e failed worth
      rw [final e failed] at worth
      cases worth
    unfold retryFrom
    cases outcome : op n with
    | ok a =>
      refine ⟨0, here ?_, outcome.symm⟩
      intro e failed
      rw [outcome] at failed
      cases failed
    | error e =>
      cases worth : again e with
      | false =>
        refine ⟨0, here ?_, ?_⟩
        · intro e' failed
          rw [outcome] at failed
          cases failed
          exact worth
        · simp [worth, outcome]
      | true =>
        obtain ⟨i, decides, same⟩ := ih (n + 1)
        refine ⟨i + 1, decides.later outcome worth, ?_⟩
        rw [Nat.add_assoc, Nat.add_comm 1 i] at same
        simpa [worth] using same

theorem retry_decides (attempts : ℕ) :
    ∃ i, Decides again op 1 (attempts - 1) i ∧ retry again op attempts = op (1 + i) :=
  retryFrom_decides 1 (attempts - 1)

/-- A failure that is not worth another attempt ends the retries where it occurs. -/
theorem retryFrom_of_final {n : ℕ} {e : ε} (left : ℕ) (failed : op n = .error e)
    (final : again e = false) : retryFrom again op n left = .error e := by
  cases left with
  | zero => exact failed
  | succ left =>
    unfold retryFrom
    rw [failed]
    simp only [final, Bool.false_eq_true, if_false]

theorem retryFrom_of_ok {n : ℕ} {a : α} (left : ℕ) (succeeded : op n = .ok a) :
    retryFrom again op n left = .ok a := by
  cases left with
  | zero => exact succeeded
  | succ left =>
    unfold retryFrom
    rw [succeeded]

/-! ## The attempts that are made -/

section
variable (again : ε → Bool) (op : ℕ → Except ε α)

def attemptedFrom : ℕ → ℕ → List ℕ
  | n, 0 => [n]
  | n, left + 1 =>
    n :: match op n with
      | .ok _ => []
      | .error e => if again e then attemptedFrom (n + 1) left else []

/-- The numbers of the attempts. -/
def attempted (attempts : ℕ) : List ℕ := attemptedFrom again op 1 (attempts - 1)

end

/-- A success is the outcome of one of the attempts made. -/
theorem retryFrom_ok_attempted {n left : ℕ} {a : α} (succeeded : retryFrom again op n left = .ok a) :
    ∃ m ∈ attemptedFrom again op n left, op m = .ok a := by
  induction left generalizing n with
  | zero => exact ⟨n, List.mem_singleton_self n, succeeded⟩
  | succ left ih =>
    unfold retryFrom at succeeded
    cases outcome : op n with
    | ok b =>
      rw [outcome] at succeeded
      exact ⟨n, List.mem_cons_self, outcome.trans succeeded⟩
    | error e =>
      rw [outcome] at succeeded
      cases worth : again e with
      | false => simp [worth] at succeeded
      | true =>
        simp only [worth, if_true] at succeeded
        obtain ⟨m, made, same⟩ := ih succeeded
        refine ⟨m, ?_, same⟩
        simp [attemptedFrom, outcome, worth, made]

/-- Where every attempt fails and is worth another, all that are allowed are made. -/
theorem mem_attemptedFrom_of_failed {n left : ℕ}
    (failed : ∀ m, n ≤ m → m ≤ n + left → ∃ e, op m = .error e ∧ again e = true) (m : ℕ) :
    m ∈ attemptedFrom again op n left ↔ n ≤ m ∧ m ≤ n + left := by
  induction left generalizing n with
  | zero =>
    simp only [attemptedFrom, List.mem_singleton]
    omega
  | succ left ih =>
    obtain ⟨e, first, worth⟩ := failed n le_rfl (by omega)
    have later : m ∈ attemptedFrom again op (n + 1) left ↔ n + 1 ≤ m ∧ m ≤ n + 1 + left :=
      ih fun m low high => failed m (by omega) (by omega)
    simp only [attemptedFrom, first, worth, if_true, List.mem_cons, later]
    omega

end OpenOntology.Library
