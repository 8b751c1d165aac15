import OpenOntology.Resolution.Attempts

/-!
# What `withRetry` owes its callers

The operation is called until it succeeds, ends in a context error, or was called as often as
allowed. Between two calls the loop draws its jitter from a backoff that doubles in 64 bits.
-/
namespace OpenOntology.Resolution

/-! ## The backoff -/

theorem backoff_le (base : Duration) (attempt : ℕ) : backoff base attempt ≤ 5000000000 :=
  Int.min_le_right _ _

/-- Below the overflow the delay is the power of two that the loop means. -/
theorem backoff_eq {base : Duration} {attempt : ℕ} (positive : 0 < base)
    (roomy : base * 2 ^ attempt < 2 ^ 63) :
    backoff base attempt = min (base * 2 ^ attempt) 5000000000 := by
  have power : (0 : Int) < 2 ^ attempt := Int.pow_pos (by decide)
  have small : (2 : Int) ^ attempt < 2 ^ 63 :=
    lt_of_le_of_lt (le_mul_of_one_le_left (le_of_lt power) positive) roomy
  have scaled : (0 : Int) < base * 2 ^ attempt := Int.mul_pos positive power
  have shifted : ((2 : Int) ^ attempt).bmod (2 ^ 64) = 2 ^ attempt :=
    Int.bmod_eq_of_le (by omega) (by omega)
  have unscaled : (base * 2 ^ attempt).bmod (2 ^ 64) = base * 2 ^ attempt :=
    Int.bmod_eq_of_le (le_trans (by decide) (le_of_lt scaled)) (lt_of_lt_of_eq roomy (by decide))
  unfold backoff
  rw [shifted, unscaled]

theorem backoff_pos {base : Duration} {attempt : ℕ} (positive : 0 < base)
    (roomy : base * 2 ^ attempt < 2 ^ 63) : 0 < backoff base attempt := by
  rw [backoff_eq positive roomy]
  exact lt_min (Int.mul_pos positive (Int.pow_pos (by decide))) (by decide)

/-! ## The calls -/

section
variable {σ : Type} (op : ℕ → σ → σ × Option String)

/-- The operation with the number of its calls. -/
def counted (attempt : ℕ) (s : σ × ℕ) : (σ × ℕ) × Option String :=
  let (next, err) := op attempt s.1
  ((next, s.2 + 1), err)

theorem before_counted (s : σ) (calls n : ℕ) :
    before (counted op) (s, calls) n = (before op s n, calls + n) := by
  induction n with
  | zero => rfl
  | succ n ih =>
    unfold before
    rw [ih]
    rfl

theorem counted_outcome (s : σ) (n : ℕ) :
    counted op n (before (counted op) (s, 0) n) =
      ((before op s (n + 1), n + 1), (op n (before op s n)).2) := by
  rw [before_counted, Nat.zero_add]
  rfl

variable (contextual : ℕ → Bool)

/-- An attempt after which another one is due. -/
structure Retried (s : σ) (attempts m : ℕ) : Prop where
  more : m + 1 < attempts
  failed : ∀ k ≤ m, (op k (before op s k)).2 ≠ none ∧ contextual k = false

variable {op contextual} {cancelled : ℕ → Bool} {base : Duration} {s : σ} {attempts : ℕ}

/-- The loop from attempt `n` on, when no delay that it draws has overflown. -/
theorem withRetryFrom_ends (alive : ∀ m < attempts, cancelled m = false)
    (delays : ∀ m, Retried op contextual s attempts m → 0 < backoff base m) (left n : ℕ)
    (enough : n + left = attempts) (some_left : 0 < left)
    (retried : ∀ m < n, (op m (before op s m)).2 ≠ none ∧ contextual m = false)
    (lastErr : Option String) :
    ∃ k, LastAttempt contextual op s attempts k ∧
      withRetryFrom cancelled contextual base op n left lastErr (before op s n) =
        some (op k (before op s k)) := by
  induction left generalizing n lastErr with
  | zero => exact absurd some_left (Nat.lt_irrefl 0)
  | succ left ih =>
    have allowed : n < attempts := by omega
    unfold withRetryFrom
    rw [alive n allowed, if_neg Bool.false_ne_true]
    cases outcome : op n (before op s n) with
    | mk next failure =>
      have here : (op n (before op s n)).2 = failure := by rw [outcome]
      cases failure with
      | none => exact ⟨n, ⟨allowed, retried, fun failed => absurd here failed⟩, by rw [outcome]⟩
      | some err =>
        dsimp only
        by_cases of_context : contextual n = true
        · rw [if_pos of_context]
          exact ⟨n, ⟨allowed, retried, fun _ => Or.inl of_context⟩, by rw [outcome]⟩
        rw [if_neg of_context]
        by_cases none_left : left = 0
        · rw [if_pos none_left]
          exact ⟨n, ⟨allowed, retried, fun _ => Or.inr (by omega)⟩, by rw [outcome]⟩
        have due : Retried op contextual s attempts n := by
          refine ⟨by omega, fun k upto => ?_⟩
          rcases Nat.lt_or_eq_of_le upto with earlier | rfl
          · exact retried k earlier
          · rw [here]
            exact ⟨Option.some_ne_none err, Bool.eq_false_of_not_eq_true of_context⟩
        rw [if_neg none_left, if_neg (not_le.mpr (delays n due))]
        have reached : before op s (n + 1) = next := congrArg Prod.fst outcome
        rw [← reached]
        exact ih (n + 1) (by omega) (by omega)
          (fun m earlier => due.failed m (Nat.le_of_lt_succ earlier)) (some err)

/-- While its context is alive, `withRetry` calls the operation until it succeeds, fails with a
context error, or was called `attempts` times, as long as the delays fit 64 bits. -/
theorem withRetry_keeps_contract (alive : ∀ m < attempts, cancelled m = false)
    (some_left : 0 < attempts) (positive : 0 < base)
    (roomy : ∀ m, Retried op contextual s attempts m → base * 2 ^ m < 2 ^ 63) :
    ∃ n, LastAttempt contextual op s attempts n ∧
      withRetry cancelled contextual base (counted op) attempts (s, 0) =
        some ((before op s (n + 1), n + 1), (op n (before op s n)).2) ∧
      ∀ m < n, 0 < backoff base m ∧ backoff base m ≤ 5000000000 := by
  have outcomes : ∀ n, (counted op n (before (counted op) (s, 0) n)).2 = (op n (before op s n)).2 :=
    fun n => congrArg Prod.snd (counted_outcome op s n)
  have delays : ∀ m, Retried (counted op) contextual (s, 0) attempts m → 0 < backoff base m := by
    intro m due
    refine backoff_pos positive (roomy m ⟨due.more, fun k upto => ?_⟩)
    rw [← outcomes k]
    exact due.failed k upto
  obtain ⟨n, last, ended⟩ := withRetryFrom_ends alive delays attempts 0 (Nat.zero_add _) some_left
    (fun m below => absurd below (Nat.not_lt_zero m)) none
  have last_op : LastAttempt contextual op s attempts n := by
    refine ⟨last.allowed, fun m below => ?_, fun failed => last.given_up ?_⟩
    · rw [← outcomes m]
      exact last.retried m below
    · rw [outcomes n]
      exact failed
  refine ⟨n, last_op, ended.trans (congrArg some (counted_outcome op s n)), fun m below => ?_⟩
  refine ⟨backoff_pos positive (roomy m ⟨?_, fun k upto => ?_⟩), backoff_le base m⟩
  · have allowed := last_op.allowed
    omega
  · exact last_op.retried k (Nat.lt_of_le_of_lt upto below)

/-- Attempt `n` is the first to succeed, or the last of all. -/
structure UsesUp (op : ℕ → σ → σ × Option String) (s : σ) (attempts n : ℕ) : Prop where
  allowed : n < attempts
  failed : ∀ m < n, (op m (before op s m)).2 ≠ none
  ended : (op n (before op s n)).2 = none ∨ n + 1 = attempts

def timesOut (_ : ℕ) (_ : Unit) : Unit × Option String := ((), some "context deadline exceeded")

/-- The first of two attempts runs into its own timeout, and no other follows. -/
theorem timeout_not_retried :
    withRetry (fun _ => false) (fun _ => true) 200000000 (counted timesOut) 2 ((), 0) =
        some (((), 1), some "context deadline exceeded") ∧
      ¬UsesUp timesOut () 2 0 := by
  refine ⟨rfl, fun uses_up => ?_⟩
  rcases uses_up.ended with succeeded | last
  · cases succeeded
  · omega

def secondTime (attempt : ℕ) (_ : Unit) : Unit × Option String :=
  ((), if attempt = 1 then none else some "EOF")

theorem withRetry_keeps_contract_secondTime :
    ∃ n, LastAttempt (fun _ => false) secondTime () 4 n ∧
      withRetry (fun _ => false) (fun _ => false) 200000000 (counted secondTime) 4 ((), 0) =
        some ((before secondTime () (n + 1), n + 1), (secondTime n (before secondTime () n)).2) ∧
      ∀ m < n, 0 < backoff 200000000 m ∧ backoff 200000000 m ≤ 5000000000 := by
  refine withRetry_keeps_contract (fun _ _ => rfl) (by decide) (by decide) fun m due => ?_
  have early : m < 3 := Nat.lt_of_succ_lt_succ due.more
  interval_cases m <;> decide

end
end OpenOntology.Resolution
