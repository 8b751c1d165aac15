import OpenOntology.Resolution.Idempotency

/-!
# Attempts at one message

`processWithRetry` gives a message up to `MaxAttempts` attempts and dead-letters it when
they fail. Every attempt asks the idempotency filter again, so a claim that a failed
attempt leaves behind meets the next one.
-/
namespace OpenOntology.Resolution

open Crdt Replica

/-- The backoff after an attempt, counted from zero, in 64-bit nanoseconds. -/
def backoff (base : Duration) (attempt : ℕ) : Duration :=
  min ((base * ((2 : Int) ^ attempt).bmod (2 ^ 64)).bmod (2 ^ 64)) 5000000000

section
variable {σ : Type} (cancelled contextual : ℕ → Bool) (base : Duration)
  (op : ℕ → σ → σ × Option String)

/-- The loop of `withRetry`. `cancelled` is the state of the context at the head of each
attempt, `contextual` whether the error of an attempt is a context error. Nothing comes
out when the jitter panics on a backoff that is not positive. -/
def withRetryFrom : ℕ → ℕ → Option String → σ → Option (σ × Option String)
  | _, 0, lastErr, s => some (s, lastErr)
  | attempt, left + 1, lastErr, s =>
    if cancelled attempt then some (s, some (lastErr.getD "context canceled"))
    else
      match op attempt s with
      | (s, none) => some (s, none)
      | (s, some err) =>
        if contextual attempt then some (s, some err)
        else if left = 0 then some (s, some err)
        else if backoff base attempt ≤ 0 then none
        else withRetryFrom (attempt + 1) left (some err) s

def withRetry (attempts : ℕ) (s : σ) : Option (σ × Option String) :=
  withRetryFrom cancelled contextual base op 0 attempts none s

/-- The state before an attempt, when all before it are made. -/
def before (s : σ) : ℕ → σ
  | 0 => s
  | attempt + 1 => (op attempt (before s attempt)).1

/-- The attempt whose outcome the loop returns. -/
structure LastAttempt (s : σ) (attempts n : ℕ) : Prop where
  allowed : n < attempts
  retried : ∀ m < n, (op m (before op s m)).2 ≠ none ∧ contextual m = false
  given_up : (op n (before op s n)).2 ≠ none → contextual n = true ∨ n + 1 = attempts

variable {cancelled contextual base op}

theorem withRetryFrom_last {s final : σ} {err lastErr : Option String} (attempts left n : ℕ)
    (alive : ∀ m < attempts, cancelled m = false) (enough : n + left = attempts)
    (some_left : 0 < left)
    (retried : ∀ m < n, (op m (before op s m)).2 ≠ none ∧ contextual m = false)
    (ran : withRetryFrom cancelled contextual base op n left lastErr (before op s n) =
      some (final, err)) :
    ∃ k, LastAttempt contextual op s attempts k ∧ (final, err) = op k (before op s k) := by
  induction left generalizing n lastErr with
  | zero => exact absurd some_left (Nat.lt_irrefl 0)
  | succ left ih =>
    have allowed : n < attempts := by omega
    unfold withRetryFrom at ran
    rw [alive n allowed, if_neg Bool.noConfusion] at ran
    cases outcome : op n (before op s n) with
    | mk next failure =>
      have here : (op n (before op s n)).2 = failure := by rw [outcome]
      rw [outcome] at ran
      cases failure with
      | none =>
        dsimp only at ran
        cases ran
        exact ⟨n, ⟨allowed, retried, fun failed => absurd here failed⟩, outcome.symm⟩
      | some failure =>
        dsimp only at ran
        by_cases of_context : contextual n = true
        · rw [if_pos of_context] at ran
          cases ran
          exact ⟨n, ⟨allowed, retried, fun _ => Or.inl of_context⟩, outcome.symm⟩
        rw [if_neg of_context] at ran
        by_cases none_left : left = 0
        · rw [if_pos none_left] at ran
          cases ran
          exact ⟨n, ⟨allowed, retried, fun _ => Or.inr (by omega)⟩, outcome.symm⟩
        rw [if_neg none_left] at ran
        split at ran
        next => cases ran
        next =>
          have reached : before op s (n + 1) = next := congrArg Prod.fst outcome
          rw [← reached] at ran
          refine ih (n + 1) (by omega) (by omega) ?_ ran
          intro m earlier
          rcases Nat.lt_succ_iff_lt_or_eq.mp earlier with before_n | rfl
          · exact retried m before_n
          · rw [here]
            exact ⟨Option.some_ne_none failure, Bool.eq_false_of_not_eq_true of_context⟩

theorem withRetry_last {s final : σ} {err : Option String} {attempts : ℕ} (some_left : 0 < attempts)
    (alive : ∀ m < attempts, cancelled m = false)
    (ran : withRetry cancelled contextual base op attempts s = some (final, err)) :
    ∃ n, LastAttempt contextual op s attempts n ∧ (final, err) = op n (before op s n) :=
  withRetryFrom_last attempts attempts 0 alive (Nat.zero_add _) some_left
    (fun m below => absurd below (Nat.not_lt_zero m)) ran

/-- An attempt that succeeds, after attempts that were all retried, is the last one. -/
theorem LastAttempt.unique {s : σ} {attempts n k : ℕ} (last : LastAttempt contextual op s attempts n)
    (allowed : k < attempts) (succeeded : (op k (before op s k)).2 = none)
    (retried : ∀ m < k, (op m (before op s m)).2 ≠ none ∧ contextual m = false) : n = k := by
  rcases Nat.lt_trichotomy n k with earlier | same | later
  · obtain ⟨failed, not_contextual⟩ := retried n earlier
    rcases last.given_up failed with of_context | used_up
    · rw [not_contextual] at of_context
      cases of_context
    · omega
  · exact same
  · exact absurd succeeded (last.retried k later).1

end

/-- The environment of one attempt: what became of the claim since the attempt before it,
how the calls come out, and whether the error that ends it is a context error. -/
structure Trial where
  calls : Attempt
  lapsed : Bool := false
  taken : Bool := false
  setNX : Reply := .answered
  expired : Bool := false
  del : Reply := .answered
  contextual : Bool := false

/-- The engine, the claims in Redis, and whether some attempt evaluated its event to the
end. -/
structure Intake where
  engine : Engine
  claims : Claims
  completed : Bool := false

/-- Before an attempt the claim may have expired, and another delivery may hold it. -/
def Trial.elapse (t : Trial) (claims : Claims) : Option String → Claims
  | none => claims
  | some key =>
    let left := if t.lapsed then claims.erase key else claims
    if t.taken then left.insert key else left

/-- What an idempotency filter and a message make of one attempt. -/
structure Setting where
  filter : IdempotencyConfig
  md5 : String → String
  toLower : Char → Char
  table : CaseTable
  msg : Option TelemetryEvent

namespace Intake
variable (c : Setting)

/-- One call of `process`, from the filter to the release of the claim. -/
def attempt (t : Trial) (s : Intake) : Intake × Option String :=
  match Engine.validated c.toLower c.msg with
  | none =>
    let done := s.engine.deliver c.toLower c.table t.calls c.msg
    ({ s with engine := done.1 }, done.2)
  | some ev =>
    let claims := t.elapse s.claims (c.filter.key c.md5 ev)
    let (claims, admission) := c.filter.admitEvent c.md5 claims ev t.setNX t.expired
    let calls := { t.calls with replies := { t.calls.replies with admission } }
    let done := s.engine.deliver c.toLower c.table calls c.msg
    if admission ≠ .admitted then ({ s with engine := done.1, claims }, done.2)
    else
      match done.2 with
      | none => ({ engine := done.1, claims, completed := true }, none)
      | some err =>
        ({ s with engine := done.1, claims := c.filter.releaseEvent c.md5 claims ev t.del },
          some err)

/-- `processWithRetry`; the state of the context after the attempts is `cancelled` at
`maxAttempts`. -/
def processWithRetry (cancelled : ℕ → Bool) (maxAttempts : ℕ) (trials : ℕ → Trial) (s : Intake) :
    Option Intake :=
  let contextual := fun n => (trials n).contextual
  match withRetry cancelled contextual 200000000 (fun n => attempt c (trials n)) maxAttempts s with
  | none => none
  | some (s, none) => some s
  | some (s, some _) =>
    if cancelled maxAttempts then some s
    else
      let deadLetters := "processing_failed" :: s.engine.deadLetters
      some { s with engine := { s.engine with deadLetters } }

end Intake

namespace Engine

/-- The reading is current and its evaluation makes a transition. -/
def Emits (e : Engine) (r : Replies) (ev : TelemetryEvent) : Prop :=
  (e.cache.apply ev r.ingestedAt).2.fresh = true ∧
    ∃ eval t, e.rules.evaluate ev = some eval ∧
      (e.tracker.evaluate ev.cacheKey eval r.now).2.1 = some t

/-- A call that the admitted event depends on fails. -/
def Fails (e : Engine) (r : Replies) (ev : TelemetryEvent) : Prop :=
  r.apply = false ∨ (e.Emits r ev ∧ (r.mark = false ∨ r.emit = false))

/-- Every call that publishing the event's mutation takes succeeds. -/
structure Publishes (e : Engine) (r : Replies) (ev : TelemetryEvent) : Prop where
  applied : r.apply = true
  emits : e.Emits r ev
  marked : r.mark = true
  sent : r.emit = true

/-- The mutation reaches the topic although its write reports an error. -/
structure Lands (e : Engine) (a : Attempt) (ev : TelemetryEvent) : Prop where
  publishes : e.Publishes { a.replies with emit := true } ev
  unanswered : a.replies.emit = false
  sent : a.mutationSent = true

/-- What a failed attempt leaves of the engine: the rules, the tracker, and whether the
event is still current. -/
structure Retains (e after : Engine) (ev : TelemetryEvent) : Prop where
  rules : after.rules = e.rules
  tracker : after.tracker = e.tracker
  fresh : ∀ now, (after.cache.apply ev now).2.fresh = (e.cache.apply ev now).2.fresh

variable {e after later : Engine} {ev : TelemetryEvent}

theorem Retains.trans (first : e.Retains after ev) (second : after.Retains later ev) :
    e.Retains later ev :=
  ⟨second.rules.trans first.rules, second.tracker.trans first.tracker,
    fun now => (second.fresh now).trans (first.fresh now)⟩

theorem Retains.emits (retains : e.Retains after ev) (r : Replies) :
    after.Emits r ev ↔ e.Emits r ev := by
  unfold Emits
  rw [retains.rules, retains.tracker, retains.fresh]

theorem Retains.fails (retains : e.Retains after ev) (r : Replies) :
    after.Fails r ev ↔ e.Fails r ev := by
  unfold Fails
  rw [retains.emits]

theorem Retains.lands (retains : e.Retains after ev) (a : Attempt) :
    after.Lands a ev ↔ e.Lands a ev := by
  have publishes : after.Publishes { a.replies with emit := true } ev ↔
      e.Publishes { a.replies with emit := true } ev := by
    constructor
    · intro publishes
      exact { publishes with emits := (retains.emits _).mp publishes.emits }
    · intro publishes
      exact { publishes with emits := (retains.emits _).mpr publishes.emits }
  constructor
  · intro lands
    exact { lands with publishes := publishes.mp lands.publishes }
  · intro lands
    exact { lands with publishes := publishes.mpr lands.publishes }

/-- Whether a reading is current depends on the instant its twin holds, which writing the
reading itself does not carry past it. -/
theorem fresh_of_twins {c c' : StateCache} (ev : TelemetryEvent) (now : Time)
    (either : c'.twins = c.twins ∨ c'.twins = (c.apply ev now).1.twins) (at_ : Time) :
    (c'.apply ev at_).2.fresh = (c.apply ev at_).2.fresh := by
  have stale : (c'.apply ev at_).2.fresh = false ↔ (c.apply ev at_).2.fresh = false := by
    rw [apply_stale_iff, apply_stale_iff]
    rcases either with same | written
    · rw [observedAt_congr same]
    · rw [observedAt_congr written, apply_observedAt, if_pos rfl]
      cases c.observedAt ev.cacheKey with
      | none => simp
      | some held => simp
  cases fresh : (c.apply ev at_).2.fresh with
  | false => exact stale.mpr fresh
  | true =>
    refine Bool.eq_true_of_not_eq_false fun refused => ?_
    rw [stale.mp refused] at fresh
    cases fresh

theorem handle_fails_iff (table : CaseTable) (e : Engine) (r : Replies) (ev : TelemetryEvent) :
    (e.handle table r ev).2 ≠ none ↔ e.Fails r ev := by
  have course := handle_course table e r ev
  generalize e.handle table r ev = done at course ⊢
  unfold Fails Emits
  cases course with
  | unapplied failed => simp [failed]
  | stale applied stale => simp [applied, stale]
  | ungoverned applied fresh verdict => simp [applied, verdict]
  | absorbed applied fresh eval verdict silent => simp [applied, verdict, silent]
  | unmarked applied fresh eval t verdict emits unmarked =>
    simp [fresh, verdict, emits, unmarked]
  | unsent applied fresh eval t verdict emits marked unsent => simp [fresh, verdict, emits, unsent]
  | published applied fresh eval t verdict emits marked sent => simp [applied, marked, sent]

theorem handle_deadLetters (table : CaseTable) (e : Engine) (r : Replies) (ev : TelemetryEvent) :
    (e.handle table r ev).1.deadLetters = e.deadLetters := by
  have course := handle_course table e r ev
  generalize e.handle table r ev = done at course ⊢
  cases course <;> rfl

theorem handle_publishes {r : Replies} (table : CaseTable) (publishes : e.Publishes r ev) :
    ∃ p, (e.handle table r ev).1.mutations = p :: e.mutations := by
  obtain ⟨applied, ⟨fresh, eval, t, verdict, emits⟩, marked, sent⟩ := publishes
  have course := handle_course table e r ev
  generalize e.handle table r ev = done at course ⊢
  cases course with
  | published => exact ⟨_, rfl⟩
  | unapplied failed => simp [applied] at failed
  | stale _ stale => simp [fresh] at stale
  | ungoverned _ _ ungoverned => simp [verdict] at ungoverned
  | absorbed _ _ eval' verdict' silent =>
    rw [verdict] at verdict'
    cases verdict'
    simp [emits] at silent
  | unmarked _ _ _ _ _ _ unmarked => simp [marked] at unmarked
  | unsent _ _ _ _ _ _ _ unsent => simp [sent] at unsent

theorem handle_unpublished {r : Replies} (table : CaseTable) (silent : ¬e.Publishes r ev) :
    (e.handle table r ev).1.mutations = e.mutations := by
  have course := handle_course table e r ev
  generalize e.handle table r ev = done at course ⊢
  cases course with
  | published applied fresh eval t verdict emits marked sent =>
    exact absurd ⟨applied, ⟨fresh, eval, t, verdict, emits⟩, marked, sent⟩ silent
  | unapplied => rfl
  | stale => rfl
  | ungoverned => rfl
  | absorbed => rfl
  | unmarked => rfl
  | unsent => rfl

theorem Fails.not_publishes {r : Replies} (fails : e.Fails r ev) : ¬e.Publishes r ev := by
  intro publishes
  rcases fails with unapplied | ⟨-, unmarked | unsent⟩
  · simp [publishes.applied] at unapplied
  · simp [publishes.marked] at unmarked
  · simp [publishes.sent] at unsent

section
variable {toLower : Char → Char} {msg : Option TelemetryEvent} {a : Attempt} (table : CaseTable)

theorem deliver_error (carried : validated toLower msg = some ev)
    (admitted : a.replies.admission = .admitted) :
    (e.deliver toLower table a msg).2 = (e.handle table a.replies ev).2 := by
  have delivers := deliver_delivers table e a carried admitted
  generalize e.deliver toLower table a msg = done at delivers ⊢
  cases delivers with
  | handled => rfl
  | written failed =>
    unfold handle
    rw [if_pos failed]
  | sent => rfl

theorem deliver_deadLetters (carried : validated toLower msg = some ev)
    (admitted : a.replies.admission = .admitted) :
    (e.deliver toLower table a msg).1.deadLetters = e.deadLetters := by
  have delivers := deliver_delivers table e a carried admitted
  generalize e.deliver toLower table a msg = done at delivers ⊢
  cases delivers with
  | handled => exact handle_deadLetters table e a.replies ev
  | written => rfl
  | sent => exact handle_deadLetters table e a.replies ev

theorem deliver_mutations (carried : validated toLower msg = some ev)
    (admitted : a.replies.admission = .admitted) (fails : e.Fails a.replies ev) :
    (e.Lands a ev → ∃ p, (e.deliver toLower table a msg).1.mutations = p :: e.mutations) ∧
      (¬e.Lands a ev → (e.deliver toLower table a msg).1.mutations = e.mutations) := by
  have kept := handle_unpublished table fails.not_publishes
  have delivers := deliver_delivers table e a carried admitted
  generalize e.deliver toLower table a msg = done at delivers ⊢
  cases delivers with
  | handled plain =>
    have grounded : ¬e.Lands a ev := fun lands =>
      plain lands.publishes.applied ⟨lands.unanswered, lands.sent⟩
    exact ⟨fun lands => absurd lands grounded, fun _ => kept⟩
  | written failed =>
    refine ⟨fun lands => ?_, fun _ => rfl⟩
    have applied : a.replies.apply = true := lands.publishes.applied
    simp [applied] at failed
  | sent unanswered reached =>
    refine ⟨fun lands => handle_publishes table lands.publishes, fun grounded => ?_⟩
    exact handle_unpublished table fun publishes => grounded ⟨publishes, unanswered, reached⟩

/-- A failed delivery leaves the event as current as it was, and the tracker as it was. -/
theorem deliver_retains (carried : validated toLower msg = some ev)
    (admitted : a.replies.admission = .admitted) (fails : e.Fails a.replies ev) :
    e.Retains (e.deliver toLower table a msg).1 ev := by
  have comes := deliver_comes table e a carried admitted
  have failed := (handle_fails_iff table e a.replies ev).mpr fails
  rw [← deliver_error table carried admitted] at failed
  have rules := deliver_rules table e a carried admitted
  generalize e.deliver toLower table a msg = done at comes failed rules ⊢
  obtain ⟨after, err⟩ := done
  dsimp only at comes failed rules ⊢
  generalize twins_eq : after.cache.twins = twins at comes
  generalize tracker_eq : after.tracker = tracker at comes
  cases comes with
  | unapplied twins err unapplied either =>
    subst twins_eq
    exact ⟨rules, tracker_eq, fun now => fresh_of_twins ev a.replies.ingestedAt either now⟩
  | withdrawn err =>
    exact ⟨rules, tracker_eq, fun now => fresh_of_twins ev a.replies.ingestedAt (Or.inr twins_eq) now⟩
  | passed => exact absurd rfl failed
  | evaluated => exact absurd rfl failed

end
end Engine
end OpenOntology.Resolution
