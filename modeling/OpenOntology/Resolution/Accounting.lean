import OpenOntology.Resolution.Attempts

/-!
# What becomes of a reading

A reading is accounted for when some attempt evaluates it to the end, its mutation
reaches the topic, or a dead letter is tried for it. `processWithRetry` loses it in one
way only: an attempt is answered that the key is claimed, and takes the claim of an
earlier attempt for that of another delivery.
-/
namespace OpenOntology.Resolution

open Crdt Replica

namespace Trial
variable (filter : IdempotencyConfig) (t : Trial)

/-- Whether the attempt finds the key claimed, when the one before it left it so. -/
def finds (left : Bool) : Bool := (left && !t.lapsed) || t.taken

def admission (claimed : Bool) : Admission := filter.verdict claimed t.setNX t.expired

/-- Whether the attempt leaves the key claimed when it fails: only an admitted attempt
releases it. -/
def leaves (claimed : Bool) : Bool :=
  let held := claimed || t.setNX.takesEffect
  if t.admission filter claimed = .admitted then held && !t.del.takesEffect else held

/-- The attempt fails: the filter is unavailable, or a call of the admitted event fails. -/
def Fails (e : Engine) (ev : TelemetryEvent) (claimed : Bool) : Prop :=
  t.admission filter claimed = .unavailable ∨
    (t.admission filter claimed = .admitted ∧ e.Fails t.calls.replies ev)

/-- The attempt's mutation reaches the topic although its write reports an error. -/
def Lands (e : Engine) (ev : TelemetryEvent) (claimed : Bool) : Prop :=
  t.admission filter claimed = .admitted ∧ e.Lands t.calls ev

variable {filter t}

theorem admission_of_met {claimed : Bool} (answered : t.setNX = .answered) (met : claimed = true) :
    t.admission filter claimed = .duplicate :=
  IdempotencyConfig.verdict_duplicate.mpr ⟨answered, met⟩

theorem not_fails_of_met {e : Engine} {ev : TelemetryEvent} {claimed : Bool}
    (answered : t.setNX = .answered) (met : claimed = true) : ¬t.Fails filter e ev claimed := by
  unfold Fails
  rw [admission_of_met answered met]
  simp

end Trial

/-- Whether the key is claimed when an attempt asks for it. -/
def claimedAt (filter : IdempotencyConfig) (trials : ℕ → Trial) (left : Bool) : ℕ → Bool
  | 0 => (trials 0).finds left
  | n + 1 => (trials (n + 1)).finds ((trials n).leaves filter (claimedAt filter trials left n))

namespace Intake
variable (c : Setting) (trials : ℕ → Trial)

/-- Attempt `n` is answered that the key is claimed; all before it have failed and were
worth another, and none has got its mutation through. -/
structure MeetsClaim (s : Intake) (ev : TelemetryEvent) (key : String) (n : ℕ) : Prop where
  failed : ∀ m < n, (trials m).contextual = false ∧ (trials m).Fails c.filter s.engine ev
    (claimedAt c.filter trials (s.claims.contains key) m)
  unpublished : ∀ m < n, ¬(trials m).Lands c.filter s.engine ev
    (claimedAt c.filter trials (s.claims.contains key) m)
  answered : (trials n).setNX = .answered
  claimed : claimedAt c.filter trials (s.claims.contains key) n = true

def Swallows (maxAttempts : ℕ) (s : Intake) (ev : TelemetryEvent) : Prop :=
  c.filter.enabled = true ∧ ∃ key, c.filter.key c.md5 ev = some key ∧
    ∃ n < maxAttempts, MeetsClaim c trials s ev key n

/-- Some attempt evaluated the event to the end, its mutation reached the topic, or a dead
letter was tried for it. -/
def Accounted (s after : Intake) : Prop :=
  after.completed = true ∨ s.engine.mutations.length < after.engine.mutations.length ∨
    s.engine.deadLetters.length < after.engine.deadLetters.length

end Intake

/-! ## Deliveries that are not admitted -/

namespace Engine
variable {toLower : Char → Char} {msg : Option TelemetryEvent} {ev : TelemetryEvent}

/-- What `process` makes of an event that is not admitted. -/
theorem process_of_carried (table : CaseTable) (e : Engine) (r : Replies)
    (carried : validated toLower msg = some ev) :
    (r.admission = .duplicate → e.process toLower table r msg = (e, none)) ∧
      (r.admission = .unavailable →
        e.process toLower table r msg = (e, some "idempotency filter")) ∧
      (r.admission = .invalidInput → e.process toLower table r msg =
        ({ e with deadLetters := "idempotency_input_invalid" :: e.deadLetters }, none)) := by
  obtain ⟨decoded, valid⟩ := Option.filter_eq_some_iff.mp carried
  obtain ⟨raw, rfl, rfl⟩ := Option.map_eq_some_iff.mp decoded
  unfold process
  dsimp only
  rw [valid, if_neg Bool.noConfusion]
  refine ⟨?_, ?_, ?_⟩
  · intro verdict
    rw [verdict]
  · intro verdict
    rw [verdict]
  · intro verdict
    rw [verdict]

theorem deliver_of_not_admitted (table : CaseTable) (e : Engine) (a : Attempt)
    (carried : validated toLower msg = some ev) (refused : a.replies.admission ≠ .admitted) :
    e.deliver toLower table a msg = e.process toLower table a.replies msg := by
  unfold deliver
  simp only [carried]
  rw [if_pos refused]

/-- Whether the mutation lands does not depend on how the event was admitted. -/
theorem lands_admission (e : Engine) (a : Attempt) (ev : TelemetryEvent) (admission : Admission) :
    e.Lands { a with replies := { a.replies with admission } } ev ↔ e.Lands a ev := by
  constructor
  · intro ⟨⟨applied, emits, marked, sent⟩, unanswered, landed⟩
    exact ⟨⟨applied, emits, marked, sent⟩, unanswered, landed⟩
  · intro ⟨⟨applied, emits, marked, sent⟩, unanswered, landed⟩
    exact ⟨⟨applied, emits, marked, sent⟩, unanswered, landed⟩

end Engine

/-! ## One attempt -/

namespace Intake
variable {c : Setting} {ev : TelemetryEvent} {key : String}

theorem contains_elapse (t : Trial) (claims : Claims) (key : String) :
    (t.elapse claims (some key)).contains key = t.finds (claims.contains key) := by
  unfold Trial.elapse Trial.finds
  cases t.lapsed <;> cases t.taken <;> simp

/-- The claims after an attempt has asked for the key. -/
def asked (t : Trial) (claims : Claims) (key : String) : Claims :=
  ((t.elapse claims (some key)).setNX key t.setNX).1

/-- The calls of an attempt under the filter's verdict. -/
def admitted (filter : IdempotencyConfig) (t : Trial) (claimed : Bool) : Attempt :=
  { t.calls with replies := { t.calls.replies with admission := t.admission filter claimed } }

theorem attempt_eq (t : Trial) (s : Intake) (carried : Engine.validated c.toLower c.msg = some ev)
    (enabled : c.filter.enabled = true) (named : c.filter.key c.md5 ev = some key) :
    attempt c t s =
      let claimed := t.finds (s.claims.contains key)
      let done := s.engine.deliver c.toLower c.table (admitted c.filter t claimed) c.msg
      if t.admission c.filter claimed ≠ .admitted then
        ({ s with engine := done.1, claims := asked t s.claims key }, done.2)
      else
        match done.2 with
        | none => (⟨done.1, asked t s.claims key, true⟩, none)
        | some err =>
          ({ s with engine := done.1, claims := (asked t s.claims key).del key t.del }, some err) := by
  unfold attempt
  simp only [carried, named]
  rw [IdempotencyConfig.admitEvent_eq enabled named, contains_elapse]
  simp only [IdempotencyConfig.releaseEvent_eq enabled named]
  rfl

theorem contains_asked (t : Trial) (claims : Claims) (key : String) :
    (asked t claims key).contains key =
      (t.finds (claims.contains key) || t.setNX.takesEffect) := by
  unfold asked
  rw [IdempotencyConfig.contains_setNX, contains_elapse]

/-- One attempt either ends the retries with no error or fails as the inputs say. -/
inductive Outcome (c : Setting) (e : Engine) (t : Trial) (key : String) (claimed : Bool)
    (ev : TelemetryEvent) (s : Intake) : Intake × Option String → Prop where
  | refused (claims : Claims) (answered : t.setNX = .answered) (met : claimed = true) :
      Outcome c e t key claimed ev s ({ s with claims }, none)
  | completed (after : Intake) (admitted : t.admission c.filter claimed = .admitted)
      (done : after.completed = true) (succeeds : ¬e.Fails t.calls.replies ev) :
      Outcome c e t key claimed ev s (after, none)
  | unavailable (claims : Claims) (err : String)
      (unverified : t.admission c.filter claimed = .unavailable)
      (left : claims.contains key = t.leaves c.filter claimed) :
      Outcome c e t key claimed ev s ({ s with claims }, some err)
  | failed (engine : Engine) (claims : Claims) (err : String)
      (admitted : t.admission c.filter claimed = .admitted) (fails : e.Fails t.calls.replies ev)
      (left : claims.contains key = t.leaves c.filter claimed)
      (retains : s.engine.Retains engine ev)
      (deadLetters : engine.deadLetters = s.engine.deadLetters)
      (landed : e.Lands t.calls ev → ∃ p, engine.mutations = p :: s.engine.mutations)
      (grounded : ¬e.Lands t.calls ev → engine.mutations = s.engine.mutations) :
      Outcome c e t key claimed ev s ({ s with engine, claims }, some err)

theorem attempt_outcome (t : Trial) {e : Engine} {s : Intake}
    (carried : Engine.validated c.toLower c.msg = some ev) (enabled : c.filter.enabled = true)
    (named : c.filter.key c.md5 ev = some key) (retains : e.Retains s.engine ev) :
    Outcome c e t key (t.finds (s.claims.contains key)) ev s (attempt c t s) := by
  rw [attempt_eq t s carried enabled named]
  generalize claimed_eq : t.finds (s.claims.contains key) = claimed
  dsimp only
  have asked_claims : (asked t s.claims key).contains key = (claimed || t.setNX.takesEffect) := by
    rw [contains_asked, claimed_eq]
  generalize calls_eq : admitted c.filter t claimed = calls
  have refuses := Engine.deliver_of_not_admitted c.table s.engine calls carried
  obtain ⟨duplicated, unverified, -⟩ :=
    Engine.process_of_carried c.table s.engine calls.replies carried
  have verdict_is : calls.replies.admission = t.admission c.filter claimed := by
    rw [← calls_eq]
    rfl
  have same_calls : ∀ eng : Engine, (eng.Fails calls.replies ev ↔ eng.Fails t.calls.replies ev) ∧
      (eng.Lands calls ev ↔ eng.Lands t.calls ev) := by
    intro eng
    rw [← calls_eq]
    exact ⟨Iff.rfl, Engine.lands_admission eng t.calls ev _⟩
  cases verdict : t.admission c.filter claimed with
  | invalidInput => exact absurd verdict (IdempotencyConfig.verdict_ne_invalidInput _ _ _)
  | unavailable =>
    rw [verdict_is, verdict] at refuses
    rw [if_pos nofun, refuses nofun, unverified (verdict_is.trans verdict)]
    refine .unavailable _ _ verdict ?_
    rw [asked_claims]
    unfold Trial.leaves
    simp [verdict]
  | duplicate =>
    rw [verdict_is, verdict] at refuses
    rw [if_pos nofun, refuses nofun, duplicated (verdict_is.trans verdict)]
    obtain ⟨answered, met⟩ := IdempotencyConfig.verdict_duplicate.mp verdict
    exact .refused _ answered met
  | admitted =>
    rw [if_neg (not_not.mpr rfl)]
    have admits : calls.replies.admission = .admitted := verdict_is.trans verdict
    have errs := Engine.handle_fails_iff c.table s.engine calls.replies ev
    rw [← Engine.deliver_error c.table carried admits, (same_calls s.engine).1, retains.fails] at errs
    cases done : (s.engine.deliver c.toLower c.table calls c.msg).2 with
    | none =>
      rw [done] at errs
      exact .completed _ verdict rfl fun fails => errs.mpr fails rfl
    | some err =>
      rw [done] at errs
      have fails := errs.mp (Option.some_ne_none err)
      have fails_here : s.engine.Fails calls.replies ev :=
        (same_calls s.engine).1.mpr ((retains.fails _).mpr fails)
      obtain ⟨landed, grounded⟩ := Engine.deliver_mutations c.table carried admits fails_here
      rw [(same_calls s.engine).2, retains.lands] at landed grounded
      refine .failed _ _ err verdict fails ?_ (Engine.deliver_retains c.table carried admits fails_here)
        (Engine.deliver_deadLetters c.table carried admits) landed grounded
      rw [IdempotencyConfig.contains_del, asked_claims]
      unfold Trial.leaves
      simp [verdict]

/-! ## The attempts before the last -/

/-- What holds before attempt `n`, when every attempt before it has failed. -/
structure Standing (c : Setting) (trials : ℕ → Trial) (s : Intake) (ev : TelemetryEvent)
    (key : String) (n : ℕ) (now : Intake) : Prop where
  retains : s.engine.Retains now.engine ev
  found : (trials n).finds (now.claims.contains key) =
    claimedAt c.filter trials (s.claims.contains key) n
  incomplete : now.completed = false
  deadLetters : now.engine.deadLetters = s.engine.deadLetters
  silent : (∀ m < n, ¬(trials m).Lands c.filter s.engine ev
    (claimedAt c.filter trials (s.claims.contains key) m)) →
    now.engine.mutations = s.engine.mutations
  grown : (∃ m < n, (trials m).Lands c.filter s.engine ev
    (claimedAt c.filter trials (s.claims.contains key) m)) →
    s.engine.mutations.length < now.engine.mutations.length
  kept : s.engine.mutations.length ≤ now.engine.mutations.length

section
variable {trials : ℕ → Trial} {s now : Intake} {n : ℕ}

theorem standing_start (incomplete : s.completed = false) :
    Standing c trials s ev key 0 s where
  retains := ⟨rfl, rfl, fun _ => rfl⟩
  found := rfl
  incomplete := incomplete
  deadLetters := rfl
  silent _ := rfl
  grown landed := by
    obtain ⟨m, below, -⟩ := landed
    exact absurd below (Nat.not_lt_zero m)
  kept := le_rfl

/-- An attempt that returns an error has failed, and the next one stands where it left. -/
theorem Standing.next (standing : Standing c trials s ev key n now)
    (carried : Engine.validated c.toLower c.msg = some ev) (enabled : c.filter.enabled = true)
    (named : c.filter.key c.md5 ev = some key) (errs : (attempt c (trials n) now).2 ≠ none) :
    (trials n).Fails c.filter s.engine ev
        (claimedAt c.filter trials (s.claims.contains key) n) ∧
      Standing c trials s ev key (n + 1) (attempt c (trials n) now).1 := by
  have outcome := attempt_outcome (trials n) carried enabled named standing.retains
  rw [standing.found] at outcome
  generalize attempt c (trials n) now = done at outcome errs ⊢
  cases outcome with
  | refused => exact absurd rfl errs
  | completed => exact absurd rfl errs
  | unavailable claims err unverified left =>
    refine ⟨Or.inl unverified, ?_⟩
    have grounded : ¬(trials n).Lands c.filter s.engine ev
        (claimedAt c.filter trials (s.claims.contains key) n) := by
      intro lands
      rw [lands.1] at unverified
      cases unverified
    refine { standing with found := ?_, silent := ?_, grown := ?_ }
    · exact congrArg _ left
    · intro none_landed
      exact standing.silent fun m below => none_landed m (Nat.lt_succ_of_lt below)
    · intro ⟨m, below, lands⟩
      rcases Nat.lt_succ_iff_lt_or_eq.mp below with earlier | rfl
      · exact standing.grown ⟨m, earlier, lands⟩
      · exact absurd lands grounded
  | failed engine claims err admitted fails left retains deadLetters landed grounded =>
    refine ⟨Or.inr ⟨admitted, fails⟩, ?_⟩
    have longer : now.engine.mutations.length ≤ engine.mutations.length := by
      by_cases lands : s.engine.Lands (trials n).calls ev
      · obtain ⟨p, sent⟩ := landed lands
        rw [sent]
        exact Nat.le_succ _
      · rw [grounded lands]
    refine ⟨standing.retains.trans retains, congrArg _ left, standing.incomplete,
      deadLetters.trans standing.deadLetters, ?_, ?_, standing.kept.trans longer⟩
    · intro none_landed
      rw [grounded fun lands => none_landed n (Nat.lt_succ_self n) ⟨admitted, lands⟩]
      exact standing.silent fun m below => none_landed m (Nat.lt_succ_of_lt below)
    · intro ⟨m, below, lands⟩
      rcases Nat.lt_succ_iff_lt_or_eq.mp below with earlier | rfl
      · exact lt_of_lt_of_le (standing.grown ⟨m, earlier, lands⟩) longer
      · obtain ⟨p, sent⟩ := landed lands.2
        rw [sent]
        exact Nat.lt_succ_of_le standing.kept

/-- An attempt that fails on its inputs returns an error. -/
theorem Standing.errs (standing : Standing c trials s ev key n now)
    (carried : Engine.validated c.toLower c.msg = some ev) (enabled : c.filter.enabled = true)
    (named : c.filter.key c.md5 ev = some key)
    (fails : (trials n).Fails c.filter s.engine ev
      (claimedAt c.filter trials (s.claims.contains key) n)) :
    (attempt c (trials n) now).2 ≠ none := by
  have outcome := attempt_outcome (trials n) carried enabled named standing.retains
  rw [standing.found] at outcome
  generalize attempt c (trials n) now = done at outcome ⊢
  cases outcome with
  | unavailable => exact Option.some_ne_none _
  | failed => exact Option.some_ne_none _
  | refused claims answered met =>
    exact absurd fails (Trial.not_fails_of_met answered met)
  | completed after admitted done succeeds =>
    unfold Trial.Fails at fails
    rw [admitted] at fails
    simp [succeeds] at fails

theorem standing_before (carried : Engine.validated c.toLower c.msg = some ev)
    (enabled : c.filter.enabled = true) (named : c.filter.key c.md5 ev = some key)
    (incomplete : s.completed = false)
    (failed : ∀ m < n, (attempt c (trials m) (before (fun n => attempt c (trials n)) s m)).2 ≠ none) :
    Standing c trials s ev key n (before (fun n => attempt c (trials n)) s n) ∧
      ∀ m < n, (trials m).Fails c.filter s.engine ev
        (claimedAt c.filter trials (s.claims.contains key) m) := by
  induction n with
  | zero => exact ⟨standing_start incomplete, fun m below => absurd below (Nat.not_lt_zero m)⟩
  | succ n ih =>
    obtain ⟨standing, fails⟩ := ih fun m below => failed m (Nat.lt_succ_of_lt below)
    obtain ⟨fails_here, next⟩ := standing.next carried enabled named (failed n (Nat.lt_succ_self n))
    refine ⟨next, fun m below => ?_⟩
    rcases Nat.lt_succ_iff_lt_or_eq.mp below with earlier | rfl
    · exact fails m earlier
    · exact fails_here

/-- Attempts that fail on their inputs fail in the run. -/
theorem errs_before (carried : Engine.validated c.toLower c.msg = some ev)
    (enabled : c.filter.enabled = true) (named : c.filter.key c.md5 ev = some key)
    (incomplete : s.completed = false)
    (fails : ∀ m < n, (trials m).Fails c.filter s.engine ev
      (claimedAt c.filter trials (s.claims.contains key) m)) :
    ∀ m < n, (attempt c (trials m) (before (fun n => attempt c (trials n)) s m)).2 ≠ none := by
  induction n with
  | zero => exact fun m below => absurd below (Nat.not_lt_zero m)
  | succ n ih =>
    have earlier := ih fun m below => fails m (Nat.lt_succ_of_lt below)
    obtain ⟨standing, -⟩ := standing_before carried enabled named incomplete earlier
    intro m below
    rcases Nat.lt_succ_iff_lt_or_eq.mp below with before_n | rfl
    · exact earlier m before_n
    · exact standing.errs carried enabled named (fails m (Nat.lt_succ_self m))

/-! ## The last attempt -/

/-- A met claim ends the retries: that attempt is the last, and it returns no error. -/
theorem MeetsClaim.last {maxAttempts k : ℕ} (meets : MeetsClaim c trials s ev key k)
    (carried : Engine.validated c.toLower c.msg = some ev) (enabled : c.filter.enabled = true)
    (named : c.filter.key c.md5 ev = some key) (incomplete : s.completed = false)
    (allowed : k < maxAttempts)
    (last : LastAttempt (fun n => (trials n).contextual) (fun n => attempt c (trials n)) s
      maxAttempts n) :
    n = k ∧ (attempt c (trials k) (before (fun n => attempt c (trials n)) s k)).2 = none := by
  have errs := errs_before carried enabled named incomplete fun m below => (meets.failed m below).2
  obtain ⟨standing, -⟩ := standing_before carried enabled named incomplete errs
  have silent : (attempt c (trials k) (before (fun n => attempt c (trials n)) s k)).2 = none := by
    by_contra errs_here
    exact Trial.not_fails_of_met meets.answered meets.claimed
      (standing.next carried enabled named errs_here).1
  refine ⟨last.unique allowed silent fun m below => ⟨errs m below, (meets.failed m below).1⟩, silent⟩

theorem deliver_deadLetters_le (c : Setting) (e : Engine) (a : Attempt) :
    e.deadLetters.length ≤ (e.deliver c.toLower c.table a c.msg).1.deadLetters.length := by
  rcases Engine.refused_or_admitted c.toLower a c.msg with refused | ⟨ev, carried, admitted⟩
  · obtain ⟨reasons, same⟩ := Engine.deliver_refused c.toLower c.table e a refused
    rw [same]
    simp
  · rw [Engine.deliver_deadLetters c.table carried admitted]

theorem attempt_deadLetters_le (c : Setting) (t : Trial) (s : Intake) :
    s.engine.deadLetters.length ≤ (attempt c t s).1.engine.deadLetters.length := by
  unfold attempt
  split
  next => exact deliver_deadLetters_le _ _ _
  next =>
    dsimp only
    split
    next => exact deliver_deadLetters_le _ _ _
    next => split <;> exact deliver_deadLetters_le _ _ _

theorem before_deadLetters_le (c : Setting) (trials : ℕ → Trial) (s : Intake) (n : ℕ) :
    s.engine.deadLetters.length ≤
      (before (fun n => attempt c (trials n)) s n).engine.deadLetters.length := by
  induction n with
  | zero => exact le_rfl
  | succ n ih => exact le_trans ih (attempt_deadLetters_le _ _ _)

/-- Without a claim to ask for, an attempt that returns no error has either evaluated its
event or dead-lettered it. -/
theorem attempt_unclaimed (t : Trial) (s : Intake)
    (carried : Engine.validated c.toLower c.msg = some ev)
    (unclaimed : c.filter.enabled = true → c.filter.key c.md5 ev = none)
    (succeeded : (attempt c t s).2 = none) :
    (attempt c t s).1.completed = true ∨
      s.engine.deadLetters.length < (attempt c t s).1.engine.deadLetters.length := by
  unfold attempt at succeeded ⊢
  rw [carried] at succeeded ⊢
  dsimp only at succeeded ⊢
  cases enabled : c.filter.enabled with
  | false =>
    have admits : ∀ claims, c.filter.admitEvent c.md5 claims ev t.setNX t.expired =
        (claims, .admitted) := by
      intro claims
      unfold IdempotencyConfig.admitEvent
      rw [if_pos enabled]
    rw [admits] at succeeded ⊢
    dsimp only at succeeded ⊢
    rw [if_neg (not_not.mpr rfl)] at succeeded ⊢
    cases done : (s.engine.deliver c.toLower c.table
        { t.calls with replies := { t.calls.replies with admission := .admitted } } c.msg).2 with
    | none => exact Or.inl rfl
    | some err =>
      rw [done] at succeeded
      cases succeeded
  | true =>
    have rejects : ∀ claims, c.filter.admitEvent c.md5 claims ev t.setNX t.expired =
        (claims, .invalidInput) := by
      intro claims
      unfold IdempotencyConfig.admitEvent
      rw [if_neg (by simp [enabled]), unclaimed enabled]
    rw [rejects]
    dsimp only
    rw [if_pos nofun]
    have refused := Engine.deliver_of_not_admitted c.table s.engine
      { t.calls with replies := { t.calls.replies with admission := .invalidInput } } carried nofun
    obtain ⟨-, -, rejected⟩ := Engine.process_of_carried c.table s.engine
      { t.calls.replies with admission := .invalidInput } carried
    rw [refused, rejected rfl]
    exact Or.inr (Nat.lt_succ_self _)

/-- The last attempt, when it returns no error, accounts for the event or meets a claim. -/
theorem accounted_of_success {maxAttempts : ℕ}
    (carried : Engine.validated c.toLower c.msg = some ev) (incomplete : s.completed = false)
    (last : LastAttempt (fun n => (trials n).contextual) (fun n => attempt c (trials n)) s
      maxAttempts n)
    (succeeded : (attempt c (trials n) (before (fun n => attempt c (trials n)) s n)).2 = none) :
    Accounted s (attempt c (trials n) (before (fun n => attempt c (trials n)) s n)).1 ↔
      ¬Swallows c trials maxAttempts s ev := by
  by_cases claims : c.filter.enabled = true ∧ ∃ key, c.filter.key c.md5 ev = some key
  · obtain ⟨enabled, key, named⟩ := claims
    have swallows_iff : Swallows c trials maxAttempts s ev ↔ MeetsClaim c trials s ev key n := by
      constructor
      · intro ⟨_, key', named', k, allowed, meets⟩
        rw [named] at named'
        cases named'
        obtain ⟨rfl, -⟩ := meets.last carried enabled named incomplete allowed last
        exact meets
      · intro meets
        exact ⟨enabled, key, named, n, last.allowed, meets⟩
    obtain ⟨standing, fails⟩ := standing_before carried enabled named incomplete
      fun m below => (last.retried m below).1
    have outcome := attempt_outcome (trials n) carried enabled named standing.retains
    rw [standing.found] at outcome
    rw [swallows_iff]
    generalize attempt c (trials n) (before (fun n => attempt c (trials n)) s n) = done
      at outcome succeeded ⊢
    cases outcome with
    | unavailable => cases succeeded
    | failed => cases succeeded
    | completed after admitted completes =>
      refine ⟨fun _ meets => ?_, fun _ => Or.inl completes⟩
      rw [Trial.admission_of_met meets.answered meets.claimed] at admitted
      cases admitted
    | refused left answered met =>
      constructor
      · intro accounted meets
        rcases accounted with completes | longer | longer
        · rw [standing.incomplete] at completes
          cases completes
        · rw [standing.silent meets.unpublished] at longer
          exact Nat.lt_irrefl _ longer
        · rw [standing.deadLetters] at longer
          exact Nat.lt_irrefl _ longer
      · intro unmet
        refine Or.inr (Or.inl (standing.grown ?_))
        by_contra none_landed
        simp only [not_exists, not_and] at none_landed
        exact unmet ⟨fun m below => ⟨(last.retried m below).2, fails m below⟩, none_landed,
          answered, met⟩
  · have unclaimed : c.filter.enabled = true → c.filter.key c.md5 ev = none := by
      intro enabled
      rw [Option.eq_none_iff_forall_ne_some]
      exact fun key named => claims ⟨enabled, key, named⟩
    have accounted : Accounted s
        (attempt c (trials n) (before (fun n => attempt c (trials n)) s n)).1 := by
      rcases attempt_unclaimed (trials n) _ carried unclaimed succeeded with completes | longer
      · exact Or.inl completes
      · exact Or.inr (Or.inr (lt_of_le_of_lt (before_deadLetters_le c trials s n) longer))
    refine ⟨fun _ ⟨enabled, key, named, _⟩ => claims ⟨enabled, key, named⟩, fun _ => accounted⟩

end

/-- When `processWithRetry` returns with its context alive, the event is accounted for
exactly when no attempt meets a claim that an earlier one, or another delivery, left
standing. -/
theorem accounted_iff (c : Setting) (cancelled : ℕ → Bool) (maxAttempts : ℕ)
    (trials : ℕ → Trial) (engine : Engine) (claims : Claims) (ev : TelemetryEvent) (after : Intake)
    (configured : 1 ≤ maxAttempts) (carried : Engine.validated c.toLower c.msg = some ev)
    (lasting : ∀ m n, m ≤ n → cancelled m = true → cancelled n = true)
    (alive : cancelled maxAttempts = false)
    (ran : processWithRetry c cancelled maxAttempts trials ⟨engine, claims, false⟩ = some after) :
    Accounted ⟨engine, claims, false⟩ after ↔
      ¬Swallows c trials maxAttempts ⟨engine, claims, false⟩ ev := by
  have alive_before : ∀ m < maxAttempts, cancelled m = false := by
    intro m below
    refine Bool.eq_false_of_not_eq_true fun dead => ?_
    rw [lasting m maxAttempts (Nat.le_of_lt below) dead] at alive
    cases alive
  unfold processWithRetry at ran
  dsimp only at ran
  split at ran
  next => cases ran
  next s retried =>
    cases ran
    obtain ⟨n, last, outcome⟩ := withRetry_last configured alive_before retried
    have succeeded := accounted_of_success carried rfl last (congrArg Prod.snd outcome).symm
    rwa [← outcome] at succeeded
  next s err retried =>
    rw [alive, if_neg Bool.noConfusion] at ran
    cases ran
    obtain ⟨n, last, outcome⟩ := withRetry_last configured alive_before retried
    have reached : s = (attempt c (trials n) (before (fun n => attempt c (trials n)) _ n)).1 :=
      congrArg Prod.fst outcome
    have errs : some err = (attempt c (trials n) (before (fun n => attempt c (trials n)) _ n)).2 :=
      congrArg Prod.snd outcome
    constructor
    · intro _ ⟨enabled, key, named, k, allowed, meets⟩
      obtain ⟨rfl, silent⟩ := meets.last carried enabled named rfl allowed last
      rw [← errs] at silent
      cases silent
    · intro _
      have kept := le_trans (before_deadLetters_le c trials ⟨engine, claims, false⟩ n)
        (attempt_deadLetters_le c (trials n) _)
      rw [← reached] at kept
      exact Or.inr (Or.inr (Nat.lt_succ_of_le kept))

/-- The default filter over a reading of 9; the digest is that of its coordinate. -/
def spikeSetting : Setting where
  filter :=
    { enabled := true, keyPrefix := "dedupe:", ttl := 5000000000, scope := "asset_sensor"
      failOpen := true, opTimeout := 5000000000 }
  md5 _ := "2a74adf5858847835d7e38a1e58d0dcb"
  toLower := Char.toLower
  table := asciiCase
  msg := some Engine.spike

/-- The first attempt cannot write the twin and releases its claim as `del` comes out; the
calls of the others succeed. -/
def unwritten (del : Reply) : ℕ → Trial
  | 0 =>
    { calls := { replies :=
        { (Engine.delivery 63840000000000000000 true).replies with apply := false } }
      del }
  | _ => { calls := Engine.delivery 63840000001000000000 true }

def idle : Engine := newEngine defaultHysteresis ⟨false, newGraphCRDT "replica-1" "" 0⟩

theorem spike_carried : Engine.validated spikeSetting.toLower spikeSetting.msg =
    some (Engine.spike.normalize Char.toLower) :=
  Option.filter_eq_some_iff.mpr ⟨rfl, by decide +kernel⟩

/-- With its claim released, the second attempt announces the alarm. -/
theorem accounted_iff_released :
    (∃ after, processWithRetry spikeSetting (fun _ => false) 4 (unwritten .answered)
        ⟨idle, ∅, false⟩ = some after ∧ after.completed = true) ∧
      ¬Swallows spikeSetting (unwritten .answered) 4 ⟨idle, ∅, false⟩
        (Engine.spike.normalize Char.toLower) := by
  have completes : (processWithRetry spikeSetting (fun _ => false) 4 (unwritten .answered)
      ⟨idle, ∅, false⟩).map (·.completed) = some true := by decide +kernel
  obtain ⟨after, ran, completed⟩ := Option.map_eq_some_iff.mp completes
  refine ⟨⟨after, ran, completed⟩, ?_⟩
  exact (accounted_iff spikeSetting (fun _ => false) 4 (unwritten .answered) idle ∅ _ after
    (by decide) spike_carried (fun _ _ _ dead => dead) rfl ran).mp (Or.inl completed)

/-- The release fails too: the second attempt takes the claim for that of another delivery,
and the reading is gone. -/
theorem unreleased_not_accounted :
    spikeSetting.filter.validate = true ∧
      ∃ after, processWithRetry spikeSetting (fun _ => false) 4 (unwritten (.failed false))
          ⟨idle, ∅, false⟩ = some after ∧
        ¬Accounted ⟨idle, ∅, false⟩ after := by
  refine ⟨by decide +kernel, ?_⟩
  have lost : (processWithRetry spikeSetting (fun _ => false) 4 (unwritten (.failed false))
      ⟨idle, ∅, false⟩).map (fun after =>
        (after.completed, after.engine.mutations.length, after.engine.deadLetters.length)) =
      some (false, 0, 0) := by decide +kernel
  obtain ⟨after, ran, left⟩ := Option.map_eq_some_iff.mp lost
  simp only [Prod.mk.injEq] at left
  refine ⟨after, ran, ?_⟩
  unfold Accounted
  rw [left.1, left.2.1, left.2.2]
  simp

end Intake
end OpenOntology.Resolution
