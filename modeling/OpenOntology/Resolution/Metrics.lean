import OpenOntology.Library.Census
import OpenOntology.Resolution.Attempts
import OpenOntology.Library.Run

/-!
# The engine's counters

Every worker moves the counters of one `Metrics` while it processes a message, and the
janitor moves one of them when it prunes. The counters are modelled beside the engine they
are moved by: forgetting them gives `process` back, and between any two messages they agree
with each other and with the tracker.
-/
namespace OpenOntology.Resolution

open Crdt Replica Library

structure Metrics where
  startedAt : Time
  eventsConsumed : Nat := 0
  eventsRejected : Nat := 0
  eventsDuplicate : Nat := 0
  eventsStale : Nat := 0
  cacheWrites : Nat := 0
  rulesEvaluated : Nat := 0
  anomalies : Nat := 0
  mutationsEmitted : Nat := 0
  mutationsFailed : Nat := 0
  dlqMessages : Nat := 0
  graphDegraded : Nat := 0
  processErrors : Nat := 0
  statePruned : Nat := 0
  transitions : TransitionKind → Severity → Option Nat

def transitionKinds : List TransitionKind := [.raised, .escalated, .sustained, .cleared]

def severityKinds : List Severity := [.info, .high, .critical]

/-- Every pair of the label space has its counter from the start. -/
def newMetrics (startedAt : Time) : Metrics where
  startedAt := startedAt
  transitions := fun kind severity =>
    if kind ∈ transitionKinds ∧ severity ∈ severityKinds then some 0 else none

namespace Metrics

/-- An unknown pair is dropped. -/
def recordTransition (m : Metrics) (kind : TransitionKind) (severity : Severity) : Metrics :=
  match m.transitions kind severity with
  | none => m
  | some n =>
    { m with transitions := fun k s =>
        if k = kind ∧ s = severity then some (n + 1) else m.transitions k s }

/-- One series of the labelled counter. -/
def count (m : Metrics) (kind : TransitionKind) (severity : Severity) : Nat :=
  (m.transitions kind severity).getD 0

def total (m : Metrics) (kind : TransitionKind) : Nat := (severityKinds.map (m.count kind)).sum

end Metrics

/-- The channels the tracker holds, and how many of them are in alarm. -/
def StateTracker.tracked (t : StateTracker) : Nat × Nat :=
  (t.entries.size, census (fun st => st.state = .anomalous) t.entries)

/-- How many channels `Prune` drops. -/
def StateTracker.pruned (t : StateTracker) (now : Time) (idle : Duration) : Nat :=
  census (fun st => st.state = .normal ∧ timeSub now st.lastSeen > idle) t.entries

/-- The engine with its counters. -/
structure Metered where
  metrics : Metrics
  engine : Engine

namespace Metered

section
variable (toLower : Char → Char) (table : CaseTable)

def countWrite (outcome : ApplyOutcome) (m : Metrics) : Metrics :=
  if outcome = .written then { m with cacheWrites := m.cacheWrites + 1 } else m

def countRule (eval : RuleEvaluation) (m : Metrics) : Metrics :=
  let m := { m with rulesEvaluated := m.rulesEvaluated + 1 }
  if eval.breached then { m with anomalies := m.anomalies + 1 } else m

/-- The counter that `buildPayload` moves. -/
def countGraph (r : Replies) (m : Metrics) : Metrics :=
  match r.graph with
  | .error _ => { m with graphDegraded := m.graphDegraded + 1 }
  | .ok _ => m

/-- The part of `process` after the idempotency claim was granted. -/
def handle (s : Metered) (r : Replies) (ev : TelemetryEvent) : Metered × Option String :=
  let m := s.metrics
  let e := s.engine
  if r.apply = false then (s, some "cache apply")
  else
    let (cache, outcome) := e.cache.apply ev r.ingestedAt
    if outcome.fresh = false then
      (⟨{ m with eventsStale := m.eventsStale + 1 }, { e with cache }⟩, none)
    else
      let m := countWrite outcome m
      match e.rules.evaluate ev with
      | none => (⟨m, { e with cache }⟩, none)
      | some eval =>
        let m := countRule eval m
        let (tracker, transition, undo) := e.tracker.evaluate ev.cacheKey eval r.now
        match transition with
        | none => (⟨m, { e with cache, tracker }⟩, none)
        | some t =>
          let (payload, replica) := e.buildPayload table r ev eval t
          let m := countGraph r m
          if r.mark = false then
            (⟨m, { e with cache, replica, tracker := tracker.rollback undo }⟩, some "mark alarm")
          else
            let cache := cache.markAlarm ev t payload.eventID r.now
            if r.emit = false then
              (⟨{ m with mutationsFailed := m.mutationsFailed + 1 },
                { e with cache, replica, tracker := tracker.rollback undo }⟩, some "emit mutation")
            else
              let m := { m with mutationsEmitted := m.mutationsEmitted + 1 }
              (⟨m.recordTransition payload.transition payload.severity,
                { e with cache, replica, tracker, mutations := payload :: e.mutations }⟩, none)

/-- `reject`, with the dead letter it sends. -/
def reject (s : Metered) (reason : String) : Metered × Option String :=
  let m := s.metrics
  (⟨{ m with eventsRejected := m.eventsRejected + 1, dlqMessages := m.dlqMessages + 1 },
    { s.engine with deadLetters := reason :: s.engine.deadLetters }⟩, none)

def process (s : Metered) (r : Replies) (msg : Option TelemetryEvent) : Metered × Option String :=
  let m := { s.metrics with eventsConsumed := s.metrics.eventsConsumed + 1 }
  let s := { s with metrics := m }
  match msg with
  | none => s.reject "decode_failed"
  | some raw =>
    let ev := raw.normalize toLower
    if ev.validate = false then s.reject "validation_failed"
    else
      match r.admission with
      | .invalidInput => s.reject "idempotency_input_invalid"
      | .unavailable => (s, some "idempotency filter")
      | .duplicate => ({ s with metrics := { m with eventsDuplicate := m.eventsDuplicate + 1 } }, none)
      | .admitted => s.handle table r ev

/-- The end of `processWithRetry`, where every attempt has failed. -/
def exhaust (s : Metered) : Metered :=
  let m := s.metrics
  ⟨{ m with processErrors := m.processErrors + 1, dlqMessages := m.dlqMessages + 1 },
    { s.engine with deadLetters := "processing_failed" :: s.engine.deadLetters }⟩

/-- One message of a worker: how often it is attempted, how the calls of each attempt come
out, where the context is done, and whether an attempt's error is the context's. -/
structure Message where
  msg : Option TelemetryEvent
  maxAttempts : ℕ
  replies : ℕ → Replies
  cancelled : ℕ → Bool
  contextual : ℕ → Bool

def processWithRetry (s : Metered) (d : Message) : Option Metered :=
  match withRetry d.cancelled d.contextual 200000000
      (fun n s => process toLower table s (d.replies n) d.msg) d.maxAttempts s with
  | none => none
  | some (s, none) => some s
  | some (s, some _) => if d.cancelled d.maxAttempts then some s else some s.exhaust

/-- One tick of `RunStateJanitor`. -/
def janitor (s : Metered) (now : Time) (idle : Duration) : Metered :=
  let m := s.metrics
  ⟨{ m with statePruned := m.statePruned + s.engine.tracker.pruned now idle },
    { s.engine with tracker := s.engine.tracker.prune now idle }⟩

inductive Event where
  | message (d : Message)
  | tick (now : Time) (idle : Duration)

def step (s : Metered) : Event → Option Metered
  | .message d => s.processWithRetry toLower table d
  | .tick now idle => some (s.janitor now idle)

end

def start (startedAt : Time) (cfg : RuleConfig) (replica : TopologyReplica) : Metered :=
  ⟨newMetrics startedAt, newEngine cfg replica⟩

/-! ## The counters do not interfere -/

theorem handle_engine (table : CaseTable) (s : Metered) (r : Replies) (ev : TelemetryEvent) :
    ((s.handle table r ev).1.engine, (s.handle table r ev).2) = s.engine.handle table r ev := by
  unfold handle Engine.handle
  dsimp only
  by_cases failed : r.apply = false
  · rw [if_pos failed, if_pos failed]
  rw [if_neg failed, if_neg failed]
  by_cases stale : (s.engine.cache.apply ev r.ingestedAt).2.fresh = false
  · rw [if_pos stale, if_pos stale]
  rw [if_neg stale, if_neg stale]
  cases s.engine.rules.evaluate ev with
  | none => rfl
  | some eval =>
    dsimp only
    cases (s.engine.tracker.evaluate ev.cacheKey eval r.now).2.1 with
    | none => rfl
    | some t =>
      dsimp only
      by_cases unmarked : r.mark = false
      · rw [if_pos unmarked, if_pos unmarked]
      rw [if_neg unmarked, if_neg unmarked]
      by_cases unsent : r.emit = false
      · rw [if_pos unsent, if_pos unsent]
      rw [if_neg unsent, if_neg unsent]

/-- Forgetting the counters of a metered attempt gives the attempt. -/
theorem process_engine (toLower : Char → Char) (table : CaseTable) (s : Metered) (r : Replies)
    (msg : Option TelemetryEvent) :
    ((s.process toLower table r msg).1.engine, (s.process toLower table r msg).2) =
      s.engine.process toLower table r msg := by
  cases msg with
  | none => rfl
  | some raw =>
    unfold process Engine.process
    dsimp only
    by_cases invalid : (raw.normalize toLower).validate = false
    · rw [if_pos invalid, if_pos invalid]
      rfl
    rw [if_neg invalid, if_neg invalid]
    cases r.admission with
    | admitted => exact handle_engine table _ r _
    | duplicate => rfl
    | invalidInput => rfl
    | unavailable => rfl

/-! ## What one message costs -/

/-- What `handle` leaves of the counters and the tracker, in each of its ways. -/
inductive Charge (s : Metered) (r : Replies) (ev : TelemetryEvent) :
    Metrics → StateTracker → Prop where
  | unapplied : Charge s r ev s.metrics s.engine.tracker
  | stale :
      Charge s r ev { s.metrics with eventsStale := s.metrics.eventsStale + 1 } s.engine.tracker
  | ungoverned (outcome : ApplyOutcome) :
      Charge s r ev (countWrite outcome s.metrics) s.engine.tracker
  | absorbed (outcome : ApplyOutcome) (eval : RuleEvaluation) (judged : eval.Judged)
      (silent : (s.engine.tracker.evaluate ev.cacheKey eval r.now).2.1 = none) :
      Charge s r ev (countRule eval (countWrite outcome s.metrics))
        (s.engine.tracker.evaluate ev.cacheKey eval r.now).1
  | unmarked (outcome : ApplyOutcome) (eval : RuleEvaluation) :
      Charge s r ev (countGraph r (countRule eval (countWrite outcome s.metrics)))
        s.engine.tracker
  | unsent (outcome : ApplyOutcome) (eval : RuleEvaluation) (m : Metrics)
      (counted : m = countGraph r (countRule eval (countWrite outcome s.metrics))) :
      Charge s r ev { m with mutationsFailed := m.mutationsFailed + 1 } s.engine.tracker
  | published (outcome : ApplyOutcome) (eval : RuleEvaluation) (judged : eval.Judged)
      (t : Transition)
      (emits : (s.engine.tracker.evaluate ev.cacheKey eval r.now).2.1 = some t) (m : Metrics)
      (counted : m = countGraph r (countRule eval (countWrite outcome s.metrics))) :
      Charge s r ev
        (Metrics.recordTransition { m with mutationsEmitted := m.mutationsEmitted + 1 }
          t.kind t.severity)
        (s.engine.tracker.evaluate ev.cacheKey eval r.now).1

theorem handle_charge (table : CaseTable) (s : Metered) (r : Replies) (ev : TelemetryEvent) :
    s.Charge r ev (s.handle table r ev).1.metrics (s.handle table r ev).1.engine.tracker := by
  unfold handle
  dsimp only
  by_cases failed : r.apply = false
  · rw [if_pos failed]
    exact .unapplied
  rw [if_neg failed]
  by_cases stale : (s.engine.cache.apply ev r.ingestedAt).2.fresh = false
  · rw [if_pos stale]
    exact .stale
  rw [if_neg stale]
  cases verdict : s.engine.rules.evaluate ev with
  | none => exact .ungoverned _
  | some eval =>
    have judged := RuleEngine.evaluate_judged verdict
    dsimp only
    cases emits : (s.engine.tracker.evaluate ev.cacheKey eval r.now).2.1 with
    | none => exact .absorbed _ eval judged emits
    | some t =>
      dsimp only
      by_cases unmarked : r.mark = false
      · rw [if_pos unmarked]
        rw [Resolution.rollback_evaluate]
        exact .unmarked _ eval
      rw [if_neg unmarked]
      by_cases unsent : r.emit = false
      · rw [if_pos unsent]
        rw [Resolution.rollback_evaluate]
        exact .unsent _ eval _ rfl
      rw [if_neg unsent]
      exact .published _ eval judged t emits _ rfl

end Metered

/-! ## The tracker, counted -/

namespace SensorState

def alarmed (st : SensorState) : Bool := st.state = .anomalous

/-- In alarm, and not yet critical. -/
def open_ (st : SensorState) : Bool := st.state = .anomalous ∧ st.severity = .high

/-- A channel has a severity exactly while it is in alarm. -/
def Graded (st : SensorState) : Prop := st.state = .normal ↔ st.severity = .info

theorem graded_default : Graded {} := Iff.intro (fun _ => rfl) fun _ => rfl

end SensorState

open SensorState

/-- What an evaluation makes of a channel, by the transition it reports. -/
inductive EpisodeStep (before after : SensorState) : Option Transition → Prop where
  | silent (alarmed : after.alarmed = before.alarmed) (rest : after.open_ = before.open_) :
      EpisodeStep before after none
  | raised (t : Transition) (kind : t.kind = .raised) (loud : t.severity ≠ .info)
      (was : before.alarmed = false) (now : after.alarmed = true) (shut : before.open_ = false)
      (opens : after.open_ = decide (t.severity = .high)) : EpisodeStep before after (some t)
  | escalated (t : Transition) (kind : t.kind = .escalated) (severity : t.severity = .critical)
      (was : before.alarmed = true) (now : after.alarmed = true) (opened : before.open_ = true)
      (shuts : after.open_ = false) : EpisodeStep before after (some t)
  | sustained (t : Transition) (kind : t.kind = .sustained) (loud : t.severity ≠ .info)
      (was : before.alarmed = true) (now : after.alarmed = true)
      (rest : after.open_ = before.open_) : EpisodeStep before after (some t)
  | cleared (t : Transition) (kind : t.kind = .cleared) (severity : t.severity = .info)
      (was : before.alarmed = true) (now : after.alarmed = false) (shuts : after.open_ = false) :
      EpisodeStep before after (some t)

theorem Severity.rank_inj {a b : Severity} (same : a.rank = b.rank) : a = b := by
  cases a <;> cases b <;> first | rfl | exact absurd same (by decide)

theorem Outcome.turn {t : StateTracker} {st next : SensorState} {eval : RuleEvaluation} {now : Time}
    {transition : Option Transition} (outcome : Outcome t st eval now next transition)
    (judged : eval.Judged) (graded : st.Graded) :
    next.Graded ∧ EpisodeStep st next transition ∧
      (∀ tr, transition = some tr → (eval.breached = true ↔ tr.kind ≠ .cleared)) := by
  have loud : eval.breached = true → eval.severity ≠ .info := by
    intro breached info
    have above := judged.loud breached
    rw [info] at above
    exact absurd above (Nat.lt_irrefl _)
  cases outcome with
  | raised severity breached was high_water =>
    have calm : st.severity = .info := graded.mp was
    have same : severity = eval.severity := by
      apply Severity.rank_inj
      rw [high_water, calm]
      exact Nat.max_eq_left (Nat.le_of_lt (judged.loud breached))
    subst same
    refine ⟨by simp [Graded, loud breached], .raised _ rfl (loud breached) ?_ rfl ?_ ?_, ?_⟩
    · simp [alarmed, was]
    · simp [open_, was]
    · simp [open_]
    · simp [breached]
  | escalated breached was worse =>
    have graver : st.severity = .high ∧ eval.severity = .critical := by
      have some_severity : st.severity ≠ .info := fun info => by
        rw [graded.mpr info] at was
        cases was
      cases held : st.severity <;> cases told : eval.severity <;>
        simp_all [Severity.rank]
    refine ⟨by simp [Graded, loud breached], .escalated _ rfl graver.2 ?_ rfl ?_ ?_, ?_⟩
    · simp [alarmed, was]
    · simp [open_, was, graver.1]
    · simp [open_, graver.2]
    · simp [breached]
  | sustained breached was no_worse =>
    refine ⟨?_, .sustained _ rfl (loud breached) ?_ rfl ?_, ?_⟩
    · simpa [Graded, was] using graded
    · simp [alarmed, was]
    · simp [open_, was]
    · simp [breached]
  | repeated breached was no_worse =>
    refine ⟨?_, .silent ?_ ?_, fun _ impossible => by cases impossible⟩
    · simpa [Graded, was] using graded
    · simp [alarmed, was]
    · simp [open_, was]
  | quiet calm was =>
    refine ⟨?_, .silent ?_ ?_, fun _ impossible => by cases impossible⟩
    · simpa [Graded, was] using graded
    · simp [alarmed, was]
    · simp [open_, was]
  | held calm was above =>
    refine ⟨?_, .silent ?_ ?_, fun _ impossible => by cases impossible⟩
    · simpa [Graded, was] using graded
    · simp [alarmed, was]
    · simp [open_, was]
  | cleared calm was not_above =>
    refine ⟨by simp [Graded], .cleared _ rfl rfl ?_ rfl ?_, ?_⟩
    · simp [alarmed, was]
    · simp [open_]
    · simp [calm]

namespace StateTracker

/-- Every channel the tracker holds is graded. -/
def Graded (t : StateTracker) : Prop :=
  ∀ (key : String) (st : SensorState), t.entries[key]? = some st → st.Graded

theorem Graded.getD {t : StateTracker} (graded : t.Graded) (key : String) :
    (t.entries.getD key {}).Graded := by
  rw [Std.ExtTreeMap.getD_eq_getD_getElem?]
  cases held : t.entries[key]? with
  | none => exact graded_default
  | some st => exact graded key st held

/-- What an evaluation makes of a count that leaves fresh channels out. -/
theorem census_evaluate (t : StateTracker) (p : SensorState → Bool) (fresh : p {} = false)
    (key : String) (eval : RuleEvaluation) (now : Time) :
    census p (t.evaluate key eval now).1.entries +
        (if p (t.entries.getD key {}) then 1 else 0) =
      census p t.entries + if p (t.advance (t.entries.getD key {}) eval now).1 then 1 else 0 := by
  have counted : (if p (t.entries.getD key {}) then 1 else 0) = Occupies p t.entries[key]? := by
    rw [Std.ExtTreeMap.getD_eq_getD_getElem?]
    cases t.entries[key]? with
    | none => rw [Option.getD_none, fresh, occupies_none, if_neg Bool.noConfusion]
    | some st => rw [Option.getD_some, occupies_some]
  rw [counted]
  exact census_insert

theorem size_evaluate (t : StateTracker) (key : String) (eval : RuleEvaluation) (now : Time) :
    (t.evaluate key eval now).1.entries.size ≤ t.entries.size + 1 :=
  Std.ExtTreeMap.size_insert_le

theorem graded_evaluate {t : StateTracker} (graded : t.Graded) (key : String)
    {eval : RuleEvaluation} (now : Time) (judged : eval.Judged) :
    (t.evaluate key eval now).1.Graded := by
  intro i st held
  unfold evaluate at held
  dsimp only at held
  rw [Std.ExtTreeMap.getElem?_insert] at held
  split at held
  next =>
    cases held
    exact ((advance_outcome t _ eval now).turn judged (graded.getD key)).1
  next => exact graded i st held

theorem graded_prune {t : StateTracker} (graded : t.Graded) (now : Time) (idle : Duration) :
    (t.prune now idle).Graded := by
  intro i st held
  unfold prune at held
  dsimp only at held
  rw [Std.ExtTreeMap.getElem?_filter', Option.filter_eq_some_iff] at held
  exact graded i st held.1

/-- The channels before a sweep are the ones it keeps and the ones it drops. -/
theorem size_prune (t : StateTracker) (now : Time) (idle : Duration) :
    (t.prune now idle).entries.size + t.pruned now idle = t.entries.size := by
  have split := census_add_not (p := fun st : SensorState =>
    st.state = .normal ∧ timeSub now st.lastSeen > idle) (m := t.entries)
  unfold prune pruned
  unfold census at split ⊢
  dsimp only at split ⊢
  omega

/-- A sweep drops no channel that is in alarm. -/
theorem census_prune (t : StateTracker) (p : SensorState → Bool) (now : Time) (idle : Duration)
    (counts : ∀ st, p st = true → st.alarmed = true) :
    census p (t.prune now idle).entries = census p t.entries := by
  unfold prune
  refine census_filter (q := fun st : SensorState => !(st.state = .normal ∧ timeSub now st.lastSeen > idle)) ?_
  intro st counted
  have alarmed := counts st counted
  simp only [SensorState.alarmed, decide_eq_true_eq] at alarmed
  simp [alarmed]

end StateTracker

/-! ## The counters, counted -/

namespace Metrics

/-- Every pair of the label space has its counter. -/
def Complete (m : Metrics) : Prop := ∀ kind severity, (m.transitions kind severity).isSome

theorem newMetrics_complete (startedAt : Time) : (newMetrics startedAt).Complete := by
  intro kind severity
  cases kind <;> cases severity <;> rfl

theorem recordTransition_eq {m : Metrics} (complete : m.Complete) (kind : TransitionKind)
    (severity : Severity) :
    m.recordTransition kind severity =
      { m with transitions := fun k s =>
          if k = kind ∧ s = severity then some (m.count kind severity + 1)
          else m.transitions k s } := by
  have there := complete kind severity
  unfold recordTransition count
  cases held : m.transitions kind severity with
  | none =>
    rw [held] at there
    cases there
  | some n => rfl

theorem recordTransition_complete {m : Metrics} (complete : m.Complete) (kind : TransitionKind)
    (severity : Severity) : (m.recordTransition kind severity).Complete := by
  intro k s
  rw [recordTransition_eq complete]
  dsimp only
  split
  next => rfl
  next => exact complete k s

theorem count_recordTransition {m : Metrics} (complete : m.Complete) (kind k : TransitionKind)
    (severity s : Severity) :
    (m.recordTransition kind severity).count k s =
      m.count k s + if k = kind ∧ s = severity then 1 else 0 := by
  rw [recordTransition_eq complete]
  unfold count
  dsimp only
  split
  next same =>
    obtain ⟨rfl, rfl⟩ := same
    rfl
  next => rfl

/-- How the counters of one process stand to each other. -/
structure Tally (m : Metrics) : Prop where
  complete : m.Complete
  raised : m.count .raised .info = 0
  escalated : m.count .escalated .info = 0 ∧ m.count .escalated .high = 0
  sustained : m.count .sustained .info = 0
  cleared : m.count .cleared .high = 0 ∧ m.count .cleared .critical = 0
  emitted : m.mutationsEmitted = (transitionKinds.map m.total).sum
  breached : m.total .raised + m.total .escalated + m.total .sustained ≤ m.anomalies
  calm : m.total .cleared + m.anomalies ≤ m.rulesEvaluated
  attempted : m.mutationsEmitted + m.mutationsFailed ≤ m.rulesEvaluated
  degraded : m.graphDegraded ≤ m.rulesEvaluated
  consumed : m.eventsRejected + m.eventsDuplicate + m.eventsStale + m.rulesEvaluated ≤
    m.eventsConsumed
  written : m.eventsRejected + m.eventsDuplicate + m.eventsStale + m.cacheWrites ≤
    m.eventsConsumed
  letters : m.dlqMessages = m.eventsRejected + m.processErrors

end Metrics

/-- The counters agree with each other and with the tracker: what was raised and not cleared
is in alarm, what is in alarm without being critical was raised so and has not escalated. -/
structure Balanced (m : Metrics) (t : StateTracker) : Prop where
  tally : m.Tally
  graded : t.Graded
  alarms : m.total .raised = m.total .cleared + t.tracked.2
  episodes : m.count .escalated .critical + census open_ t.entries ≤ m.count .raised .high
  channels : m.statePruned + t.tracked.1 ≤ m.rulesEvaluated

/-! ## One message -/

namespace Metrics

theorem total_eq (m : Metrics) (kind : TransitionKind) :
    m.total kind = m.count kind .info + m.count kind .high + m.count kind .critical := by
  simp [total, severityKinds, Nat.add_assoc]

theorem published_eq (m : Metrics) :
    (transitionKinds.map m.total).sum =
      m.total .raised + m.total .escalated + m.total .sustained + m.total .cleared := by
  simp [transitionKinds, Nat.add_assoc]

/-- What the counters of a message say before its mutation is written: at most one write to
the cache, `rules` evaluations and `breaches` of them. -/
structure Counts (m : Metrics) (rules breaches : Nat) (after : Metrics) : Prop where
  transitions : after.transitions = m.transitions
  cacheWrites : after.cacheWrites ≤ m.cacheWrites + 1
  rulesEvaluated : after.rulesEvaluated = m.rulesEvaluated + rules
  anomalies : after.anomalies = m.anomalies + breaches
  graphDegraded : after.graphDegraded ≤ m.graphDegraded + rules
  eventsConsumed : after.eventsConsumed = m.eventsConsumed
  eventsRejected : after.eventsRejected = m.eventsRejected
  eventsDuplicate : after.eventsDuplicate = m.eventsDuplicate
  eventsStale : after.eventsStale = m.eventsStale
  mutationsEmitted : after.mutationsEmitted = m.mutationsEmitted
  mutationsFailed : after.mutationsFailed = m.mutationsFailed
  dlqMessages : after.dlqMessages = m.dlqMessages
  processErrors : after.processErrors = m.processErrors
  statePruned : after.statePruned = m.statePruned

theorem counts_write (outcome : ApplyOutcome) (m : Metrics) :
    m.Counts 0 0 (Metered.countWrite outcome m) := by
  unfold Metered.countWrite
  split <;> constructor <;> simp

theorem counts_rule (outcome : ApplyOutcome) (eval : RuleEvaluation) (m : Metrics) :
    m.Counts 1 eval.breached.toNat (Metered.countRule eval (Metered.countWrite outcome m)) := by
  have wrote := counts_write outcome m
  generalize Metered.countWrite outcome m = after at wrote ⊢
  unfold Metered.countRule
  dsimp only
  cases eval.breached with
  | true =>
    rw [if_pos rfl]
    exact { wrote with
      rulesEvaluated := congrArg (· + 1) wrote.rulesEvaluated
      anomalies := congrArg (· + 1) wrote.anomalies
      graphDegraded := Nat.le_succ_of_le wrote.graphDegraded }
  | false =>
    rw [if_neg Bool.noConfusion]
    exact { wrote with
      rulesEvaluated := congrArg (· + 1) wrote.rulesEvaluated
      graphDegraded := Nat.le_succ_of_le wrote.graphDegraded }

theorem counts_graph (r : Replies) (outcome : ApplyOutcome) (eval : RuleEvaluation) (m : Metrics) :
    m.Counts 1 eval.breached.toNat
      (Metered.countGraph r (Metered.countRule eval (Metered.countWrite outcome m))) := by
  have ruled := counts_rule outcome eval m
  have sound := (counts_write outcome m).graphDegraded
  have moved : (Metered.countRule eval (Metered.countWrite outcome m)).graphDegraded =
      (Metered.countWrite outcome m).graphDegraded := by
    unfold Metered.countRule
    dsimp only
    split <;> rfl
  rw [← moved] at sound
  generalize Metered.countRule eval (Metered.countWrite outcome m) = after at ruled sound ⊢
  unfold Metered.countGraph
  cases r.graph with
  | error => exact { ruled with graphDegraded := Nat.succ_le_succ sound }
  | ok => exact ruled

theorem Counts.count {m after : Metrics} {rules breaches : Nat}
    (counts : m.Counts rules breaches after) (kind : TransitionKind) (severity : Severity) :
    after.count kind severity = m.count kind severity := by
  unfold Metrics.count
  rw [counts.transitions]

theorem Counts.complete {m after : Metrics} {rules breaches : Nat}
    (counts : m.Counts rules breaches after) (complete : m.Complete) : after.Complete := by
  unfold Complete
  rw [counts.transitions]
  exact complete

/-- Counters that are moved before a mutation is written stay in their proportions, as long
as the message was counted as consumed. -/
theorem Counts.tally {m after : Metrics} {rules breaches : Nat}
    (counts : Counts { m with eventsConsumed := m.eventsConsumed + 1 } rules breaches after)
    (tally : m.Tally) (few : rules ≤ 1) (some_ruled : breaches ≤ rules) : after.Tally := by
  have same : ∀ k s, after.count k s = m.count k s := counts.count
  have consumed := counts.eventsConsumed
  have totals : ∀ k, after.total k = m.total k := fun k => by simp only [total_eq, same]
  constructor
  case complete => exact counts.complete tally.complete
  case raised => rw [same, tally.raised]
  case escalated => rw [same, same]; exact tally.escalated
  case sustained => rw [same, tally.sustained]
  case cleared => rw [same, same]; exact tally.cleared
  case emitted =>
    rw [counts.mutationsEmitted, published_eq]
    simp only [totals]
    rw [← published_eq]
    exact tally.emitted
  case breached =>
    rw [totals, totals, totals, counts.anomalies]
    exact Nat.le_add_right_of_le tally.breached
  case calm =>
    rw [totals, counts.anomalies, counts.rulesEvaluated]
    have := tally.calm
    dsimp only
    omega
  case attempted =>
    rw [counts.mutationsEmitted, counts.mutationsFailed, counts.rulesEvaluated]
    exact Nat.le_add_right_of_le tally.attempted
  case degraded =>
    rw [counts.rulesEvaluated]
    exact counts.graphDegraded.trans (Nat.add_le_add_right tally.degraded _)
  case consumed =>
    rw [counts.eventsRejected, counts.eventsDuplicate, counts.eventsStale, counts.rulesEvaluated,
      consumed]
    have := tally.consumed
    dsimp only
    omega
  case written =>
    rw [counts.eventsRejected, counts.eventsDuplicate, counts.eventsStale, consumed]
    have := tally.written
    have := counts.cacheWrites
    dsimp only at this ⊢
    omega
  case letters =>
    rw [counts.dlqMessages, counts.eventsRejected, counts.processErrors]
    exact tally.letters

/-- The labels a transition can carry. -/
def Labelled : TransitionKind → Severity → Prop
  | .raised, severity => severity ≠ .info
  | .escalated, severity => severity = .critical
  | .sustained, severity => severity ≠ .info
  | .cleared, severity => severity = .info

/-- A published transition is counted against an evaluation that is still in hand, and
against a breach unless it clears the alarm. -/
theorem Tally.record {m : Metrics} (tally : m.Tally) {kind : TransitionKind} {severity : Severity}
    (labelled : Labelled kind severity)
    (breached : m.total .raised + m.total .escalated + m.total .sustained +
      (if kind = .cleared then 0 else 1) ≤ m.anomalies)
    (calm : m.total .cleared + m.anomalies + (if kind = .cleared then 1 else 0) ≤ m.rulesEvaluated)
    (attempted : m.mutationsEmitted + m.mutationsFailed + 1 ≤ m.rulesEvaluated) :
    (recordTransition { m with mutationsEmitted := m.mutationsEmitted + 1 } kind severity).Tally := by
  have complete : Complete { m with mutationsEmitted := m.mutationsEmitted + 1 } := tally.complete
  have counts := count_recordTransition complete kind
  have emitted := tally.emitted
  obtain ⟨-, raised, ⟨escalated, escalated'⟩, sustained, ⟨cleared, cleared'⟩, -⟩ := tally
  rw [published_eq] at emitted
  simp only [total_eq] at emitted breached calm
  constructor
  case complete => exact recordTransition_complete complete kind severity
  case raised => cases kind <;> cases severity <;> simp_all [count, Labelled]
  case escalated => cases kind <;> cases severity <;> simp_all [count, Labelled]
  case sustained => cases kind <;> cases severity <;> simp_all [count, Labelled]
  case cleared => cases kind <;> cases severity <;> simp_all [count, Labelled]
  case emitted =>
    rw [published_eq]
    simp only [total_eq, counts]
    rw [recordTransition_eq complete]
    cases kind <;> cases severity <;> simp [count] at emitted ⊢ <;> omega
  case breached =>
    simp only [total_eq, counts]
    rw [recordTransition_eq complete]
    cases kind <;> cases severity <;> simp [count] at breached ⊢ <;> omega
  case calm =>
    simp only [total_eq, counts]
    rw [recordTransition_eq complete]
    cases kind <;> cases severity <;> simp [count] at calm ⊢ <;> omega
  case attempted =>
    rw [recordTransition_eq complete]
    dsimp only
    omega
  case degraded => rw [recordTransition_eq complete]; assumption
  case consumed => rw [recordTransition_eq complete]; assumption
  case written => rw [recordTransition_eq complete]; assumption
  case letters => rw [recordTransition_eq complete]; assumption

end Metrics

namespace Balanced
variable {m after : Metrics} {t : StateTracker} {rules breaches : Nat}

theorem counted (balanced : Balanced m t)
    (counts : Metrics.Counts { m with eventsConsumed := m.eventsConsumed + 1 } rules breaches after)
    (few : rules ≤ 1) (some_ruled : breaches ≤ rules) : Balanced after t := by
  have same : ∀ k s, after.count k s = m.count k s := counts.count
  refine ⟨counts.tally balanced.tally few some_ruled, balanced.graded, ?_, ?_, ?_⟩
  · simp only [Metrics.total_eq, same]
    simpa only [Metrics.total_eq] using balanced.alarms
  · rw [same, same]
    exact balanced.episodes
  · rw [counts.statePruned, counts.rulesEvaluated]
    exact Nat.le_add_right_of_le balanced.channels

/-- The failed write of a mutation is counted against its evaluation. -/
theorem failed (balanced : Balanced m t)
    (counts : Metrics.Counts { m with eventsConsumed := m.eventsConsumed + 1 } 1 breaches after)
    (some_ruled : breaches ≤ 1) :
    Balanced { after with mutationsFailed := after.mutationsFailed + 1 } t := by
  have kept := balanced.counted counts (Nat.le_refl 1) some_ruled
  refine { kept with tally := { kept.tally with attempted := ?_ } }
  have before := balanced.tally.attempted
  have emitted := counts.mutationsEmitted
  have failed := counts.mutationsFailed
  have ruled := counts.rulesEvaluated
  dsimp only at emitted failed ruled ⊢
  omega

theorem recorded {t' : StateTracker} {kind : TransitionKind} {severity : Severity}
    (balanced : Balanced m t)
    (tally : (Metrics.recordTransition { m with mutationsEmitted := m.mutationsEmitted + 1 }
      kind severity).Tally)
    (labelled : Metrics.Labelled kind severity) (graded : t'.Graded)
    (channels : m.statePruned + t'.tracked.1 ≤ m.rulesEvaluated)
    (alarms : t'.tracked.2 + (if kind = .cleared then 1 else 0) =
      t.tracked.2 + if kind = .raised then 1 else 0)
    (episodes : census open_ t'.entries + (if kind = .escalated then 1 else 0) ≤
      census open_ t.entries + if kind = .raised ∧ severity = .high then 1 else 0) :
    Balanced (Metrics.recordTransition { m with mutationsEmitted := m.mutationsEmitted + 1 }
      kind severity) t' := by
  have complete : Metrics.Complete { m with mutationsEmitted := m.mutationsEmitted + 1 } :=
    balanced.tally.complete
  have counts := Metrics.count_recordTransition complete kind
  have standing := balanced.alarms
  have opened := balanced.episodes
  refine ⟨tally, graded, ?_, ?_, ?_⟩
  · simp only [Metrics.total_eq, counts] at standing ⊢
    cases kind <;> cases severity <;> simp [Metrics.count] at standing alarms ⊢ <;> omega
  · rw [counts, counts]
    cases kind <;> cases severity <;>
      simp [Metrics.count, Metrics.Labelled] at opened episodes labelled ⊢ <;> omega
  · rw [Metrics.recordTransition_eq complete]
    exact channels

/-- The evaluation of one channel, with what it publishes. -/
theorem evaluated (balanced : Balanced m t) {eval : RuleEvaluation} (judged : eval.Judged)
    (key : String) (now : Time)
    (counts : Metrics.Counts { m with eventsConsumed := m.eventsConsumed + 1 } 1
      eval.breached.toNat after) :
    ((t.evaluate key eval now).2.1 = none → Balanced after (t.evaluate key eval now).1) ∧
      ∀ tr, (t.evaluate key eval now).2.1 = some tr →
        Balanced (Metrics.recordTransition
          { after with mutationsEmitted := after.mutationsEmitted + 1 } tr.kind tr.severity)
          (t.evaluate key eval now).1 := by
  have kept := balanced.counted counts (Nat.le_refl 1) (Bool.toNat_le _)
  have graded := StateTracker.graded_evaluate balanced.graded key now judged
  have grown := StateTracker.size_evaluate t key eval now
  have alarms := StateTracker.census_evaluate t SensorState.alarmed rfl key eval now
  have opened := StateTracker.census_evaluate t SensorState.open_ rfl key eval now
  obtain ⟨-, turn, breaches⟩ :=
    (advance_outcome t (t.entries.getD key {}) eval now).turn judged (balanced.graded.getD key)
  have reported : (t.evaluate key eval now).2.1 =
      (t.advance (t.entries.getD key {}) eval now).2 := rfl
  rw [reported]
  generalize (t.advance (t.entries.getD key {}) eval now).2 = transition at turn breaches ⊢
  generalize (t.evaluate key eval now).1 = t' at graded grown alarms opened ⊢
  generalize (t.advance (t.entries.getD key {}) eval now).1 = next at alarms opened turn
  generalize t.entries.getD key {} = prior at alarms opened turn
  have channels : after.statePruned + t'.tracked.1 ≤ after.rulesEvaluated := by
    have before := balanced.channels
    have pruned := counts.statePruned
    have ruled := counts.rulesEvaluated
    unfold StateTracker.tracked at before ⊢
    dsimp only at before pruned ruled ⊢
    omega
  have room : after.mutationsEmitted + after.mutationsFailed + 1 ≤ after.rulesEvaluated := by
    have before := balanced.tally.attempted
    have emitted := counts.mutationsEmitted
    have failed := counts.mutationsFailed
    have ruled := counts.rulesEvaluated
    dsimp only at emitted failed ruled
    omega
  have breached : after.total .raised + after.total .escalated + after.total .sustained +
      eval.breached.toNat ≤ after.anomalies := by
    have before := balanced.tally.breached
    have same : ∀ k s, after.count k s = m.count k s := counts.count
    rw [counts.anomalies]
    simp only [Metrics.total_eq, same] at before ⊢
    omega
  have calm : after.total .cleared + after.anomalies + (1 - eval.breached.toNat) ≤
      after.rulesEvaluated := by
    have before := balanced.tally.calm
    have same : ∀ k s, after.count k s = m.count k s := counts.count
    have few := Bool.toNat_le eval.breached
    rw [counts.anomalies, counts.rulesEvaluated]
    simp only [Metrics.total_eq, same] at before ⊢
    omega
  have publish : ∀ tr : Transition, (eval.breached = true ↔ tr.kind ≠ .cleared) →
      Metrics.Labelled tr.kind tr.severity →
      census alarmed t'.entries + (if tr.kind = .cleared then 1 else 0) =
        census alarmed t.entries + (if tr.kind = .raised then 1 else 0) →
      census open_ t'.entries + (if tr.kind = .escalated then 1 else 0) ≤
        census open_ t.entries + (if tr.kind = .raised ∧ tr.severity = .high then 1 else 0) →
      Balanced (Metrics.recordTransition
        { after with mutationsEmitted := after.mutationsEmitted + 1 } tr.kind tr.severity) t' := by
    intro tr breach labelled alarms episodes
    refine kept.recorded (kept.tally.record labelled ?_ ?_ room) labelled graded channels alarms
      episodes
    · cases loud : eval.breached <;> simp_all
    · cases loud : eval.breached <;> simp_all
  cases turn with
  | silent calm_after rest =>
    refine ⟨fun _ => ?_, fun _ impossible => by cases impossible⟩
    rw [calm_after] at alarms
    rw [rest] at opened
    refine { kept with graded, channels, alarms := ?_, episodes := ?_ }
    · exact kept.alarms.trans (congrArg _ (Nat.add_right_cancel alarms).symm)
    · rw [Nat.add_right_cancel opened]
      exact kept.episodes
  | raised tr kind loud was now shut opens =>
    refine ⟨(nomatch ·), fun _ told => ?_⟩
    cases told
    rw [was, now] at alarms
    rw [shut, opens] at opened
    refine publish tr (breaches tr rfl) (by rw [kind]; exact loud) ?_ ?_
    · simpa [kind] using alarms
    · simpa [kind] using Nat.le_of_eq opened
  | escalated tr kind severity was now wide shuts =>
    refine ⟨(nomatch ·), fun _ told => ?_⟩
    cases told
    rw [was, now] at alarms
    rw [wide, shuts] at opened
    refine publish tr (breaches tr rfl) (by rw [kind]; exact severity) ?_ ?_
    · simpa [kind] using alarms
    · simpa [kind] using Nat.le_of_eq opened
  | sustained tr kind loud was now rest =>
    refine ⟨(nomatch ·), fun _ told => ?_⟩
    cases told
    rw [was, now] at alarms
    rw [rest] at opened
    refine publish tr (breaches tr rfl) (by rw [kind]; exact loud) ?_ ?_
    · simpa [kind] using alarms
    · simpa [kind] using Nat.le_of_eq (Nat.add_right_cancel opened)
  | cleared tr kind severity was now shuts =>
    refine ⟨(nomatch ·), fun _ told => ?_⟩
    cases told
    rw [was, now] at alarms
    rw [shuts] at opened
    refine publish tr (breaches tr rfl) (by rw [kind]; exact severity) ?_ ?_
    · simpa [kind] using alarms
    · simp only [kind]
      simp at opened ⊢
      omega

end Balanced

/-! ## Runs -/

namespace Metered

theorem Charge.balanced {s : Metered} {m after : Metrics} {r : Replies} {ev : TelemetryEvent}
    {t : StateTracker} (charge : s.Charge r ev after t)
    (consumed : s.metrics = { m with eventsConsumed := m.eventsConsumed + 1 })
    (balanced : Balanced m s.engine.tracker) : Balanced after t := by
  have untouched : Metrics.Counts { m with eventsConsumed := m.eventsConsumed + 1 } 0 0 s.metrics := by
    rw [consumed]
    constructor <;> simp
  cases charge with
  | unapplied => exact balanced.counted untouched (Nat.zero_le _) (Nat.zero_le _)
  | stale =>
    have kept := balanced.counted untouched (Nat.zero_le _) (Nat.zero_le _)
    have before := balanced.tally
    refine { kept with tally := { kept.tally with consumed := ?_, written := ?_ } }
    · have ordered := before.consumed
      rw [consumed]
      dsimp only
      omega
    · have ordered := before.written
      rw [consumed]
      dsimp only
      omega
  | ungoverned outcome =>
    have counts := Metrics.counts_write outcome s.metrics
    rw [consumed] at counts ⊢
    exact balanced.counted counts (Nat.zero_le _) (Nat.zero_le _)
  | absorbed outcome eval judged silent =>
    have counts := Metrics.counts_rule outcome eval s.metrics
    rw [consumed] at counts ⊢
    exact (balanced.evaluated judged ev.cacheKey r.now counts).1 silent
  | unmarked outcome eval =>
    have counts := Metrics.counts_graph r outcome eval s.metrics
    rw [consumed] at counts ⊢
    exact balanced.counted counts (Nat.le_refl 1) (Bool.toNat_le _)
  | unsent outcome eval m' counted =>
    have counts := Metrics.counts_graph r outcome eval s.metrics
    rw [← counted, consumed] at counts
    exact balanced.failed counts (Bool.toNat_le _)
  | published outcome eval judged tr emits m' counted =>
    have counts := Metrics.counts_graph r outcome eval s.metrics
    rw [← counted, consumed] at counts
    exact (balanced.evaluated judged ev.cacheKey r.now counts).2 tr emits

/-- The counters and the tracker of one engine agree. -/
def Sound (s : Metered) : Prop := Balanced s.metrics s.engine.tracker

theorem reject_sound {m : Metrics} {e : Engine} (balanced : Balanced m e.tracker) (reason : String) :
    (reject ⟨{ m with eventsConsumed := m.eventsConsumed + 1 }, e⟩ reason).1.Sound := by
  have tally := balanced.tally
  refine { balanced with tally := { tally with consumed := ?_, written := ?_, letters := ?_ } }
  · have ordered := tally.consumed
    dsimp only [reject]
    omega
  · have ordered := tally.written
    dsimp only [reject]
    omega
  · have letters := tally.letters
    dsimp only [reject]
    omega

section
variable (toLower : Char → Char) (table : CaseTable)

theorem process_sound {s : Metered} (sound : s.Sound) (r : Replies) (msg : Option TelemetryEvent) :
    (s.process toLower table r msg).1.Sound := by
  unfold process
  cases msg with
  | none => exact reject_sound sound "decode_failed"
  | some raw =>
    dsimp only
    split
    next => exact reject_sound sound "validation_failed"
    next =>
      cases r.admission with
      | invalidInput => exact reject_sound sound "idempotency_input_invalid"
      | unavailable =>
        refine @Balanced.counted _ _ _ 0 0 sound ?_ (Nat.zero_le _) (Nat.zero_le _)
        constructor <;> simp
      | duplicate =>
        have tally := sound.tally
        refine { sound with tally := { tally with consumed := ?_, written := ?_ } }
        · have ordered := tally.consumed
          dsimp only
          omega
        · have ordered := tally.written
          dsimp only
          omega
      | admitted => exact (handle_charge table _ r _).balanced rfl sound

theorem exhaust_sound {s : Metered} (sound : s.Sound) : s.exhaust.Sound := by
  have tally := sound.tally
  refine { sound with tally := { tally with letters := ?_ } }
  have letters := tally.letters
  dsimp only [exhaust]
  omega

theorem janitor_sound {s : Metered} (sound : s.Sound) (now : Time) (idle : Duration) :
    (s.janitor now idle).Sound := by
  have graded := StateTracker.graded_prune sound.graded now idle
  have swept := s.engine.tracker.size_prune now idle
  have alarms := s.engine.tracker.census_prune SensorState.alarmed now idle fun _ counted => counted
  have opened := s.engine.tracker.census_prune open_ now idle fun st counted => by
    simp only [open_, Bool.decide_and, Bool.and_eq_true] at counted
    exact counted.1
  refine ⟨{ sound.tally with }, graded, ?_, ?_, ?_⟩
  · exact sound.alarms.trans (congrArg _ alarms.symm)
  · have episodes := sound.episodes
    rw [← opened] at episodes
    exact episodes
  · have channels := sound.channels
    dsimp only [StateTracker.tracked, janitor] at channels ⊢
    omega

end

/-- What every attempt keeps, the retries keep. -/
theorem withRetryFrom_keeps {σ : Type} {cancelled contextual : ℕ → Bool} {base : Duration}
    {op : ℕ → σ → σ × Option String} (I : σ → Prop) (keeps : ∀ n s, I s → I (op n s).1)
    (left attempt : ℕ) (lastErr : Option String) {s final : σ} {err : Option String} (start : I s)
    (ran : withRetryFrom cancelled contextual base op attempt left lastErr s = some (final, err)) :
    I final := by
  induction left generalizing attempt lastErr s with
  | zero =>
    cases ran
    exact start
  | succ left ih =>
    have kept := keeps attempt s start
    unfold withRetryFrom at ran
    split at ran
    next =>
      cases ran
      exact start
    next =>
      cases outcome : op attempt s with
      | mk next failure =>
        rw [outcome] at ran kept
        cases failure with
        | none =>
          cases ran
          exact kept
        | some failure =>
          dsimp only at ran
          split at ran
          next =>
            cases ran
            exact kept
          next =>
            split at ran
            next =>
              cases ran
              exact kept
            next =>
              split at ran
              next => cases ran
              next => exact ih (attempt + 1) (some failure) kept ran

section
variable (toLower : Char → Char) (table : CaseTable)

theorem processWithRetry_sound {s final : Metered} (sound : s.Sound) (d : Message)
    (done : s.processWithRetry toLower table d = some final) : final.Sound := by
  unfold processWithRetry at done
  cases ran : withRetry d.cancelled d.contextual 200000000
      (fun n s => process toLower table s (d.replies n) d.msg) d.maxAttempts s with
  | none =>
    rw [ran] at done
    cases done
  | some outcome =>
    obtain ⟨after, err⟩ := outcome
    have kept : after.Sound := withRetryFrom_keeps Sound
      (fun n s sound => process_sound toLower table sound (d.replies n) d.msg) _ _ _ sound ran
    rw [ran] at done
    cases err with
    | none =>
      cases done
      exact kept
    | some err =>
      dsimp only at done
      split at done
      next =>
        cases done
        exact kept
      next =>
        cases done
        exact exhaust_sound kept

theorem start_sound (startedAt : Time) (cfg : RuleConfig) (replica : TopologyReplica) :
    (start startedAt cfg replica).Sound := by
  have untracked : (start startedAt cfg replica).engine.tracker.entries = ∅ := rfl
  refine ⟨?_, ?_, ?_, ?_, ?_⟩
  · have zero : ∀ k s, (newMetrics startedAt).count k s = 0 := by
      intro k s
      cases k <;> cases s <;> rfl
    constructor
    case complete => exact Metrics.newMetrics_complete startedAt
    all_goals simp only [start, Metrics.published_eq, Metrics.total_eq, zero]
    all_goals simp [newMetrics]
  · intro key st held
    rw [untracked, Std.ExtTreeMap.getElem?_empty] at held
    cases held
  · unfold StateTracker.tracked
    rw [untracked, census_empty]
    rfl
  · rw [untracked, census_empty]
    exact Nat.le_refl 0
  · unfold StateTracker.tracked
    rw [untracked, Std.ExtTreeMap.size_empty]
    exact Nat.le_refl 0

/-- Between any two messages the counters agree with each other and with the tracker,
whatever the calls of the attempts returned, however often a message was attempted and
whenever the janitor ran. -/
theorem metrics_balanced (startedAt : Time) (cfg : RuleConfig) (replica : TopologyReplica)
    (events : List Event) (final : Metered)
    (ran : run (step toLower table) (start startedAt cfg replica) events = some final) :
    Balanced final.metrics final.engine.tracker := by
  refine run_preserves (step toLower table) Sound ?_ events _ final
    (start_sound startedAt cfg replica) ran
  intro s event next sound stepped
  cases event with
  | message d => exact processWithRetry_sound toLower table sound d stepped
  | tick now idle =>
    cases stepped
    exact janitor_sound sound now idle

end

/-- A message that does not decode. -/
def garbled : Message where
  msg := none
  maxAttempts := 3
  replies := fun _ => Engine.unpublished
  cancelled := fun _ => false
  contextual := fun _ => false

/-- A garbled message is consumed, rejected and dead-lettered, and its counters agree. -/
theorem metrics_balanced_garbled : ∃ final : Metered,
    run (step Char.toLower asciiCase)
        (start 0 defaultHysteresis ⟨false, newGraphCRDT "replica-0" "" 0⟩)
        [.message garbled, .tick 1 0] = some final ∧
      final.metrics.dlqMessages = 1 ∧ Balanced final.metrics final.engine.tracker :=
  ⟨_, rfl, rfl, metrics_balanced Char.toLower asciiCase 0 defaultHysteresis
    ⟨false, newGraphCRDT "replica-0" "" 0⟩ [.message garbled, .tick 1 0] _ rfl⟩

end Metered
end OpenOntology.Resolution
