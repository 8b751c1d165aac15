import OpenOntology.Replica.Observe
import OpenOntology.Resolution.AlarmTrace

/-!
# Processing one telemetry event

`process` takes one message from decoding to the published mutation. Every call that
leaves the engine may fail; `Replies` says how each of them comes out. The tracker is
rolled back when the message fails after its evaluation, the alarm record is not.
-/
namespace OpenOntology.Resolution

open Crdt Replica

/-- `time.Time.UnixMilli`: instants count from the year 1, Unix time from 1970. -/
def unixMilli (t : Time) : Int := (t - 62135596800000000000) / 1000000

/-- `Normalize`; `toLower` is the rune mapping of `strings.ToLower`. -/
def TelemetryEvent.normalize (toLower : Char → Char) (e : TelemetryEvent) : TelemetryEvent :=
  { e with
    assetID := trimSpace e.assetID
    sensorID := String.ofList ((trimSpace e.sensorID).toList.map toLower)
    unit := trimSpace e.unit }

/-! ## The live twin -/

inductive ApplyOutcome where
  | stale
  | written
  | unchanged
  deriving DecidableEq, Repr

def ApplyOutcome.fresh (o : ApplyOutcome) : Bool := o != .stale

structure Twin where
  assetID : String
  sensorID : String
  value : Float
  unit : String
  observedAtMs : Int
  ingestedAtMs : Int

/-- The record an operator sees while a channel is in alarm. -/
structure AlarmRecord where
  assetID : String
  sensorID : String
  severity : Severity
  transition : TransitionKind
  eventID : String
  activeSince : Time
  breachCount : Nat
  value : Float
  updatedAt : Time

structure StateCache where
  twins : Std.ExtTreeMap String Twin
  alarms : Std.ExtTreeMap String AlarmRecord

namespace StateCache

/-- `applyReadingScript`. -/
def apply (c : StateCache) (ev : TelemetryEvent) (now : Time) : StateCache × ApplyOutcome :=
  let incoming := unixMilli ev.timestamp
  let twin : Twin := ⟨ev.assetID, ev.sensorID, ev.value, ev.unit, incoming, unixMilli now⟩
  let written : StateCache := { c with twins := c.twins.insert ev.cacheKey twin }
  match c.twins[ev.cacheKey]? with
  | none => (written, .written)
  | some held =>
    if held.observedAtMs > incoming then (c, .stale)
    else if held.observedAtMs = incoming then (c, .unchanged)
    else (written, .written)

def markAlarm (c : StateCache) (ev : TelemetryEvent) (t : Transition) (eventID : String)
    (now : Time) : StateCache :=
  let key := alarmKey ev.assetID ev.sensorID
  if t.kind = .cleared then { c with alarms := c.alarms.erase key }
  else
    let record : AlarmRecord :=
      ⟨ev.assetID, ev.sensorID, t.severity, t.kind, eventID, t.activeSince, t.breachCount,
        ev.value, now⟩
    { c with alarms := c.alarms.insert key record }

end StateCache

/-! ## The engine -/

structure SensorReading where
  sensorID : String
  value : Float
  unit : String
  observedAt : Time

structure EnrichedContextPayload where
  eventID : String
  emittedAt : Time
  assetID : String
  transition : TransitionKind
  severity : Severity
  anomalyActiveSince : Time
  breachCount : Nat
  rule : RuleEvaluation
  readings : List SensorReading
  complete : Bool
  ontologyContext : OntologyContext
  degraded : Bool
  degradedReason : String

/-- How the idempotency filter answers. -/
inductive Admission where
  | admitted
  | duplicate
  | invalidInput
  | unavailable
  deriving DecidableEq, Repr

/-- How the calls of one `process` come out, and the clock it reads. -/
structure Replies where
  admission : Admission := .admitted
  apply : Bool := true
  snapshot : Except String (List SensorReading) := .ok []
  graph : Except String OntologyContext
  mark : Bool := true
  emit : Bool := true
  eventID : String
  ingestedAt : Time
  now : Time

structure Engine where
  rules : RuleEngine
  tracker : StateTracker
  cache : StateCache
  replica : TopologyReplica
  mutations : List EnrichedContextPayload
  deadLetters : List String

def newEngine (cfg : RuleConfig) (replica : TopologyReplica) : Engine where
  rules := newRuleEngine cfg
  tracker := newStateTracker cfg.reAlertInterval cfg.hysteresisRatio
  cache := ⟨∅, ∅⟩
  replica := replica
  mutations := []
  deadLetters := []

def firstNonEmpty (a b : String) : String := if a = "" then b else a

def appendReason (existing addition : String) : String :=
  if existing = "" then addition else existing ++ "; " ++ addition

namespace Engine

/-- `buildPayload` never fails: a missing snapshot or graph context degrades it. -/
def buildPayload (table : CaseTable) (e : Engine) (r : Replies) (ev : TelemetryEvent)
    (eval : RuleEvaluation) (t : Transition) : EnrichedContextPayload × TopologyReplica :=
  let trigger : SensorReading :=
    ⟨ev.sensorID, ev.value, firstNonEmpty ev.unit eval.threshold.unit, ev.timestamp⟩
  let (readings, complete, reason) :=
    match r.snapshot with
    | .error err => ([trigger], false, "snapshot_unavailable: " ++ err)
    | .ok [] => ([trigger], false, "")
    | .ok readings => (readings, true, "")
  let (context, reason, replica) :=
    match r.graph with
    | .error err =>
      ({ assetID := ev.assetID }, appendReason reason ("graph_unavailable: " ++ err), e.replica)
    | .ok context => (context, reason, e.replica.observe table context)
  ({ eventID := r.eventID, emittedAt := r.now, assetID := ev.assetID, transition := t.kind
     severity := t.severity, anomalyActiveSince := t.activeSince, breachCount := t.breachCount
     rule := eval, readings, complete, ontologyContext := context, degraded := reason != ""
     degradedReason := reason }, replica)

/-- The part of `process` after the idempotency claim was granted: the engine it
leaves and the error it returns. -/
def handle (table : CaseTable) (e : Engine) (r : Replies) (ev : TelemetryEvent) :
    Engine × Option String :=
  if r.apply = false then (e, some "cache apply")
  else
    let (cache, outcome) := e.cache.apply ev r.ingestedAt
    if outcome.fresh = false then ({ e with cache }, none)
    else
      match e.rules.evaluate ev with
      | none => ({ e with cache }, none)
      | some eval =>
        let (tracker, transition, undo) := e.tracker.evaluate ev.cacheKey eval r.now
        match transition with
        | none => ({ e with cache, tracker }, none)
        | some t =>
          let (payload, replica) := e.buildPayload table r ev eval t
          if r.mark = false then
            ({ e with cache, replica, tracker := tracker.rollback undo }, some "mark alarm")
          else
            let cache := cache.markAlarm ev t payload.eventID r.now
            if r.emit = false then
              ({ e with cache, replica, tracker := tracker.rollback undo }, some "emit mutation")
            else
              ({ e with cache, replica, tracker, mutations := payload :: e.mutations }, none)

/-- `process` on a message, which is `none` where it does not decode. -/
def process (toLower : Char → Char) (table : CaseTable) (e : Engine) (r : Replies)
    (msg : Option TelemetryEvent) : Engine × Option String :=
  match msg with
  | none => ({ e with deadLetters := "decode_failed" :: e.deadLetters }, none)
  | some raw =>
    let ev := raw.normalize toLower
    if ev.validate = false then
      ({ e with deadLetters := "validation_failed" :: e.deadLetters }, none)
    else
      match r.admission with
      | .invalidInput =>
        ({ e with deadLetters := "idempotency_input_invalid" :: e.deadLetters }, none)
      | .unavailable => (e, some "idempotency filter")
      | .duplicate => (e, none)
      | .admitted => e.handle table r ev

end Engine

/-! ## Agreement of the alarm record and the tracker -/

def AlarmAgrees (t : StateTracker) (c : StateCache) (assetID sensorID : String) : Prop :=
  (c.alarms[alarmKey assetID sensorID]?).isSome = t.anomalous (twinKey assetID sensorID)

namespace Engine

/-- The channel's alarm record stands exactly when the tracker holds it in alarm. -/
def Agrees (e : Engine) (assetID sensorID : String) : Prop :=
  AlarmAgrees e.tracker e.cache assetID sensorID

/-- The reading raises or releases the channel's alarm. -/
def Flips (e : Engine) (ev : TelemetryEvent) : Prop :=
  ∃ eval, e.rules.evaluate ev = some eval ∧
    ((eval.breached = true ∧ e.tracker.anomalous ev.cacheKey = false) ∨
      (eval.breached = false ∧ e.tracker.anomalous ev.cacheKey = true ∧
        ¬eval.observed > e.tracker.clearAt eval))

/-- The mutation of a raised or released alarm is marked and then not published. -/
structure Splits (e : Engine) (r : Replies) (ev : TelemetryEvent) : Prop where
  admitted : r.admission = .admitted
  applied : r.apply = true
  fresh : (e.cache.apply ev r.ingestedAt).2.fresh = true
  flips : e.Flips ev
  marked : r.mark = true
  unpublished : r.emit = false

end Engine

theorem twinKey_eq_iff (a s a' s' : String) :
    twinKey a s = twinKey a' s' ↔ alarmKey a s = alarmKey a' s' := by
  simp only [twinKey, alarmKey, ← String.toList_inj, String.toList_append, List.append_assoc,
    List.append_cancel_left_eq]

/-- What a transition says about the state before and after it. -/
theorem Outcome.emitted {t : StateTracker} {st next : SensorState} {eval : RuleEvaluation}
    {now : Time} {tr : Transition} (outcome : Outcome t st eval now next (some tr)) :
    (next.state = .anomalous ↔ tr.kind ≠ .cleared) ∧
      ((tr.kind ≠ .cleared ↔ st.state = .anomalous) ↔
        ¬(tr.kind = .raised ∨ tr.kind = .cleared)) := by
  cases outcome with
  | raised severity breached was => simp [was]
  | escalated breached was => simp [was]
  | sustained breached was => simp [was]
  | cleared calm was => simp [was]

theorem Outcome.silent {t : StateTracker} {st next : SensorState} {eval : RuleEvaluation}
    {now : Time} (outcome : Outcome t st eval now next none) : next.state = st.state := by
  cases outcome with
  | repeated breached was => exact was.symm
  | quiet calm was => exact was.symm
  | held calm was => exact was.symm

/-- A reading flips the alarm exactly when its evaluation raises or clears it. -/
theorem Outcome.flips {t : StateTracker} {st next : SensorState} {eval : RuleEvaluation}
    {now : Time} {transition : Option Transition}
    (outcome : Outcome t st eval now next transition) :
    ((eval.breached = true ∧ st.state ≠ .anomalous) ∨
        (eval.breached = false ∧ st.state = .anomalous ∧ ¬eval.observed > t.clearAt eval)) ↔
      ∃ tr, transition = some tr ∧ (tr.kind = .raised ∨ tr.kind = .cleared) := by
  cases outcome with
  | raised severity breached was => simp [breached, was]
  | escalated breached was => simp [breached, was]
  | sustained breached was => simp [breached, was]
  | repeated breached was => simp [breached, was]
  | quiet calm was => simp [calm, was]
  | held calm was above => simp [calm, was, above]
  | cleared calm was not_above => simp [calm, was, not_above]

/-- Taking an evaluation back at once leaves the tracker as it was. -/
theorem rollback_evaluate (t : StateTracker) (key : String) (eval : RuleEvaluation)
    (now : Time) : (t.evaluate key eval now).1.rollback (t.evaluate key eval now).2.2 = t := by
  unfold StateTracker.evaluate StateTracker.rollback
  dsimp only
  simp only [Bool.true_eq_false, if_false, Std.ExtTreeMap.getElem?_insert_self, ne_eq,
    not_true]
  have entries : ∀ m : Std.ExtTreeMap String SensorState, (∀ k : String, m[k]? = t.entries[k]?) →
      ({ t with entries := m } : StateTracker) = t := by
    intro m same
    rw [Std.ExtTreeMap.ext_getElem? same]
  cases held : t.entries[key]? with
  | none =>
    rw [if_pos Option.isSome_none]
    apply entries
    intro k
    rw [Std.ExtTreeMap.getElem?_erase, Std.ExtTreeMap.getElem?_insert]
    split
    next same => rw [← compare_eq_iff_eq.mp same, held]
    next => rfl
  | some st =>
    rw [if_neg (by simp)]
    apply entries
    intro k
    rw [Std.ExtTreeMap.getElem?_insert, Std.ExtTreeMap.getElem?_insert,
      Std.ExtTreeMap.getD_eq_getD_getElem?, held]
    split
    next same => rw [← compare_eq_iff_eq.mp same, held]; rfl
    next => rfl

theorem anomalous_evaluate (t : StateTracker) (key : String) (eval : RuleEvaluation)
    (now : Time) (k : String) :
    (t.evaluate key eval now).1.anomalous k =
      if key = k then decide ((t.advance (t.entries.getD key {}) eval now).1.state = .anomalous)
      else t.anomalous k := by
  unfold StateTracker.evaluate StateTracker.anomalous
  dsimp only
  rw [Std.ExtTreeMap.getElem?_insert]
  by_cases same : key = k
  · rw [if_pos same, if_pos (compare_eq_iff_eq.mpr same)]
  · rw [if_neg same, if_neg (fun equal => same (compare_eq_iff_eq.mp equal))]

theorem anomalous_eq (t : StateTracker) (key : String) :
    t.anomalous key = decide ((t.entries.getD key {}).state = .anomalous) := by
  unfold StateTracker.anomalous
  rw [Std.ExtTreeMap.getD_eq_getD_getElem?]
  cases t.entries[key]? <;> rfl

theorem apply_alarms (c : StateCache) (ev : TelemetryEvent) (now : Time) :
    (c.apply ev now).1.alarms = c.alarms := by
  unfold StateCache.apply
  dsimp only
  split
  next => rfl
  next =>
    split
    next => rfl
    next => split <;> rfl

theorem markAlarm_isSome (c : StateCache) (ev : TelemetryEvent) (t : Transition)
    (eventID : String) (now : Time) (key : String) :
    ((c.markAlarm ev t eventID now).alarms[key]?).isSome =
      if alarmKey ev.assetID ev.sensorID = key then decide (t.kind ≠ .cleared)
      else (c.alarms[key]?).isSome := by
  unfold StateCache.markAlarm
  dsimp only
  by_cases same : alarmKey ev.assetID ev.sensorID = key
  · rw [if_pos same, ← same]
    split
    next cleared => simp [cleared]
    next standing => simp [standing]
  · have differs : ¬compare (alarmKey ev.assetID ev.sensorID) key = .eq :=
      fun equal => same (compare_eq_iff_eq.mp equal)
    rw [if_neg same]
    split
    next => rw [Std.ExtTreeMap.getElem?_erase, if_neg differs]
    next => rw [Std.ExtTreeMap.getElem?_insert, if_neg differs]

namespace Engine

/-! ## The courses of `handle` -/

/-- Every way `handle` can go, with its guards and what it leaves. -/
inductive Course (e : Engine) (table : CaseTable) (r : Replies) (ev : TelemetryEvent) :
    Engine × Option String → Prop where
  | unapplied (failed : r.apply = false) : Course e table r ev (e, some "cache apply")
  | stale (applied : r.apply = true) (stale : (e.cache.apply ev r.ingestedAt).2.fresh = false) :
      Course e table r ev ({ e with cache := (e.cache.apply ev r.ingestedAt).1 }, none)
  | ungoverned (applied : r.apply = true) (fresh : (e.cache.apply ev r.ingestedAt).2.fresh = true)
      (verdict : e.rules.evaluate ev = none) :
      Course e table r ev ({ e with cache := (e.cache.apply ev r.ingestedAt).1 }, none)
  | absorbed (applied : r.apply = true) (fresh : (e.cache.apply ev r.ingestedAt).2.fresh = true)
      (eval : RuleEvaluation) (verdict : e.rules.evaluate ev = some eval)
      (silent : (e.tracker.evaluate ev.cacheKey eval r.now).2.1 = none) :
      Course e table r ev
        ({ e with cache := (e.cache.apply ev r.ingestedAt).1
                  tracker := (e.tracker.evaluate ev.cacheKey eval r.now).1 }, none)
  | unmarked (applied : r.apply = true) (fresh : (e.cache.apply ev r.ingestedAt).2.fresh = true)
      (eval : RuleEvaluation) (t : Transition) (verdict : e.rules.evaluate ev = some eval)
      (emits : (e.tracker.evaluate ev.cacheKey eval r.now).2.1 = some t)
      (unmarked : r.mark = false) :
      Course e table r ev
        ({ e with cache := (e.cache.apply ev r.ingestedAt).1
                  replica := (e.buildPayload table r ev eval t).2 }, some "mark alarm")
  | unsent (applied : r.apply = true) (fresh : (e.cache.apply ev r.ingestedAt).2.fresh = true)
      (eval : RuleEvaluation) (t : Transition) (verdict : e.rules.evaluate ev = some eval)
      (emits : (e.tracker.evaluate ev.cacheKey eval r.now).2.1 = some t)
      (marked : r.mark = true) (unsent : r.emit = false) :
      Course e table r ev
        ({ e with cache := (e.cache.apply ev r.ingestedAt).1.markAlarm ev t r.eventID r.now
                  replica := (e.buildPayload table r ev eval t).2 }, some "emit mutation")
  | published (applied : r.apply = true) (fresh : (e.cache.apply ev r.ingestedAt).2.fresh = true)
      (eval : RuleEvaluation) (t : Transition) (verdict : e.rules.evaluate ev = some eval)
      (emits : (e.tracker.evaluate ev.cacheKey eval r.now).2.1 = some t)
      (marked : r.mark = true) (sent : r.emit = true) :
      Course e table r ev
        ({ e with cache := (e.cache.apply ev r.ingestedAt).1.markAlarm ev t r.eventID r.now
                  replica := (e.buildPayload table r ev eval t).2
                  tracker := (e.tracker.evaluate ev.cacheKey eval r.now).1
                  mutations := (e.buildPayload table r ev eval t).1 :: e.mutations }, none)

theorem handle_course (table : CaseTable) (e : Engine) (r : Replies) (ev : TelemetryEvent) :
    e.Course table r ev (e.handle table r ev) := by
  unfold handle
  by_cases failed : r.apply = false
  · rw [if_pos failed]
    exact .unapplied failed
  have applied := Bool.eq_true_of_not_eq_false failed
  rw [if_neg failed]
  dsimp only
  by_cases stale : (e.cache.apply ev r.ingestedAt).2.fresh = false
  · rw [if_pos stale]
    exact .stale applied stale
  have fresh := Bool.eq_true_of_not_eq_false stale
  rw [if_neg stale]
  cases verdict : e.rules.evaluate ev with
  | none => exact .ungoverned applied fresh verdict
  | some eval =>
    dsimp only
    cases emits : (e.tracker.evaluate ev.cacheKey eval r.now).2.1 with
    | none => exact .absorbed applied fresh eval verdict emits
    | some t =>
      dsimp only
      by_cases unmarked : r.mark = false
      · rw [if_pos unmarked]
        rw [rollback_evaluate]
        exact .unmarked applied fresh eval t verdict emits unmarked
      have marked := Bool.eq_true_of_not_eq_false unmarked
      rw [if_neg unmarked]
      cases sent : r.emit with
      | false =>
        rw [if_pos rfl]
        rw [rollback_evaluate]
        exact .unsent applied fresh eval t verdict emits marked sent
      | true => exact .published applied fresh eval t verdict emits marked sent

/-! ## What one message does to the tracker and the alarm records -/

/-- The ways `handle` can come out, by what it leaves of the tracker and the records. -/
inductive Settles (e : Engine) (r : Replies) (ev : TelemetryEvent) :
    StateTracker → StateCache → Prop where
  | untouched (cache : StateCache) (alarms : cache.alarms = e.cache.alarms)
      (sound : ¬e.Splits r ev) : Settles e r ev e.tracker cache
  | absorbed (cache : StateCache) (alarms : cache.alarms = e.cache.alarms)
      (eval : RuleEvaluation) (verdict : e.rules.evaluate ev = some eval)
      (silent : (e.tracker.evaluate ev.cacheKey eval r.now).2.1 = none) :
      Settles e r ev (e.tracker.evaluate ev.cacheKey eval r.now).1 cache
  | published (cache : StateCache) (alarms : cache.alarms = e.cache.alarms)
      (eval : RuleEvaluation) (t : Transition) (verdict : e.rules.evaluate ev = some eval)
      (emits : (e.tracker.evaluate ev.cacheKey eval r.now).2.1 = some t)
      (sent : r.emit = true) :
      Settles e r ev (e.tracker.evaluate ev.cacheKey eval r.now).1
        (cache.markAlarm ev t r.eventID r.now)
  | withdrawn (cache : StateCache) (alarms : cache.alarms = e.cache.alarms)
      (eval : RuleEvaluation) (t : Transition) (verdict : e.rules.evaluate ev = some eval)
      (emits : (e.tracker.evaluate ev.cacheKey eval r.now).2.1 = some t)
      (splits : r.admission = .admitted → (e.Splits r ev ↔ e.Flips ev)) :
      Settles e r ev e.tracker (cache.markAlarm ev t r.eventID r.now)

theorem handle_settles (table : CaseTable) (e : Engine) (r : Replies) (ev : TelemetryEvent) :
    e.Settles r ev (e.handle table r ev).1.tracker (e.handle table r ev).1.cache := by
  have alarms := apply_alarms e.cache ev r.ingestedAt
  have course := handle_course table e r ev
  generalize e.handle table r ev = done at course ⊢
  cases course with
  | unapplied failed =>
    refine .untouched _ rfl fun splits => ?_
    rw [splits.applied] at failed
    cases failed
  | stale applied stale =>
    refine .untouched _ alarms fun splits => ?_
    rw [splits.fresh] at stale
    cases stale
  | ungoverned applied fresh verdict =>
    refine .untouched _ alarms fun splits => ?_
    obtain ⟨eval, some_verdict, -⟩ := splits.flips
    rw [verdict] at some_verdict
    cases some_verdict
  | absorbed applied fresh eval verdict silent => exact .absorbed _ alarms eval verdict silent
  | unmarked applied fresh eval t verdict emits unmarked =>
    refine .untouched _ alarms fun splits => ?_
    rw [splits.marked] at unmarked
    cases unmarked
  | unsent applied fresh eval t verdict emits marked unsent =>
    refine .withdrawn _ alarms eval t verdict emits fun admitted => ?_
    exact ⟨Splits.flips, fun flips => ⟨admitted, applied, fresh, flips, marked, unsent⟩⟩
  | published applied fresh eval t verdict emits marked sent =>
    exact .published _ alarms eval t verdict emits sent

theorem flips_iff {e : Engine} {ev : TelemetryEvent} {eval : RuleEvaluation}
    (verdict : e.rules.evaluate ev = some eval) (now : Time) :
    e.Flips ev ↔ ∃ tr, (e.tracker.evaluate ev.cacheKey eval now).2.1 = some tr ∧
      (tr.kind = .raised ∨ tr.kind = .cleared) := by
  have outcome := advance_outcome e.tracker (e.tracker.entries.getD ev.cacheKey {}) eval now
  refine Iff.trans ?_ outcome.flips
  unfold Flips
  rw [anomalous_eq, verdict]
  simp

/-- Other channels keep their record and their state. -/
theorem Settles.other {e : Engine} {r : Replies} {ev : TelemetryEvent} {tracker : StateTracker}
    {cache : StateCache} (settles : e.Settles r ev tracker cache) {assetID sensorID : String}
    (other : alarmKey ev.assetID ev.sensorID ≠ alarmKey assetID sensorID) :
    AlarmAgrees tracker cache assetID sensorID ↔ e.Agrees assetID sensorID := by
  have elsewhere : ev.cacheKey ≠ twinKey assetID sensorID := fun same =>
    other ((twinKey_eq_iff ..).mp same)
  unfold Agrees AlarmAgrees
  cases settles with
  | untouched _ alarms => rw [alarms]
  | absorbed _ alarms => rw [alarms, anomalous_evaluate, if_neg elsewhere]
  | published _ alarms =>
    rw [markAlarm_isSome, if_neg other, alarms, anomalous_evaluate, if_neg elsewhere]
  | withdrawn _ alarms => rw [markAlarm_isSome, if_neg other, alarms]

/-- The message's own channel keeps its agreement exactly when the message does not
split the two. -/
theorem Settles.own {e : Engine} {r : Replies} {ev : TelemetryEvent} {tracker : StateTracker}
    {cache : StateCache} (settles : e.Settles r ev tracker cache) (admitted : r.admission = .admitted)
    (agreed : e.Agrees ev.assetID ev.sensorID) :
    AlarmAgrees tracker cache ev.assetID ev.sensorID ↔ ¬e.Splits r ev := by
  have own : ev.cacheKey = twinKey ev.assetID ev.sensorID := rfl
  unfold Agrees AlarmAgrees at agreed
  unfold AlarmAgrees
  cases settles with
  | untouched _ alarms sound =>
    rw [alarms]
    exact ⟨fun _ => sound, fun _ => agreed⟩
  | absorbed _ alarms eval verdict silent =>
    have outcome := advance_outcome e.tracker (e.tracker.entries.getD ev.cacheKey {}) eval r.now
    have stays : (e.tracker.advance (e.tracker.entries.getD ev.cacheKey {}) eval r.now).2 = none :=
      silent
    rw [stays] at outcome
    rw [alarms, anomalous_evaluate, if_pos own, outcome.silent, agreed, anomalous_eq, own]
    refine ⟨fun _ splits => ?_, fun _ => rfl⟩
    obtain ⟨tr, emits, -⟩ := (flips_iff verdict r.now).mp splits.flips
    rw [silent] at emits
    cases emits
  | published cache alarms eval t verdict emits sent =>
    have outcome := advance_outcome e.tracker (e.tracker.entries.getD ev.cacheKey {}) eval r.now
    have stays :
        (e.tracker.advance (e.tracker.entries.getD ev.cacheKey {}) eval r.now).2 = some t := emits
    rw [stays] at outcome
    rw [markAlarm_isSome, if_pos rfl, anomalous_evaluate, if_pos own]
    refine ⟨fun _ splits => ?_, fun _ => decide_eq_decide.mpr outcome.emitted.1.symm⟩
    have unsent := splits.unpublished
    rw [sent] at unsent
    cases unsent
  | withdrawn cache alarms eval t verdict emits splits =>
    have outcome := advance_outcome e.tracker (e.tracker.entries.getD ev.cacheKey {}) eval r.now
    have stays :
        (e.tracker.advance (e.tracker.entries.getD ev.cacheKey {}) eval r.now).2 = some t := emits
    rw [stays] at outcome
    rw [markAlarm_isSome, if_pos rfl, splits admitted, flips_iff verdict r.now, emits,
      anomalous_eq, ← own, decide_eq_decide, outcome.emitted.2]
    simp

/-! ## Runs of `process` -/

/-- The event a message carries, when it decodes and validates. -/
def validated (toLower : Char → Char) (msg : Option TelemetryEvent) : Option TelemetryEvent :=
  (msg.map (TelemetryEvent.normalize toLower)).filter TelemetryEvent.validate

section
variable (toLower : Char → Char) (table : CaseTable)

/-- After each return of `process` the event's channel has its record and its state in
agreement. -/
def AgreesAfterEach : Engine → List (Replies × Option TelemetryEvent) → Prop
  | _, [] => True
  | e, (r, msg) :: rest =>
    (∀ ev, validated toLower msg = some ev →
      (e.process toLower table r msg).1.Agrees ev.assetID ev.sensorID) ∧
      AgreesAfterEach (e.process toLower table r msg).1 rest

/-- No message of the run splits the record from the tracker. -/
def NeverSplits : Engine → List (Replies × Option TelemetryEvent) → Prop
  | _, [] => True
  | e, (r, msg) :: rest =>
    (∀ ev, validated toLower msg = some ev → ¬e.Splits r ev) ∧
      NeverSplits (e.process toLower table r msg).1 rest

/-- A message either leaves tracker and records alone, or is handled as an event. -/
theorem process_cases (e : Engine) (r : Replies) (msg : Option TelemetryEvent) :
    ((e.process toLower table r msg).1.tracker = e.tracker ∧
        (e.process toLower table r msg).1.cache = e.cache ∧
        ∀ ev, validated toLower msg = some ev → r.admission ≠ .admitted) ∨
      ∃ ev, validated toLower msg = some ev ∧ r.admission = .admitted ∧
        e.process toLower table r msg = e.handle table r ev := by
  cases msg with
  | none =>
    refine Or.inl ⟨rfl, rfl, fun ev carried => ?_⟩
    cases carried
  | some raw =>
    unfold process validated
    dsimp only [Option.map_some]
    cases valid : (raw.normalize toLower).validate with
    | false =>
      rw [if_pos rfl, Option.filter_some, valid]
      refine Or.inl ⟨rfl, rfl, fun ev carried => ?_⟩
      cases carried
    | true =>
      rw [if_neg Bool.noConfusion, Option.filter_some, valid, if_pos rfl]
      cases r.admission with
      | invalidInput => exact Or.inl ⟨rfl, rfl, fun _ _ => Admission.noConfusion⟩
      | unavailable => exact Or.inl ⟨rfl, rfl, fun _ _ => Admission.noConfusion⟩
      | duplicate => exact Or.inl ⟨rfl, rfl, fun _ _ => Admission.noConfusion⟩
      | admitted => exact Or.inr ⟨_, rfl, rfl, rfl⟩

/-- One message: its own channel agrees afterwards exactly when it does not split the
two, and then every channel still agrees. -/
theorem process_agrees {e : Engine} (agreed : ∀ a s, e.Agrees a s) (r : Replies)
    (msg : Option TelemetryEvent) :
    (∀ ev, validated toLower msg = some ev →
      ((e.process toLower table r msg).1.Agrees ev.assetID ev.sensorID ↔ ¬e.Splits r ev)) ∧
      ((∀ ev, validated toLower msg = some ev → ¬e.Splits r ev) →
        ∀ a s, (e.process toLower table r msg).1.Agrees a s) := by
  rcases process_cases toLower table e r msg with ⟨tracker, cache, refused⟩ | ⟨ev, carried, admitted, handled⟩
  · have same : ∀ a s, (e.process toLower table r msg).1.Agrees a s := by
      intro a s
      unfold Agrees
      rw [tracker, cache]
      exact agreed a s
    exact ⟨fun ev carried => ⟨fun _ splits => refused ev carried splits.admitted,
      fun _ => same _ _⟩, fun _ => same⟩
  · have settles := handle_settles table e r ev
    have own := settles.own admitted (agreed ev.assetID ev.sensorID)
    rw [handled]
    constructor
    · intro ev' carried'
      rw [carried] at carried'
      cases carried'
      exact own
    · intro sound a s
      by_cases here : alarmKey ev.assetID ev.sensorID = alarmKey a s
      · have agrees := own.mpr (sound ev carried)
        unfold AlarmAgrees at agrees
        rw [here, (twinKey_eq_iff ..).mpr here] at agrees
        exact agrees
      · exact (settles.other here).mpr (agreed a s)

theorem agreesAfterEach_iff (steps : List (Replies × Option TelemetryEvent)) {e : Engine}
    (agreed : ∀ a s, e.Agrees a s) :
    AgreesAfterEach toLower table e steps ↔ NeverSplits toLower table e steps := by
  induction steps generalizing e with
  | nil => exact Iff.rfl
  | cons step rest ih =>
    obtain ⟨r, msg⟩ := step
    obtain ⟨own, all⟩ := process_agrees toLower table agreed r msg
    constructor
    · rintro ⟨first, later⟩
      have sound : ∀ ev, validated toLower msg = some ev → ¬e.Splits r ev :=
        fun ev carried => (own ev carried).mp (first ev carried)
      exact ⟨sound, (ih (all sound)).mp later⟩
    · rintro ⟨sound, later⟩
      exact ⟨fun ev carried => (own ev carried).mpr (sound ev carried), (ih (all sound)).mpr later⟩

theorem newEngine_agrees (cfg : RuleConfig) (replica : TopologyReplica) (a s : String) :
    (newEngine cfg replica).Agrees a s := by
  unfold Agrees AlarmAgrees newEngine newStateTracker StateTracker.anomalous
  rw [Std.ExtTreeMap.getElem?_empty, Std.ExtTreeMap.getElem?_empty]
  rfl

/-- From a fresh engine, the alarm record and the tracker agree after every message of
a run exactly when no message of it marks a raised or released alarm that it then fails
to publish. -/
theorem process_agrees_iff (toLower : Char → Char) (table : CaseTable) (cfg : RuleConfig)
    (replica : TopologyReplica) (steps : List (Replies × Option TelemetryEvent)) :
    AgreesAfterEach toLower table (newEngine cfg replica) steps ↔
      NeverSplits toLower table (newEngine cfg replica) steps :=
  agreesAfterEach_iff toLower table steps (newEngine_agrees cfg replica)

end

/-- The alarm is marked and its mutation is not published. -/
def unpublished : Replies where
  graph := .error "neo4j unreachable"
  emit := false
  eventID := "evt_1"
  ingestedAt := 1
  now := 1

/-- A reading of 9 whose mutation fails leaves the record standing over a tracker that
was rolled back. -/
theorem unpublished_not_agrees :
    ¬AgreesAfterEach Char.toLower asciiCase
      (newEngine defaultHysteresis ⟨false, newGraphCRDT "replica-0" "" 0⟩)
      [(unpublished, some (vibration 9 1))] := by
  intro agrees
  have valid : ((vibration 9 1).normalize Char.toLower).validate = true := by decide +kernel
  have own := agrees.1 _ (Option.filter_eq_some_iff.mpr ⟨rfl, valid⟩)
  exact absurd own (by unfold Agrees AlarmAgrees; decide +kernel)

end Engine
end OpenOntology.Resolution
