import OpenOntology.Resolution.Rules

/-!
# The alarm state machine

`StateTracker` keeps one `SensorState` for each channel. `evaluate` advances a
channel and hands back the token that reverses the call; `rollback` uses it unless
the channel has moved on. The shards only partition the map, so it is one map here.
-/
namespace OpenOntology.Resolution

inductive AlarmState where
  | normal
  | anomalous
  deriving DecidableEq, Repr

inductive TransitionKind where
  | raised
  | escalated
  | sustained
  | cleared
  deriving DecidableEq, Repr

structure Transition where
  kind : TransitionKind
  severity : Severity
  activeSince : Time
  breachCount : Nat
  deriving DecidableEq, Repr

structure SensorState where
  state : AlarmState := .normal
  severity : Severity := .info
  activeSince : Time := zeroTime
  lastEmit : Time := zeroTime
  lastSeen : Time := zeroTime
  breachCount : Nat := 0
  sequence : Nat := 0
  deriving DecidableEq, Repr

/-- Reverses exactly one `evaluate`. -/
structure StateUndo where
  key : String
  previous : SensorState
  existed : Bool
  sequence : Nat
  captured : Bool
  deriving DecidableEq, Repr

structure StateTracker where
  entries : Std.ExtTreeMap String SensorState
  reAlertInterval : Duration
  hysteresisRatio : Float

def newStateTracker (reAlertInterval : Duration) (hysteresisRatio : Float) : StateTracker :=
  ⟨∅, reAlertInterval, hysteresisRatio⟩

namespace StateTracker

variable (t : StateTracker)

/-- The level below which a reading releases the alarm. -/
def clearAt (eval : RuleEvaluation) : Float := eval.threshold.limit * (1 - t.hysteresisRatio)

/-- The body of `Evaluate` on the entry of one channel. -/
def advance (st : SensorState) (eval : RuleEvaluation) (now : Time) :
    SensorState × Option Transition :=
  let seen := { st with lastSeen := now, sequence := st.sequence + 1 }
  if eval.breached then
    let breached :=
      { seen with
        breachCount := seen.breachCount + 1
        state := .anomalous
        severity := if eval.severity.rank > seen.severity.rank then eval.severity
          else seen.severity }
    if st.state = .normal then
      ({ breached with activeSince := now, lastEmit := now },
        some ⟨.raised, eval.severity, now, breached.breachCount⟩)
    else if eval.severity.rank > st.severity.rank then
      ({ breached with lastEmit := now },
        some ⟨.escalated, eval.severity, breached.activeSince, breached.breachCount⟩)
    else if t.reAlertInterval > 0 ∧ timeSub now st.lastEmit ≥ t.reAlertInterval then
      ({ breached with lastEmit := now },
        some ⟨.sustained, eval.severity, breached.activeSince, breached.breachCount⟩)
    else (breached, none)
  else if st.state = .normal then (seen, none)
  else if eval.observed > t.clearAt eval then (seen, none)
  else
    ({ seen with state := .normal, severity := .info, activeSince := zeroTime, lastEmit := now },
      some ⟨.cleared, .info, seen.activeSince, seen.breachCount⟩)

/-- Advance one channel; the transition is `none` when the reading is absorbed. -/
def evaluate (key : String) (eval : RuleEvaluation) (now : Time) :
    StateTracker × Option Transition × StateUndo :=
  let previous := t.entries.getD key {}
  let next := t.advance previous eval now
  ({ t with entries := t.entries.insert key next.1 }, next.2,
    { key, previous, existed := t.entries[key]?.isSome, sequence := next.1.sequence
      captured := true })

def rollback (undo : StateUndo) : StateTracker :=
  if undo.captured = false then t
  else
    match t.entries[undo.key]? with
    | none => t
    | some st =>
      if st.sequence ≠ undo.sequence then t
      else if undo.existed = false then { t with entries := t.entries.erase undo.key }
      else { t with entries := t.entries.insert undo.key undo.previous }

/-- Drop channels that have been quiet and healthy for longer than `idle`. -/
def prune (now : Time) (idle : Duration) : StateTracker :=
  { t with entries := t.entries.filter fun _ st =>
      !(st.state = .normal ∧ timeSub now st.lastSeen > idle) }

/-- The tracker holds the channel in alarm. -/
def anomalous (key : String) : Bool :=
  match t.entries[key]? with
  | none => false
  | some st => st.state = .anomalous

end StateTracker

/-! ## What one evaluation can do -/

/-- The outcomes of an evaluation, with the guards under which each is taken. -/
inductive Outcome (t : StateTracker) (st : SensorState) (eval : RuleEvaluation) (now : Time) :
    SensorState → Option Transition → Prop where
  | raised (severity : Severity) (breached : eval.breached = true) (was : st.state = .normal)
      (high_water : severity.rank = max eval.severity.rank st.severity.rank) :
      Outcome t st eval now
        { state := .anomalous, severity, activeSince := now, lastEmit := now, lastSeen := now
          breachCount := st.breachCount + 1, sequence := st.sequence + 1 }
        (some ⟨.raised, eval.severity, now, st.breachCount + 1⟩)
  | escalated (breached : eval.breached = true) (was : st.state = .anomalous)
      (worse : st.severity.rank < eval.severity.rank) :
      Outcome t st eval now
        { state := .anomalous, severity := eval.severity, activeSince := st.activeSince
          lastEmit := now, lastSeen := now, breachCount := st.breachCount + 1
          sequence := st.sequence + 1 }
        (some ⟨.escalated, eval.severity, st.activeSince, st.breachCount + 1⟩)
  | sustained (breached : eval.breached = true) (was : st.state = .anomalous)
      (no_worse : eval.severity.rank ≤ st.severity.rank) :
      Outcome t st eval now
        { state := .anomalous, severity := st.severity, activeSince := st.activeSince
          lastEmit := now, lastSeen := now, breachCount := st.breachCount + 1
          sequence := st.sequence + 1 }
        (some ⟨.sustained, eval.severity, st.activeSince, st.breachCount + 1⟩)
  | repeated (breached : eval.breached = true) (was : st.state = .anomalous)
      (no_worse : eval.severity.rank ≤ st.severity.rank) :
      Outcome t st eval now
        { state := .anomalous, severity := st.severity, activeSince := st.activeSince
          lastEmit := st.lastEmit, lastSeen := now, breachCount := st.breachCount + 1
          sequence := st.sequence + 1 } none
  | quiet (calm : eval.breached = false) (was : st.state = .normal) :
      Outcome t st eval now
        { st with state := .normal, lastSeen := now, sequence := st.sequence + 1 } none
  | held (calm : eval.breached = false) (was : st.state = .anomalous)
      (above : eval.observed > t.clearAt eval) :
      Outcome t st eval now
        { st with state := .anomalous, lastSeen := now, sequence := st.sequence + 1 } none
  | cleared (calm : eval.breached = false) (was : st.state = .anomalous)
      (not_above : ¬eval.observed > t.clearAt eval) :
      Outcome t st eval now
        { state := .normal, severity := .info, activeSince := zeroTime, lastEmit := now
          lastSeen := now, breachCount := st.breachCount, sequence := st.sequence + 1 }
        (some ⟨.cleared, .info, st.activeSince, st.breachCount⟩)

theorem advance_outcome (t : StateTracker) (st : SensorState) (eval : RuleEvaluation)
    (now : Time) :
    Outcome t st eval now (t.advance st eval now).1 (t.advance st eval now).2 := by
  unfold StateTracker.advance
  dsimp only
  cases calm : eval.breached with
  | true =>
    rw [if_pos rfl]
    cases was : st.state with
    | normal =>
      rw [if_pos rfl]
      refine Outcome.raised _ calm was ?_
      split <;> omega
    | anomalous =>
      rw [if_neg AlarmState.noConfusion]
      by_cases worse : eval.severity.rank > st.severity.rank
      · rw [if_pos worse, if_pos worse]
        exact Outcome.escalated calm was worse
      · rw [if_neg worse, if_neg worse]
        split
        · exact Outcome.sustained calm was (Nat.le_of_not_gt worse)
        · exact Outcome.repeated calm was (Nat.le_of_not_gt worse)
  | false =>
    rw [if_neg Bool.noConfusion]
    cases was : st.state with
    | normal =>
      rw [if_pos rfl]
      exact Outcome.quiet calm was
    | anomalous =>
      rw [if_neg AlarmState.noConfusion]
      split
      next above => exact Outcome.held calm was above
      next not_above => exact Outcome.cleared calm was not_above

theorem Outcome.sequence {t : StateTracker} {st next : SensorState} {eval : RuleEvaluation}
    {now : Time} {transition : Option Transition}
    (outcome : Outcome t st eval now next transition) : next.sequence = st.sequence + 1 := by
  cases outcome <;> rfl

end OpenOntology.Resolution
