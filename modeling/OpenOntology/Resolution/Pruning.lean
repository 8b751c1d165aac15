import OpenOntology.Resolution.StateTracker

/-!
# What pruning forgets

The janitor prunes between the evaluations. A quiet channel that is dropped and comes back
takes the same turns as if it had stayed, except that it counts its breaches anew.
-/
namespace OpenOntology.Resolution

/-- The next call on a tracker that workers evaluate and the janitor prunes. -/
inductive Turn where
  | evaluate (key : String) (eval : RuleEvaluation) (now : Time)
  | prune (now : Time) (idle : Duration)

def Turn.isEvaluate : Turn → Bool
  | .evaluate .. => true
  | .prune .. => false

/-- The count of a channel's breaches with those that were counted elsewhere. -/
def Transition.recount (extra : Nat) (transition : Transition) : Transition :=
  { transition with breachCount := transition.breachCount + extra }

/-- What a transition says of its episode. -/
def Transition.episode (transition : Transition) : TransitionKind × Severity × Time :=
  (transition.kind, transition.severity, transition.activeSince)

namespace StateTracker

/-- The answers to the `Evaluate` calls. -/
def transitions : StateTracker → List Turn → List (Option Transition)
  | _, [] => []
  | t, .evaluate key eval now :: rest =>
    let (t, transition, _) := t.evaluate key eval now
    transition :: t.transitions rest
  | t, .prune now idle :: rest => (t.prune now idle).transitions rest

/-- The breaches counted in the entry of the channel that `Prune` drops. -/
def dropped (t : StateTracker) (now : Time) (idle : Duration) (key : String) : Nat :=
  match t.entries[key]?, (t.prune now idle).entries[key]? with
  | some st, none => st.breachCount
  | _, _ => 0

/-- The answers to the `Evaluate` calls, each with the breaches that `Prune` has dropped with
earlier entries of its channel. -/
def recounted : StateTracker → (String → Nat) → List Turn → List (Option Transition)
  | _, _, [] => []
  | t, forgotten, .evaluate key eval now :: rest =>
    let (t, transition, _) := t.evaluate key eval now
    transition.map (Transition.recount (forgotten key)) :: t.recounted forgotten rest
  | t, forgotten, .prune now idle :: rest =>
    (t.prune now idle).recounted (fun key => forgotten key + t.dropped now idle key) rest

end StateTracker

/-! ## Channels that differ in their count -/

/-- The entry that stayed and the one that was dropped on the way. -/
structure SensorState.Alike (stayed pruned : SensorState) (forgotten : Nat) : Prop where
  state : stayed.state = pruned.state
  severity : stayed.severity = pruned.severity
  settled : pruned.state = .normal → pruned.severity = .info
  activeSince : pruned.state = .anomalous → stayed.activeSince = pruned.activeSince
  lastEmit : pruned.state = .anomalous → stayed.lastEmit = pruned.lastEmit
  breachCount : stayed.breachCount = pruned.breachCount + forgotten

variable {stayed pruned : SensorState} {forgotten : Nat}

theorem advance_alike (alike : stayed.Alike pruned forgotten) (t : StateTracker)
    (eval : RuleEvaluation) (now : Time) :
    (t.advance stayed eval now).1.Alike (t.advance pruned eval now).1 forgotten ∧
      (t.advance stayed eval now).2 =
        (t.advance pruned eval now).2.map (Transition.recount forgotten) := by
  have count : stayed.breachCount + 1 = pruned.breachCount + 1 + forgotten := by
    rw [alike.breachCount]
    omega
  unfold StateTracker.advance
  dsimp only
  rw [alike.state, alike.severity]
  cases calm : eval.breached with
  | true =>
    rw [if_pos rfl, if_pos rfl]
    cases was : pruned.state with
    | normal =>
      rw [if_pos rfl, if_pos rfl]
      exact ⟨⟨rfl, rfl, nofun, fun _ => rfl, fun _ => rfl, count⟩, by
        rw [Option.map_some, Transition.recount, count]⟩
    | anomalous =>
      have since := alike.activeSince was
      have emitted := alike.lastEmit was
      simp only [reduceCtorEq, if_false, since, emitted, count]
      by_cases worse : eval.severity.rank > pruned.severity.rank
      · rw [if_pos worse, if_pos worse, if_pos worse]
        exact ⟨⟨rfl, rfl, nofun, fun _ => rfl, fun _ => rfl, rfl⟩, rfl⟩
      · rw [if_neg worse, if_neg worse, if_neg worse]
        split
        · exact ⟨⟨rfl, rfl, nofun, fun _ => rfl, fun _ => rfl, rfl⟩, rfl⟩
        · exact ⟨⟨rfl, rfl, nofun, fun _ => rfl, fun _ => rfl, rfl⟩, rfl⟩
  | false =>
    rw [if_neg Bool.false_ne_true, if_neg Bool.false_ne_true]
    cases was : pruned.state with
    | normal =>
      rw [if_pos rfl, if_pos rfl]
      exact ⟨⟨rfl, rfl, fun _ => alike.settled was, nofun, nofun, alike.breachCount⟩, rfl⟩
    | anomalous =>
      have since := alike.activeSince was
      have emitted := alike.lastEmit was
      simp only [reduceCtorEq, if_false]
      split
      · exact ⟨⟨rfl, rfl, nofun, fun _ => since, fun _ => emitted, alike.breachCount⟩, rfl⟩
      · exact ⟨⟨rfl, rfl, fun _ => rfl, nofun, nofun, alike.breachCount⟩, by
          rw [Option.map_some, Transition.recount, since, alike.breachCount]⟩

theorem alike_new (forgotten : Nat) (count : stayed.breachCount = forgotten)
    (normal : stayed.state = .normal) (info : stayed.severity = .info) :
    stayed.Alike {} forgotten where
  state := normal
  severity := info
  settled _ := rfl
  activeSince := nofun
  lastEmit := nofun
  breachCount := count.trans (Nat.zero_add _).symm

/-! ## Trackers -/

/-- The tracker that was never pruned and the one that was. -/
structure StateTracker.Alike (stayed pruned : StateTracker) (forgotten : String → Nat) : Prop where
  reAlertInterval : stayed.reAlertInterval = pruned.reAlertInterval
  hysteresisRatio : stayed.hysteresisRatio = pruned.hysteresisRatio
  channel : ∀ key, (stayed.entries.getD key {}).Alike (pruned.entries.getD key {}) (forgotten key)

namespace StateTracker
variable {stayed pruned : StateTracker} {forgotten : String → Nat}

theorem Alike.advance (alike : stayed.Alike pruned forgotten) (st : SensorState)
    (eval : RuleEvaluation) (now : Time) : stayed.advance st eval now = pruned.advance st eval now := by
  unfold StateTracker.advance StateTracker.clearAt
  rw [alike.reAlertInterval, alike.hysteresisRatio]

theorem Alike.evaluate (alike : stayed.Alike pruned forgotten) (key : String)
    (eval : RuleEvaluation) (now : Time) :
    (stayed.evaluate key eval now).1.Alike (pruned.evaluate key eval now).1 forgotten ∧
      (stayed.evaluate key eval now).2.1 =
        (pruned.evaluate key eval now).2.1.map (Transition.recount (forgotten key)) := by
  obtain ⟨next, answers⟩ := advance_alike (alike.channel key) stayed eval now
  rw [alike.advance (pruned.entries.getD key {})] at next answers
  refine ⟨⟨alike.reAlertInterval, alike.hysteresisRatio, fun k => ?_⟩, answers⟩
  unfold StateTracker.evaluate
  dsimp only
  rw [Std.ExtTreeMap.getD_insert, Std.ExtTreeMap.getD_insert]
  split
  next same =>
    rw [← Std.LawfulEqCmp.compare_eq_iff_eq.mp same]
    exact next
  next => exact alike.channel k

theorem Alike.prune (alike : stayed.Alike pruned forgotten) (now : Time) (idle : Duration) :
    stayed.Alike (pruned.prune now idle) fun key => forgotten key + pruned.dropped now idle key := by
  refine ⟨alike.reAlertInterval, alike.hysteresisRatio, fun key => ?_⟩
  have channel := alike.channel key
  have entry : (pruned.prune now idle).entries[key]? =
      pruned.entries[key]?.filter fun st =>
        !(st.state = .normal ∧ timeSub now st.lastSeen > idle) := by
    unfold StateTracker.prune
    exact Std.ExtTreeMap.getElem?_filter'
  rw [Std.ExtTreeMap.getD_eq_getD_getElem?] at channel ⊢
  rw [Std.ExtTreeMap.getD_eq_getD_getElem?] at channel ⊢
  unfold dropped
  rw [entry]
  cases held : pruned.entries[key]? with
  | none =>
    rw [held] at channel
    exact channel
  | some st =>
    rw [held, Option.getD_some] at channel
    rw [Option.filter_some]
    split
    next => exact channel
    next evicted =>
      have healthy : st.state = .normal := by
        simp only [Bool.not_eq_true', decide_eq_false_iff_not, not_not] at evicted
        exact evicted.1
      exact alike_new _ (channel.breachCount.trans (Nat.add_comm _ _)) (channel.state.trans healthy)
        (channel.severity.trans (channel.settled healthy))

theorem Alike.transitions (turns : List Turn) {stayed pruned : StateTracker}
    {forgotten : String → Nat} (alike : stayed.Alike pruned forgotten) :
    stayed.transitions (turns.filter Turn.isEvaluate) = pruned.recounted forgotten turns := by
  induction turns generalizing stayed pruned forgotten with
  | nil => rfl
  | cons turn rest ih =>
    cases turn with
    | evaluate key eval now =>
      obtain ⟨next, answer⟩ := alike.evaluate key eval now
      rw [List.filter_cons_of_pos rfl]
      exact List.cons_eq_cons.mpr ⟨answer, ih next⟩
    | prune now idle =>
      rw [List.filter_cons_of_neg Bool.false_ne_true]
      exact ih (alike.prune now idle)

theorem recounted_episodes (turns : List Turn) (t : StateTracker) (forgotten : String → Nat) :
    (t.recounted forgotten turns).map (Option.map Transition.episode) =
      (t.transitions turns).map (Option.map Transition.episode) := by
  induction turns generalizing t forgotten with
  | nil => rfl
  | cons turn rest ih =>
    cases turn with
    | evaluate key eval now =>
      refine List.cons_eq_cons.mpr ⟨?_, ih _ _⟩
      rw [Option.map_map]
      rfl
    | prune now idle => exact ih _ _

theorem alike_newStateTracker (reAlertInterval : Duration) (hysteresisRatio : Float) :
    (newStateTracker reAlertInterval hysteresisRatio).Alike
      (newStateTracker reAlertInterval hysteresisRatio) fun _ => 0 where
  reAlertInterval := rfl
  hysteresisRatio := rfl
  channel key := by
    have fresh : (newStateTracker reAlertInterval hysteresisRatio).entries.getD key {} = {} :=
      Std.ExtTreeMap.getD_empty
    rw [fresh]
    exact alike_new 0 rfl rfl rfl

/-- A breach, the recovery, a long silence and the next breach. -/
def quietSpell : List Turn :=
  let at_level (observed : Float) (breached : Bool) : RuleEvaluation :=
    { threshold := { ruleID := "vibration_limit", sensorID := "vibration", limit := 4.5 }
      observed, breached }
  [.evaluate "pump-1/vibration" (at_level 6 true) 0,
    .evaluate "pump-1/vibration" (at_level 1 false) 1, .prune 100 5,
    .evaluate "pump-1/vibration" (at_level 6 true) 200]

end StateTracker
end OpenOntology.Resolution
