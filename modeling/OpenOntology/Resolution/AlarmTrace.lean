import OpenOntology.Library.Binary64
import OpenOntology.Resolution.StateTracker

/-!
# The grammar of alarm traces

One channel, fed with rule verdicts, any of which may be rolled back before the
next. The history lists the evaluations that survive, newest first; what it says
about the tracked state is proved once per outcome and holds of every run.
-/
namespace OpenOntology.Resolution

open Library

/-! ## Runs of one channel -/

/-- A surviving evaluation with the token that reverses it. -/
structure Frame where
  eval : RuleEvaluation
  now : Time
  transition : Option Transition
  undo : StateUndo

inductive Action where
  | reading (ev : TelemetryEvent) (now : Time)
  | rollback

structure Trace where
  tracker : StateTracker
  history : List Frame

namespace Trace

def step (rules : RuleEngine) (key : String) (s : Trace) : Action → Trace
  | .reading ev now =>
    match rules.evaluate ev with
    | none => s
    | some eval =>
      let (tracker, transition, undo) := s.tracker.evaluate key eval now
      ⟨tracker, ⟨eval, now, transition, undo⟩ :: s.history⟩
  | .rollback =>
    match s.history with
    | [] => s
    | frame :: rest => ⟨s.tracker.rollback frame.undo, rest⟩

/-- The trace of a channel on a tracker that starts empty. -/
def after (cfg : RuleConfig) (key : String) (actions : List Action) : Trace :=
  actions.foldl (step (newRuleEngine cfg) key)
    ⟨newStateTracker cfg.reAlertInterval cfg.hysteresisRatio, []⟩

end Trace

/-! ## What the trace has to satisfy -/

def kinds (history : List Frame) : List TransitionKind :=
  (history.reverse.filterMap Frame.transition).map Transition.kind

/-- `(RAISED (ESCALATED | SUSTAINED)* CLEARED)*`. -/
def alarmGrammar : Language TransitionKind :=
  KStar.kstar ({[.raised]} * KStar.kstar ({[.escalated]} + {[.sustained]}) * {[.cleared]})

def Frame.isKind (kind : TransitionKind) (f : Frame) : Bool :=
  match f.transition with
  | none => false
  | some t => t.kind == kind

/-- The evaluations since the last CLEARED. -/
def episode (history : List Frame) : List Frame :=
  history.takeWhile fun f => !f.isKind .cleared

/-- The last RAISED transition. -/
def raisedOf (history : List Frame) : Option Transition :=
  history.findSome? fun f => f.transition.filter fun t => t.kind == .raised

def lastTransition (history : List Frame) : Option Transition := history.findSome? Frame.transition

structure Lawful (hysteresisRatio : Float) (history : List Frame) (entry : Option SensorState) :
    Prop where
  grammar : ∃ rest, kinds history ++ rest ∈ alarmGrammar
  escalated : ∀ (f : Frame) (earlier : List Frame), f :: earlier <:+ history →
    f.isKind .escalated = true → ∀ g ∈ episode earlier, g.eval.severity.rank < f.eval.severity.rank
  cleared : ∀ f ∈ history, f.isKind .cleared = true →
    f.eval.observed ≤ f.eval.threshold.limit * (1 - hysteresisRatio)
  activeSince : ∀ (f : Frame) (earlier : List Frame) (t : Transition), f :: earlier <:+ history →
    f.transition = some t → t.kind ≠ .raised →
    ∃ r, raisedOf earlier = some r ∧ t.activeSince = r.activeSince
  anomalous : (∃ st, entry = some st ∧ st.state = .anomalous) ↔
    ∃ t, lastTransition history = some t ∧ t.kind ≠ .cleared

/-! ## The tracked entry is a function of the history -/

/-- The history explains the entry: each frame is the evaluation of the state its
predecessors lead to, and its token remembers exactly that state. -/
inductive Explains (t : StateTracker) (key : String) : List Frame → Option SensorState → Prop where
  | nil : Explains t key [] none
  | cons {history : List Frame} {entry : Option SensorState} (eval : RuleEvaluation) (now : Time)
      (judged : eval.Judged) (earlier : Explains t key history entry) :
      Explains t key
        (⟨eval, now, (t.advance (entry.getD {}) eval now).2,
          ⟨key, entry.getD {}, entry.isSome, (t.advance (entry.getD {}) eval now).1.sequence,
            true⟩⟩ :: history)
        (some (t.advance (entry.getD {}) eval now).1)

theorem advance_congr {t t' : StateTracker} (interval : t'.reAlertInterval = t.reAlertInterval)
    (ratio : t'.hysteresisRatio = t.hysteresisRatio) : t'.advance = t.advance := by
  funext st eval now
  unfold StateTracker.advance StateTracker.clearAt
  rw [interval, ratio]

/-- The trace of a channel: the settings stay, and the history explains the entry. -/
structure Traced (t : StateTracker) (key : String) (s : Trace) : Prop where
  interval : s.tracker.reAlertInterval = t.reAlertInterval
  ratio : s.tracker.hysteresisRatio = t.hysteresisRatio
  explained : Explains t key s.history s.tracker.entries[key]?

theorem rollback_settings (t : StateTracker) (undo : StateUndo) :
    (t.rollback undo).reAlertInterval = t.reAlertInterval ∧
      (t.rollback undo).hysteresisRatio = t.hysteresisRatio := by
  unfold StateTracker.rollback
  split
  · exact ⟨rfl, rfl⟩
  · split
    · exact ⟨rfl, rfl⟩
    · split
      · exact ⟨rfl, rfl⟩
      · split <;> exact ⟨rfl, rfl⟩

/-- Taking back the newest evaluation restores the entry it was made on. -/
theorem rollback_entry {t s : StateTracker} {key : String} {frame : Frame} {rest : List Frame}
    (explained : Explains t key (frame :: rest) s.entries[key]?) :
    Explains t key rest (s.rollback frame.undo).entries[key]? ∧
      Outcome t ((s.rollback frame.undo).entries[key]?.getD {}) frame.eval frame.now
        (s.entries[key]?.getD {}) frame.transition := by
  generalize held : s.entries[key]? = entry at explained
  cases explained with
  | @cons _ prior eval now judged earlier =>
    have restored : (s.rollback ⟨key, prior.getD {}, prior.isSome,
        (t.advance (prior.getD {}) eval now).1.sequence, true⟩).entries[key]? = prior := by
      unfold StateTracker.rollback
      simp only [Bool.true_eq_false, if_false, held, ne_eq, not_true]
      cases prior with
      | none =>
        rw [if_pos Option.isSome_none]
        exact Std.ExtTreeMap.getElem?_erase_self
      | some st =>
        rw [if_neg (by simp)]
        exact Std.ExtTreeMap.getElem?_insert_self
    rw [restored]
    exact ⟨earlier, advance_outcome t (prior.getD {}) eval now⟩

theorem Traced.step {t : StateTracker} {key : String} {s : Trace} (traced : Traced t key s)
    (rules : RuleEngine) (action : Action) : Traced t key (s.step rules key action) := by
  cases action with
  | reading ev now =>
    unfold Trace.step
    dsimp only
    cases verdict : rules.evaluate ev with
    | none => exact traced
    | some eval =>
      refine ⟨traced.interval, traced.ratio, ?_⟩
      unfold StateTracker.evaluate
      dsimp only
      rw [Std.ExtTreeMap.getElem?_insert_self, Std.ExtTreeMap.getD_eq_getD_getElem?,
        advance_congr traced.interval traced.ratio]
      exact Explains.cons eval now (RuleEngine.evaluate_judged verdict) traced.explained
  | rollback =>
    unfold Trace.step
    dsimp only
    have explained := traced.explained
    cases shape : s.history with
    | nil => exact traced
    | cons frame rest =>
      rw [shape] at explained
      have settings := rollback_settings s.tracker frame.undo
      exact ⟨settings.1.trans traced.interval, settings.2.trans traced.ratio,
        (rollback_entry explained).1⟩

theorem traced_after (cfg : RuleConfig) (key : String) (actions : List Action) :
    Traced (newStateTracker cfg.reAlertInterval cfg.hysteresisRatio) key
      (Trace.after cfg key actions) := by
  refine List.foldlRecOn actions (Trace.step (newRuleEngine cfg) key)
    (motive := Traced (newStateTracker cfg.reAlertInterval cfg.hysteresisRatio) key)
    ⟨rfl, rfl, ?_⟩ fun s traced action _ => traced.step (newRuleEngine cfg) action
  rw [show (newStateTracker cfg.reAlertInterval cfg.hysteresisRatio).entries = ∅ from rfl,
    Std.ExtTreeMap.getElem?_empty]
  exact Explains.nil

/-! ## The grammar, transition by transition -/

/-- A word that an open episode has read: complete episodes, a RAISED, then
escalations and re-assertions. -/
def OpenWord (word : List TransitionKind) : Prop :=
  ∃ complete ∈ alarmGrammar,
    ∃ middle ∈ (KStar.kstar ({[.escalated]} + {[.sustained]}) : Language TransitionKind),
      word = complete ++ .raised :: middle

theorem nil_mem_alarmGrammar : [] ∈ alarmGrammar := Language.nil_mem_kstar _

theorem openWord_raised {word : List TransitionKind} (closed : word ∈ alarmGrammar) :
    OpenWord (word ++ [.raised]) :=
  ⟨word, closed, [], Language.nil_mem_kstar _, rfl⟩

theorem openWord_append {word : List TransitionKind} (opened : OpenWord word)
    {kind : TransitionKind} (inner : kind = .escalated ∨ kind = .sustained) :
    OpenWord (word ++ [kind]) := by
  obtain ⟨complete, closed, middle, run, rfl⟩ := opened
  obtain ⟨parts, rfl, each⟩ := Language.mem_kstar.mp run
  refine ⟨complete, closed, parts.flatten ++ [kind], ?_, by simp⟩
  refine Language.mem_kstar.mpr ⟨parts ++ [[kind]], by simp, ?_⟩
  intro part member
  rcases List.mem_append.mp member with old | new
  · exact each part old
  · rw [List.mem_singleton.mp new, Language.mem_add]
    rcases inner with rfl | rfl
    · exact Or.inl rfl
    · exact Or.inr rfl

theorem mem_alarmGrammar_cleared {word : List TransitionKind} (opened : OpenWord word) :
    word ++ [.cleared] ∈ alarmGrammar := by
  obtain ⟨complete, closed, middle, run, rfl⟩ := opened
  obtain ⟨episodes, rfl, each⟩ := Language.mem_kstar.mp closed
  refine Language.mem_kstar.mpr ⟨episodes ++ [.raised :: (middle ++ [.cleared])], by simp, ?_⟩
  intro part member
  rcases List.mem_append.mp member with old | new
  · exact each part old
  · rw [List.mem_singleton.mp new]
    have first : [.raised] ∈ ({[.raised]} : Language TransitionKind) := rfl
    have last : [.cleared] ∈ ({[.cleared]} : Language TransitionKind) := rfl
    exact Language.append_mem_mul (Language.append_mem_mul first run) last

theorem kinds_cons (f : Frame) (history : List Frame) :
    kinds (f :: history) = kinds history ++ (f.transition.map Transition.kind).toList := by
  unfold kinds
  rw [List.reverse_cons, List.filterMap_append, List.map_append]
  cases shape : f.transition <;> simp [shape]

/-! ## What the history says about the state -/

structure StateFacts (history : List Frame) (st : SensorState) : Prop where
  seen : ∀ g ∈ episode history, g.eval.severity.rank ≤ st.severity.rank
  calm : st.state = .normal → st.severity = .info ∧ kinds history ∈ alarmGrammar ∧
    ∀ t, lastTransition history = some t → t.kind = .cleared
  alarmed : st.state = .anomalous → OpenWord (kinds history) ∧
    (∃ r, raisedOf history = some r ∧ r.activeSince = st.activeSince) ∧
    ∃ t, lastTransition history = some t ∧ t.kind ≠ .cleared

theorem stateFacts_fresh : StateFacts [] {} where
  seen g member := by cases member
  calm _ := ⟨rfl, nil_mem_alarmGrammar, fun t last => by cases last⟩
  alarmed impossible := by cases impossible

theorem episode_cons_open {f : Frame} (history : List Frame) (open_ : f.isKind .cleared = false) :
    episode (f :: history) = f :: episode history := by
  unfold episode
  rw [List.takeWhile_cons_of_pos]
  rw [open_]
  rfl

theorem episode_cons_cleared {f : Frame} (history : List Frame)
    (cleared : f.isKind .cleared = true) : episode (f :: history) = [] := by
  unfold episode
  rw [List.takeWhile_cons_of_neg]
  rw [cleared]
  exact Bool.noConfusion

/-- A higher mark covers what an earlier mark covered, and the new reading. -/
theorem seen_cons {f : Frame} {history : List Frame} {old new : Nat}
    (open_ : f.isKind .cleared = false) (raised : old ≤ new)
    (covers : f.eval.severity.rank ≤ new)
    (seen : ∀ g ∈ episode history, g.eval.severity.rank ≤ old) :
    ∀ g ∈ episode (f :: history), g.eval.severity.rank ≤ new := by
  intro g member
  rw [episode_cons_open history open_] at member
  rcases List.mem_cons.mp member with rfl | earlier
  · exact covers
  · exact (seen g earlier).trans raised

theorem lastTransition_cons (f : Frame) (history : List Frame) :
    lastTransition (f :: history) = f.transition.or (lastTransition history) := by
  unfold lastTransition
  rw [List.findSome?_cons]
  cases f.transition <;> rfl

theorem raisedOf_cons_other {f : Frame} (history : List Frame) (other : f.isKind .raised = false) :
    raisedOf (f :: history) = raisedOf history := by
  unfold raisedOf
  rw [List.findSome?_cons]
  unfold Frame.isKind at other
  cases shape : f.transition with
  | none => rfl
  | some t =>
    rw [shape] at other
    dsimp only at other
    rw [Option.filter_some, if_neg (by rw [other]; exact Bool.noConfusion)]

theorem one_le_rank (s : Severity) : Severity.info.rank ≤ s.rank := by
  cases s <;> decide

/-- One more evaluation, outcome by outcome. -/
theorem StateFacts.step {t : StateTracker} {history : List Frame} {st next : SensorState}
    {eval : RuleEvaluation} {now : Time} {transition : Option Transition}
    (facts : StateFacts history st) (judged : eval.Judged)
    (outcome : Outcome t st eval now next transition) (undo : StateUndo) :
    StateFacts (⟨eval, now, transition, undo⟩ :: history) next := by
  cases outcome with
  | raised severity breached was high_water =>
    obtain ⟨-, closed, -⟩ := facts.calm was
    refine ⟨seen_cons rfl (high_water ▸ le_max_right _ _) (high_water ▸ le_max_left _ _) facts.seen,
      ?_, ?_⟩
    · intro impossible
      cases impossible
    · intro _
      refine ⟨?_, ⟨_, rfl, rfl⟩, _, rfl, TransitionKind.noConfusion⟩
      rw [kinds_cons]
      exact openWord_raised closed
  | escalated breached was worse =>
    obtain ⟨opened, since, -⟩ := facts.alarmed was
    refine ⟨seen_cons rfl worse.le le_rfl facts.seen, ?_, ?_⟩
    · intro impossible
      cases impossible
    · intro _
      refine ⟨?_, ?_, _, rfl, TransitionKind.noConfusion⟩
      · rw [kinds_cons]
        exact openWord_append opened (Or.inl rfl)
      · rw [raisedOf_cons_other history rfl]
        exact since
  | sustained breached was no_worse =>
    obtain ⟨opened, since, -⟩ := facts.alarmed was
    refine ⟨seen_cons rfl le_rfl no_worse facts.seen, ?_, ?_⟩
    · intro impossible
      cases impossible
    · intro _
      refine ⟨?_, ?_, _, rfl, TransitionKind.noConfusion⟩
      · rw [kinds_cons]
        exact openWord_append opened (Or.inr rfl)
      · rw [raisedOf_cons_other history rfl]
        exact since
  | repeated breached was no_worse =>
    obtain ⟨opened, since, last⟩ := facts.alarmed was
    refine ⟨seen_cons rfl le_rfl no_worse facts.seen, ?_, ?_⟩
    · intro impossible
      cases impossible
    · intro _
      refine ⟨?_, ?_, ?_⟩
      · rw [kinds_cons]
        simpa using opened
      · rw [raisedOf_cons_other history rfl]
        exact since
      · rw [lastTransition_cons]
        exact last
  | quiet calm was =>
    obtain ⟨lowest, closed, last⟩ := facts.calm was
    refine ⟨seen_cons rfl le_rfl ?_ facts.seen, ?_, ?_⟩
    · dsimp only
      rw [judged.quiet calm]
      exact one_le_rank _
    · intro _
      refine ⟨lowest, ?_, ?_⟩
      · rw [kinds_cons]
        simpa using closed
      · rw [lastTransition_cons]
        exact last
    · intro impossible
      cases impossible
  | held calm was above =>
    obtain ⟨opened, since, last⟩ := facts.alarmed was
    refine ⟨seen_cons rfl le_rfl ?_ facts.seen, ?_, ?_⟩
    · dsimp only
      rw [judged.quiet calm]
      exact one_le_rank _
    · intro impossible
      cases impossible
    · intro _
      refine ⟨?_, ?_, ?_⟩
      · rw [kinds_cons]
        simpa using opened
      · rw [raisedOf_cons_other history rfl]
        exact since
      · rw [lastTransition_cons]
        exact last
  | cleared calm was not_above =>
    obtain ⟨opened, -, -⟩ := facts.alarmed was
    refine ⟨?_, ?_, ?_⟩
    · intro g member
      rw [episode_cons_cleared history rfl] at member
      cases member
    · intro _
      refine ⟨rfl, ?_, ?_⟩
      · rw [kinds_cons]
        exact mem_alarmGrammar_cleared opened
      · intro t last
        rw [lastTransition_cons] at last
        cases last
        rfl
    · intro impossible
      cases impossible

theorem Explains.facts {t : StateTracker} {key : String} {history : List Frame}
    {entry : Option SensorState} (explained : Explains t key history entry) :
    StateFacts history (entry.getD {}) := by
  induction explained with
  | nil => exact stateFacts_fresh
  | cons eval now judged _ ih => exact ih.step judged (advance_outcome _ _ eval now) _

/-- Every earlier point of the history is explained as well. -/
theorem Explains.earlier {t : StateTracker} {key : String} {history past : List Frame}
    {entry : Option SensorState} (explained : Explains t key history entry)
    (suffix : past <:+ history) : ∃ entry', Explains t key past entry' := by
  induction explained with
  | nil =>
    rw [List.suffix_nil.mp suffix]
    exact ⟨none, Explains.nil⟩
  | cons eval now judged before ih =>
    rcases List.suffix_cons_iff.mp suffix with rfl | within
    · exact ⟨_, Explains.cons eval now judged before⟩
    · exact ih within

/-- What a frame of the history was evaluated on, and how it came out. -/
theorem Explains.frame {t : StateTracker} {key : String} {history past : List Frame}
    {entry : Option SensorState} (explained : Explains t key history entry) {f : Frame}
    (suffix : f :: past <:+ history) :
    ∃ st next, StateFacts past st ∧ f.eval.Judged ∧ Outcome t st f.eval f.now next f.transition := by
  obtain ⟨entry', before⟩ := explained.earlier suffix
  cases before with
  | @cons _ prior eval now judged earlier =>
    exact ⟨_, _, earlier.facts, judged, advance_outcome t _ eval now⟩

theorem suffix_of_mem {f : Frame} {history : List Frame} (member : f ∈ history) :
    ∃ past, f :: past <:+ history := by
  obtain ⟨newer, past, rfl⟩ := List.append_of_mem member
  exact ⟨past, List.suffix_append newer (f :: past)⟩

/-- Everything the law asks for except the release limit holds of every run. -/
theorem lawful_of_explains {t : StateTracker} {key : String} {history : List Frame}
    {entry : Option SensorState} (explained : Explains t key history entry)
    (released : ∀ f ∈ history, f.isKind .cleared = true →
      f.eval.observed ≤ f.eval.threshold.limit * (1 - t.hysteresisRatio)) :
    Lawful t.hysteresisRatio history entry where
  grammar := by
    have facts := explained.facts
    cases state : (entry.getD {}).state with
    | normal => exact ⟨[], by simpa using (facts.calm state).2.1⟩
    | anomalous => exact ⟨[.cleared], mem_alarmGrammar_cleared (facts.alarmed state).1⟩
  escalated := by
    intro f earlier suffix kind g member
    obtain ⟨st, next, facts, -, outcome⟩ := explained.frame suffix
    unfold Frame.isKind at kind
    cases shape : f.transition with
    | none =>
      rw [shape] at kind
      cases kind
    | some tr =>
      rw [shape] at outcome kind
      cases outcome with
      | escalated breached was worse => exact (facts.seen g member).trans_lt worse
      | raised => cases kind
      | sustained => cases kind
      | cleared => cases kind
  cleared := released
  activeSince := by
    intro f earlier tr suffix shape kind
    obtain ⟨st, next, facts, -, outcome⟩ := explained.frame suffix
    rw [shape] at outcome
    cases outcome with
    | raised => exact absurd rfl kind
    | escalated breached was worse =>
      obtain ⟨r, found, since⟩ := (facts.alarmed was).2.1
      exact ⟨r, found, since.symm⟩
    | sustained breached was no_worse =>
      obtain ⟨r, found, since⟩ := (facts.alarmed was).2.1
      exact ⟨r, found, since.symm⟩
    | cleared calm was not_above =>
      obtain ⟨r, found, since⟩ := (facts.alarmed was).2.1
      exact ⟨r, found, since.symm⟩
  anomalous := by
    have facts := explained.facts
    constructor
    · rintro ⟨st, rfl, state⟩
      exact (facts.alarmed state).2.2
    · rintro ⟨tr, last, open_⟩
      cases state : (entry.getD {}).state with
      | normal => exact absurd ((facts.calm state).2.2 tr last) open_
      | anomalous =>
        cases entry with
        | none => cases state
        | some st => exact ⟨st, rfl, state⟩

/-! ## The release limit -/

/-- The readings of one channel that `Validate` lets through to the rules. -/
def OfChannel (sensorID : String) (actions : List Action) : Prop :=
  ∀ ev now, Action.reading ev now ∈ actions → ev.sensorID = sensorID ∧ ev.value.isFinite = true

/-- A frame judged by the channel's rule on a finite reading. -/
structure Governed (threshold : Threshold) (f : Frame) : Prop where
  threshold : f.eval.threshold = threshold
  finite : f.eval.observed.isFinite = true

theorem Governed.step {cfg : RuleConfig} {sensorID : String} {threshold : Threshold}
    (rule : cfg.thresholds[sensorID]? = some threshold) (key : String) {s : Trace}
    (governed : ∀ f ∈ s.history, Governed threshold f) {action : Action}
    (channel : OfChannel sensorID [action]) :
    ∀ f ∈ (s.step (newRuleEngine cfg) key action).history, Governed threshold f := by
  cases action with
  | reading ev now =>
    obtain ⟨rfl, finite⟩ := channel ev now (List.mem_singleton.mpr rfl)
    have verdict : (newRuleEngine cfg).evaluate ev =
        some (RuleEngine.judge cfg.criticalRatio threshold ev.value) := by
      unfold RuleEngine.evaluate newRuleEngine
      rw [rule]
    have judged := judge_judged cfg.criticalRatio threshold ev.value
    unfold Trace.step
    simp only [verdict]
    intro f member
    rcases List.mem_cons.mp member with rfl | old
    · exact ⟨judged.2.1, by rw [judged.2.2]; exact finite⟩
    · exact governed f old
  | rollback =>
    unfold Trace.step
    dsimp only
    cases shape : s.history with
    | nil =>
      intro f member
      exact governed f member
    | cons frame rest =>
      intro f member
      exact governed f (shape ▸ List.mem_cons_of_mem frame member)

theorem governed_after {cfg : RuleConfig} {sensorID : String} {threshold : Threshold}
    (rule : cfg.thresholds[sensorID]? = some threshold) (key : String) {actions : List Action}
    (channel : OfChannel sensorID actions) :
    ∀ f ∈ (Trace.after cfg key actions).history, Governed threshold f := by
  refine List.foldlRecOn actions (Trace.step (newRuleEngine cfg) key)
    (motive := fun s => ∀ f ∈ s.history, Governed threshold f) ?_ fun s governed action member =>
      Governed.step rule key governed fun ev now alone => ?_
  · intro f member
    cases member
  · exact channel ev now (List.mem_singleton.mp alone ▸ member)

theorem mem_of_raisedOf {history : List Frame} {r : Transition}
    (found : raisedOf history = some r) : ∃ g ∈ history, g.isKind .raised = true := by
  obtain ⟨g, member, kept⟩ := List.exists_of_findSome?_eq_some found
  refine ⟨g, member, ?_⟩
  obtain ⟨shape, kind⟩ := Option.filter_eq_some_iff.mp kept
  unfold Frame.isKind
  rw [shape]
  exact kind

/-- A CLEARED ends an alarm: the channel has breached before, and the reading lies
within the limit but not above the release limit. -/
theorem Explains.cleared {t : StateTracker} {key : String} {history : List Frame}
    {entry : Option SensorState} (explained : Explains t key history entry) {f : Frame}
    (member : f ∈ history) (kind : f.isKind .cleared = true) :
    (∃ g ∈ history, ¬g.eval.observed ≤ g.eval.threshold.limit) ∧
      f.eval.observed ≤ f.eval.threshold.limit ∧ ¬f.eval.observed > t.clearAt f.eval := by
  obtain ⟨past, suffix⟩ := suffix_of_mem member
  obtain ⟨st, next, facts, judged, outcome⟩ := explained.frame suffix
  unfold Frame.isKind at kind
  cases shape : f.transition with
  | none =>
    rw [shape] at kind
    cases kind
  | some tr =>
    rw [shape] at outcome kind
    cases outcome with
    | raised => cases kind
    | escalated => cases kind
    | sustained => cases kind
    | cleared calm was not_above =>
      refine ⟨?_, ?_, not_above⟩
      · obtain ⟨r, found, -⟩ := (facts.alarmed was).2.1
        obtain ⟨g, earlier, raised⟩ := mem_of_raisedOf found
        have within : g ∈ history := suffix.mem (List.mem_cons_of_mem f earlier)
        refine ⟨g, within, ?_⟩
        obtain ⟨past', suffix'⟩ := suffix_of_mem within
        obtain ⟨_, _, _, judged', outcome'⟩ := explained.frame suffix'
        unfold Frame.isKind at raised
        cases shape' : g.transition with
        | none =>
          rw [shape'] at raised
          cases raised
        | some tr' =>
          rw [shape'] at outcome' raised
          cases outcome' with
          | raised severity breached => exact judged'.breached.mp breached
          | escalated => cases raised
          | sustained => cases raised
          | cleared => cases raised
      · by_contra above
        rw [judged.breached.mpr above] at calm
        cases calm

/-- With a real hysteresis ratio the release limit of a finite positive threshold is
a number, and not lying above it is lying at or below it. -/
theorem released_of_not_above {limit ratio observed : Float} (finite : limit.isFinite = true)
    (positive : ¬limit ≤ 0) (real : ratio.isNaN = false) (number : observed.isFinite = true)
    (not_above : ¬observed > limit * (1 - ratio)) : observed ≤ limit * (1 - ratio) := by
  refine Binary64.le_of_not_lt (Binary64.not_isNaN_of_isFinite number) ?_ not_above
  rw [Binary64.mul_isNaN_of_finite finite positive,
    Binary64.sub_isNaN_of_finite (by decide +kernel), real]

theorem not_released_of_isNaN {limit ratio observed : Float} (finite : limit.isFinite = true)
    (positive : ¬limit ≤ 0) (nan : ratio.isNaN = true) :
    ¬observed > limit * (1 - ratio) ∧ ¬observed ≤ limit * (1 - ratio) := by
  have released : (limit * (1 - ratio)).isNaN = true := by
    rw [Binary64.mul_isNaN_of_finite finite positive,
      Binary64.sub_isNaN_of_finite (by decide +kernel), nan]
  exact ⟨Binary64.lt_irrefl_of_isNaN (Or.inl released),
    Binary64.not_le_of_isNaN (Or.inr released)⟩

/-! ## The law -/

/-- Some finite reading breaches the limit, and some finite reading does not. -/
def Threshold.CanClear (threshold : Threshold) : Prop :=
  (∃ high : Float, high.isFinite = true ∧ ¬high ≤ threshold.limit) ∧
    ∃ low : Float, low.isFinite = true ∧ low ≤ threshold.limit

theorem Trace.lawful_of_real {cfg : RuleConfig} {sensorID : String} {threshold : Threshold}
    (accepted : cfg.validate = []) (rule : cfg.thresholds[sensorID]? = some threshold)
    (key : String) {actions : List Action} (channel : OfChannel sensorID actions)
    (sound : ¬(cfg.hysteresisRatio.isNaN = true ∧ threshold.CanClear)) :
    Lawful cfg.hysteresisRatio (Trace.after cfg key actions).history
      (Trace.after cfg key actions).tracker.entries[key]? := by
  have traced := traced_after cfg key actions
  have governed := governed_after rule key channel
  refine lawful_of_explains traced.explained fun f member kind => ?_
  obtain ⟨⟨g, earlier, above⟩, within, not_above⟩ := traced.explained.cleared member kind
  have clearAt : (newStateTracker cfg.reAlertInterval cfg.hysteresisRatio).clearAt f.eval =
      f.eval.threshold.limit * (1 - cfg.hysteresisRatio) := rfl
  rw [clearAt] at not_above
  rw [(governed g earlier).threshold] at above
  rw [(governed f member).threshold] at within not_above ⊢
  have finite := Binary64.isFinite_of_between (governed f member).finite (governed g earlier).finite
    within above
  have real : cfg.hysteresisRatio.isNaN = false := by
    rw [Bool.eq_false_iff]
    intro nan
    exact sound ⟨nan, ⟨_, (governed g earlier).finite, above⟩, _, (governed f member).finite, within⟩
  exact released_of_not_above finite (RuleConfig.limit_of_validate accepted rule) real
    (governed f member).finite not_above

theorem evaluate_rule {cfg : RuleConfig} {sensorID : String} {threshold : Threshold}
    (rule : cfg.thresholds[sensorID]? = some threshold) {ev : TelemetryEvent}
    (sensor : ev.sensorID = sensorID) :
    (newRuleEngine cfg).evaluate ev =
      some (RuleEngine.judge cfg.criticalRatio threshold ev.value) := by
  unfold RuleEngine.evaluate newRuleEngine
  rw [sensor, rule]

/-- A reading adds one frame and leaves the entry its outcome prescribes. -/
theorem Trace.step_reading {rules : RuleEngine} {ev : TelemetryEvent} {eval : RuleEvaluation}
    (verdict : rules.evaluate ev = some eval) (key : String) (s : Trace) (now : Time) :
    ∃ next transition undo,
      Outcome s.tracker (s.tracker.entries.getD key {}) eval now next transition ∧
      (s.step rules key (.reading ev now)).tracker.entries.getD key {} = next ∧
      (s.step rules key (.reading ev now)).tracker.hysteresisRatio = s.tracker.hysteresisRatio ∧
      (s.step rules key (.reading ev now)).history = ⟨eval, now, transition, undo⟩ :: s.history := by
  unfold Trace.step
  simp only [verdict]
  unfold StateTracker.evaluate
  exact ⟨_, _, _, advance_outcome _ _ eval now, Std.ExtTreeMap.getD_insert_self, rfl, rfl⟩

/-- A reading above the limit and then one within it, on a fresh channel. -/
theorem Trace.cleared_after_two {cfg : RuleConfig} {sensorID : String} {threshold : Threshold}
    (rule : cfg.thresholds[sensorID]? = some threshold) (key : String) {high low : TelemetryEvent}
    (high_sensor : high.sensorID = sensorID) (low_sensor : low.sensorID = sensorID)
    (above : ¬high.value ≤ threshold.limit) (within : low.value ≤ threshold.limit)
    (not_above : ¬low.value > threshold.limit * (1 - cfg.hysteresisRatio)) (now later : Time) :
    ∃ f ∈ (Trace.after cfg key [.reading high now, .reading low later]).history,
      f.isKind .cleared = true ∧ f.eval.threshold = threshold ∧ f.eval.observed = low.value := by
  unfold Trace.after
  simp only [List.foldl_cons, List.foldl_nil]
  generalize start : (⟨newStateTracker cfg.reAlertInterval cfg.hysteresisRatio, []⟩ : Trace) = s
  obtain ⟨st, transition, undo, raised, entry, ratio, -⟩ :=
    s.step_reading (evaluate_rule rule high_sensor) key now
  have fresh : s.tracker.entries.getD key {} = {} := by
    rw [← start, show (newStateTracker cfg.reAlertInterval cfg.hysteresisRatio).entries = ∅ from rfl,
      Std.ExtTreeMap.getD_empty]
  have settings : s.tracker.hysteresisRatio = cfg.hysteresisRatio := by
    rw [← start]
    rfl
  have breach := (judge_judged cfg.criticalRatio threshold high.value)
  have quiet := (judge_judged cfg.criticalRatio threshold low.value)
  have loud : (RuleEngine.judge cfg.criticalRatio threshold high.value).breached = true := by
    rw [breach.1.breached, breach.2.1, breach.2.2]
    exact above
  have calm : (RuleEngine.judge cfg.criticalRatio threshold low.value).breached = false := by
    rw [Bool.eq_false_iff, ne_eq, quiet.1.breached, quiet.2.1, quiet.2.2]
    exact not_not.mpr within
  have alarmed : st.state = .anomalous := by
    rw [fresh] at raised
    cases raised with
    | raised | escalated | sustained | repeated => rfl
    | quiet silent => exact absurd silent (by rw [loud]; exact Bool.noConfusion)
    | held silent => exact absurd silent (by rw [loud]; exact Bool.noConfusion)
    | cleared silent => exact absurd silent (by rw [loud]; exact Bool.noConfusion)
  obtain ⟨st', transition', undo', outcome, -, -, history⟩ :=
    (s.step (newRuleEngine cfg) key (.reading high now)).step_reading
      (evaluate_rule rule low_sensor) key later
  rw [entry] at outcome
  rw [history]
  refine ⟨_, List.mem_cons_self, ?_, quiet.2.1, quiet.2.2⟩
  unfold Frame.isKind
  cases outcome with
  | raised _ loud' => exact absurd loud' (by rw [calm]; exact Bool.noConfusion)
  | escalated loud' => exact absurd loud' (by rw [calm]; exact Bool.noConfusion)
  | sustained loud' => exact absurd loud' (by rw [calm]; exact Bool.noConfusion)
  | repeated loud' => exact absurd loud' (by rw [calm]; exact Bool.noConfusion)
  | quiet _ was =>
    rw [was] at alarmed
    cases alarmed
  | held _ _ high_reading =>
    unfold StateTracker.clearAt at high_reading
    rw [quiet.2.1, quiet.2.2, ratio, settings] at high_reading
    exact absurd high_reading not_above
  | cleared => rfl

/-- Under an accepted configuration every trace of a channel obeys the law, unless
the hysteresis ratio is a NaN and the channel's rule can both breach and clear. -/
theorem Trace.lawful_iff {cfg : RuleConfig} {sensorID : String} {threshold : Threshold}
    (accepted : cfg.validate = []) (rule : cfg.thresholds[sensorID]? = some threshold)
    (key : String) :
    (∀ actions, OfChannel sensorID actions →
        Lawful cfg.hysteresisRatio (Trace.after cfg key actions).history
          (Trace.after cfg key actions).tracker.entries[key]?) ↔
      ¬(cfg.hysteresisRatio.isNaN = true ∧ threshold.CanClear) := by
  constructor
  · rintro lawful ⟨nan, ⟨high, finite_high, above⟩, low, finite_low, within⟩
    let breach : TelemetryEvent := { assetID := "", sensorID, value := high, timestamp := 0 }
    let calm : TelemetryEvent := { assetID := "", sensorID, value := low, timestamp := 0 }
    have channel : OfChannel sensorID [.reading breach 0, .reading calm 0] := by
      intro ev now member
      rcases List.mem_pair.mp member with first | second
      · cases first
        exact ⟨rfl, finite_high⟩
      · cases second
        exact ⟨rfl, finite_low⟩
    have unordered : ¬low > threshold.limit * (1 - cfg.hysteresisRatio) ∧
        ¬low ≤ threshold.limit * (1 - cfg.hysteresisRatio) :=
      not_released_of_isNaN (Binary64.isFinite_of_between finite_low finite_high within above)
        (RuleConfig.limit_of_validate accepted rule) nan
    obtain ⟨f, member, kind, governed, observed⟩ :=
      Trace.cleared_after_two rule key (show breach.sensorID = sensorID from rfl)
        (show calm.sensorID = sensorID from rfl) above within unordered.1 0 0
    have released := (lawful _ channel).cleared f member kind
    rw [governed, observed] at released
    exact unordered.2 released
  · intro sound actions channel
    exact Trace.lawful_of_real accepted rule key channel sound

/-- `RULE_HYSTERESIS_RATIO=NaN` over the vibration rule. -/
def nanHysteresis : RuleConfig where
  thresholds := (∅ : Std.ExtTreeMap String Threshold).insert "vibration_index"
    { ruleID := "rule.vibration_index.max", sensorID := "vibration_index", limit := 8.5
      unit := "mm/s" }
  criticalRatio := 0.15
  hysteresisRatio := 0.0 / 0.0
  reAlertInterval := 300000000000

def vibration (value : Float) (timestamp : Time) : TelemetryEvent :=
  { assetID := "HP-TUBING-P104", sensorID := "vibration_index", value, unit := "mm/s", timestamp }

/-- A reading of 9 and then one of 5 under that configuration. -/
def nanTrace : Trace :=
  Trace.after nanHysteresis (vibration 9 1).cacheKey
    [.reading (vibration 9 1) 1, .reading (vibration 5 2) 2]

/-- The configuration is accepted, and the second reading clears the alarm although no
reading lies at or below a NaN. -/
theorem Trace.nanTrace_not_lawful :
    nanHysteresis.validate = [] ∧
      ¬Lawful nanHysteresis.hysteresisRatio nanTrace.history
        nanTrace.tracker.entries[(vibration 9 1).cacheKey]? := by
  refine ⟨by decide +kernel, fun lawful => ?_⟩
  have rule : nanHysteresis.thresholds["vibration_index"]? = some
      { ruleID := "rule.vibration_index.max", sensorID := "vibration_index", limit := 8.5
        unit := "mm/s" } := Std.ExtTreeMap.getElem?_insert_self
  obtain ⟨f, member, kind, governed, observed⟩ :=
    Trace.cleared_after_two rule
      (vibration 9 1).cacheKey (show (vibration 9 1).sensorID = "vibration_index" from rfl)
      (show (vibration 5 2).sensorID = "vibration_index" from rfl) (by decide +kernel)
      (by decide +kernel) (by decide +kernel) 1 2
  have released := lawful.cleared f member kind
  rw [governed, observed] at released
  exact absurd released (by decide +kernel)

def defaultHysteresis : RuleConfig := { nanHysteresis with hysteresisRatio := 0.05 }

/-- The default ratio over the same rule: the alarm is raised and released lawfully. -/
theorem Trace.lawful_default :
    Lawful defaultHysteresis.hysteresisRatio
      (Trace.after defaultHysteresis (vibration 9 1).cacheKey
        [.reading (vibration 9 1) 1, .reading (vibration 5 2) 2]).history
      (Trace.after defaultHysteresis (vibration 9 1).cacheKey
        [.reading (vibration 9 1) 1,
          .reading (vibration 5 2) 2]).tracker.entries[(vibration 9 1).cacheKey]? := by
  have accepted : defaultHysteresis.validate = [] := by decide +kernel
  have rule : defaultHysteresis.thresholds["vibration_index"]? = some
      { ruleID := "rule.vibration_index.max", sensorID := "vibration_index", limit := 8.5
        unit := "mm/s" } := Std.ExtTreeMap.getElem?_insert_self
  have real : defaultHysteresis.hysteresisRatio.isNaN = false := by decide +kernel
  refine (Trace.lawful_iff accepted rule (vibration 9 1).cacheKey).mpr
    (fun nan => absurd nan.1 (by rw [real]; exact Bool.noConfusion)) _ ?_
  intro ev now member
  rcases List.mem_pair.mp member with first | second
  · cases first
    exact ⟨rfl, by decide +kernel⟩
  · cases second
    exact ⟨rfl, by decide +kernel⟩

end OpenOntology.Resolution
