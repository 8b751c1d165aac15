import OpenOntology.Library.Run
import OpenOntology.Resolution.Process

/-!
# Interleaved deliveries

Several workers share one tracker. A delivery evaluates its reading, marks the alarm,
emits the mutation and, if either call failed, hands its token to `rollback`; the other
deliveries run between any two of these. For each channel the surviving evaluations are
kept beside the code's state, newest first, with the delivery that made each of them.
-/
namespace OpenOntology.Resolution

open Library

inductive Stage where
  | evaluated
  | marked
  | failed
  deriving DecidableEq, Repr

/-- A delivery whose evaluation produced a transition and which has not returned. -/
structure Delivery where
  ev : TelemetryEvent
  transition : Transition
  undo : StateUndo
  stage : Stage

structure Survivor where
  delivery : Nat
  frame : Frame

structure Workers where
  tracker : StateTracker
  cache : StateCache
  next : Nat
  inFlight : Std.ExtTreeMap Nat Delivery
  published : List (Nat × Delivery)
  history : String → List Survivor
  abandoned : List (String × Nat)

inductive Step where
  | deliver (ev : TelemetryEvent) (now : Time)
  | mark (id : Nat) (ok : Bool) (eventID : String) (now : Time)
  | emit (id : Nat) (ok : Bool)
  | rollback (id : Nat)

namespace Workers

def start (cfg : RuleConfig) : Workers where
  tracker := newStateTracker cfg.reAlertInterval cfg.hysteresisRatio
  cache := ⟨∅, ∅⟩
  next := 0
  inFlight := ∅
  published := []
  history _ := []
  abandoned := []

/-- `rollback` finds the channel where the delivery's evaluation left it. -/
def takesEffect (s : Workers) (undo : StateUndo) : Bool :=
  match s.tracker.entries[undo.key]? with
  | none => false
  | some st => st.sequence = undo.sequence

def deliver (s : Workers) (ev : TelemetryEvent) (eval : RuleEvaluation) (now : Time) : Workers :=
  let (tracker, transition, undo) := s.tracker.evaluate ev.cacheKey eval now
  let survivor : Survivor := ⟨s.next, eval, now, transition, undo⟩
  { s with
    tracker
    next := s.next + 1
    history := Function.update s.history ev.cacheKey (survivor :: s.history ev.cacheKey)
    inFlight :=
      match transition with
      | none => s.inFlight
      | some t => s.inFlight.insert s.next ⟨ev, t, undo, .evaluated⟩ }

/-- The delivery returns without an error. -/
def publish (s : Workers) (id : Nat) (d : Delivery) : Workers :=
  { s with inFlight := s.inFlight.erase id, published := (id, d) :: s.published }

/-- The delivery returns with an error, after its deferred rollback. -/
def withdraw (s : Workers) (id : Nat) (d : Delivery) : Workers :=
  if s.takesEffect d.undo then
    { s with
      tracker := s.tracker.rollback d.undo
      inFlight := s.inFlight.erase id
      history := Function.update s.history d.undo.key (s.history d.undo.key).tail }
  else
    { s with
      tracker := s.tracker.rollback d.undo
      inFlight := s.inFlight.erase id
      abandoned := (d.undo.key, id) :: s.abandoned }

/-- One step of one worker; `none` when the step is not the delivery's next one. -/
def step (rules : RuleEngine) (s : Workers) : Step → Option Workers
  | .deliver ev now =>
    match rules.evaluate ev with
    | none => some s
    | some eval => some (s.deliver ev eval now)
  | .mark id ok eventID now =>
    match s.inFlight[id]? with
    | none => none
    | some d =>
      if d.stage ≠ .evaluated then none
      else if ok then
        some { s with
          cache := s.cache.markAlarm d.ev d.transition eventID now
          inFlight := s.inFlight.insert id { d with stage := .marked } }
      else some { s with inFlight := s.inFlight.insert id { d with stage := .failed } }
  | .emit id ok =>
    match s.inFlight[id]? with
    | none => none
    | some d =>
      if d.stage ≠ .marked then none
      else if ok then some (s.publish id d)
      else some { s with inFlight := s.inFlight.insert id { d with stage := .failed } }
  | .rollback id =>
    match s.inFlight[id]? with
    | none => none
    | some d => if d.stage ≠ .failed then none else some (s.withdraw id d)

/-! ## What has to hold -/

/-- The surviving RAISED of the channel and the delivery that made it. -/
def raisedBy (history : List Survivor) : Option (Nat × Transition) :=
  history.findSome? fun v =>
    (v.frame.transition.filter fun t => t.kind == .raised).map fun t => (v.delivery, t)

/-- The RAISED that opened the channel's current episode has been published. -/
def Announced (s : Workers) (key : String) : Prop :=
  ∃ st, s.tracker.entries[key]? = some st ∧
    ∃ published ∈ s.published, published.2.undo.key = key ∧
      raisedBy (s.history key) = some (published.1, published.2.transition) ∧
      published.2.transition.kind = .raised ∧
      published.2.transition.activeSince = st.activeSince

/-- The channel is in alarm and the delivery that raised it has given up. -/
def Lost (s : Workers) (key : String) : Prop :=
  s.tracker.anomalous key = true ∧
    ∃ id t, raisedBy (s.history key) = some (id, t) ∧ (key, id) ∈ s.abandoned

/-- A rollback that is skipped does not belong to the RAISED of an alarm still open, and
a CLEARED that is taken back does not reopen an alarm whose RAISED was given up. -/
def Keeps (s : Workers) : Step → Prop
  | .rollback id =>
    ∀ d, s.inFlight[id]? = some d →
      (s.takesEffect d.undo = false → s.tracker.anomalous d.undo.key = true →
        ∀ t, raisedBy (s.history d.undo.key) ≠ some (id, t)) ∧
      (s.takesEffect d.undo = true → d.transition.kind = .cleared →
        ∀ raiser t, raisedBy (s.history d.undo.key) = some (raiser, t) →
          (d.undo.key, raiser) ∉ s.abandoned)
  | _ => True

/-- Every step of the run keeps its alarms. -/
def KeepsAll (rules : RuleEngine) : Workers → List Step → Prop
  | _, [] => True
  | s, event :: rest =>
    s.Keeps event ∧ ∀ next, s.step rules event = some next → KeepsAll rules next rest

end Workers

/-! ## Tokens and sequence numbers -/

/-- The sequence number of a channel counts its surviving evaluations. -/
theorem Explains.sequence {t : StateTracker} {key : String} {history : List Frame}
    {entry : Option SensorState} (explained : Explains t key history entry) :
    (entry.getD {}).sequence = history.length := by
  induction explained with
  | nil => rfl
  | @cons _ prior eval now judged earlier ih =>
    have counted := (advance_outcome t (prior.getD {}) eval now).sequence
    rw [Option.getD_some, counted, ih, List.length_cons]

/-- The token of a surviving evaluation names its channel and its place. -/
theorem Explains.token {t : StateTracker} {key : String} {history past : List Frame}
    {entry : Option SensorState} (explained : Explains t key history entry) {f : Frame}
    (suffix : f :: past <:+ history) :
    f.undo.key = key ∧ f.undo.sequence = past.length + 1 := by
  obtain ⟨entry', before⟩ := explained.earlier suffix
  cases before with
  | @cons _ prior eval now judged earlier =>
    refine ⟨rfl, ?_⟩
    have counted := (advance_outcome t (prior.getD {}) eval now).sequence
    rw [earlier.sequence] at counted
    exact counted

theorem rollback_other (t : StateTracker) (undo : StateUndo) {key : String}
    (other : undo.key ≠ key) : (t.rollback undo).entries[key]? = t.entries[key]? := by
  have differs : ¬compare undo.key key = .eq := fun equal => other (compare_eq_iff_eq.mp equal)
  unfold StateTracker.rollback
  split
  next => rfl
  next =>
    split
    next => rfl
    next =>
      split
      next => rfl
      next =>
        split
        next => rw [Std.ExtTreeMap.getElem?_erase, if_neg differs]
        next => rw [Std.ExtTreeMap.getElem?_insert, if_neg differs]

theorem evaluate_other (t : StateTracker) (key : String) (eval : RuleEvaluation) (now : Time)
    {k : String} (other : key ≠ k) : (t.evaluate key eval now).1.entries[k]? = t.entries[k]? := by
  unfold StateTracker.evaluate
  dsimp only
  rw [Std.ExtTreeMap.getElem?_insert, if_neg fun equal => other (compare_eq_iff_eq.mp equal)]

/-- An alarm open after an evaluation that did not raise it was open before. -/
theorem Outcome.still_open {t : StateTracker} {st next : SensorState} {eval : RuleEvaluation}
    {now : Time} {transition : Option Transition}
    (outcome : Outcome t st eval now next transition)
    (not_raised : ∀ tr, transition = some tr → tr.kind ≠ .raised)
    (opened : next.state = .anomalous) : st.state = .anomalous := by
  cases outcome with
  | raised => exact absurd rfl (not_raised _ rfl)
  | escalated breached was => exact was
  | sustained breached was => exact was
  | repeated breached was => exact was
  | quiet => cases opened
  | held calm was => exact was
  | cleared => cases opened

namespace Workers

theorem rollback_skipped {s : Workers} {undo : StateUndo} (skipped : s.takesEffect undo = false) :
    s.tracker.rollback undo = s.tracker := by
  unfold takesEffect at skipped
  unfold StateTracker.rollback
  split
  next => rfl
  next =>
    cases held : s.tracker.entries[undo.key]? with
    | none => rfl
    | some st =>
      rw [held] at skipped
      dsimp only
      rw [if_pos (of_decide_eq_false skipped)]

/-! ## The invariant -/

theorem raisedBy_frames (history : List Survivor) :
    raisedOf (history.map Survivor.frame) = (raisedBy history).map Prod.snd := by
  induction history with
  | nil => rfl
  | cons v rest ih =>
    unfold raisedOf raisedBy at ih ⊢
    rw [List.map_cons, List.findSome?_cons, List.findSome?_cons]
    cases v.frame.transition.filter fun t => t.kind == .raised with
    | none => exact ih
    | some t => rfl

theorem mem_of_raisedBy {history : List Survivor} {id : Nat} {t : Transition}
    (found : raisedBy history = some (id, t)) :
    ∃ v ∈ history, v.delivery = id ∧ v.frame.transition = some t ∧ t.kind = .raised := by
  obtain ⟨v, member, made⟩ := List.exists_of_findSome?_eq_some found
  obtain ⟨tr, kept, same⟩ := Option.map_eq_some_iff.mp made
  obtain ⟨shape, kind⟩ := Option.filter_eq_some_iff.mp kept
  cases same
  exact ⟨v, member, rfl, shape, eq_of_beq kind⟩

/-- Newer evaluations that raise nothing leave the raiser. -/
theorem raisedBy_cons_other {v : Survivor} (history : List Survivor)
    (not_raised : ∀ tr, v.frame.transition = some tr → tr.kind ≠ .raised) :
    raisedBy (v :: history) = raisedBy history := by
  unfold raisedBy
  rw [List.findSome?_cons]
  cases shape : v.frame.transition with
  | none => rfl
  | some tr =>
    rw [Option.filter_some, if_neg (by simpa using not_raised tr shape)]
    rfl

/-- A transition of a surviving evaluation: its delivery is still at it, has published it
or has given up on it. -/
def Accounted (s : Workers) (key : String) (id : Nat) (t : Transition) : Prop :=
  (∃ d, s.inFlight[id]? = some d ∧ d.undo.key = key ∧ d.transition = t) ∨
    (∃ p ∈ s.published, p.1 = id ∧ p.2.undo.key = key ∧ p.2.transition = t) ∨
    (key, id) ∈ s.abandoned

/-- The delivery's evaluation survives, with the delivery's token and transition. -/
def Placed (s : Workers) (id : Nat) (d : Delivery) : Prop :=
  ∃ newer f older, s.history d.undo.key = newer ++ ⟨id, f⟩ :: older ∧ f.undo = d.undo ∧
    f.transition = some d.transition

structure Invariant (t : StateTracker) (s : Workers) : Prop where
  interval : s.tracker.reAlertInterval = t.reAlertInterval
  ratio : s.tracker.hysteresisRatio = t.hysteresisRatio
  explained : ∀ k, Explains t k ((s.history k).map Survivor.frame) s.tracker.entries[k]?
  ordered : ∀ k, (s.history k).Pairwise fun v w => w.delivery < v.delivery
  old : ∀ k, ∀ v ∈ s.history k, v.delivery < s.next
  abandoned_old : ∀ a ∈ s.abandoned, a.2 < s.next
  placed : ∀ (id : Nat) d, s.inFlight[id]? = some d → s.Placed id d
  accounted : ∀ k, ∀ v ∈ s.history k, ∀ t, v.frame.transition = some t → s.Accounted k v.delivery t
  kept : ∀ k, ¬s.Lost k

theorem invariant_start (cfg : RuleConfig) :
    Invariant (newStateTracker cfg.reAlertInterval cfg.hysteresisRatio) (start cfg) where
  interval := rfl
  ratio := rfl
  explained k := by
    show Explains _ k [] (∅ : Std.ExtTreeMap String SensorState)[k]?
    rw [Std.ExtTreeMap.getElem?_empty]
    exact Explains.nil
  ordered k := List.Pairwise.nil
  old k v member := by cases member
  abandoned_old a member := by cases member
  placed id d held := by
    change (∅ : Std.ExtTreeMap Nat Delivery)[id]? = some d at held
    rw [Std.ExtTreeMap.getElem?_empty] at held
    cases held
  accounted k v member := by cases member
  kept k lost := by
    obtain ⟨-, id, t, -, member⟩ := lost
    cases member

/-- A rollback takes effect exactly on the newest surviving evaluation. -/
theorem Invariant.newest {t : StateTracker} {s : Workers} (inv : Invariant t s) {id : Nat}
    {d : Delivery} (flying : s.inFlight[id]? = some d) (effect : s.takesEffect d.undo = true) :
    ∃ f older, s.history d.undo.key = ⟨id, f⟩ :: older ∧ f.undo = d.undo ∧
      f.transition = some d.transition := by
  obtain ⟨newer, f, older, shape, undo, transition⟩ := inv.placed id d flying
  have explained := inv.explained d.undo.key
  rw [shape, List.map_append, List.map_cons] at explained
  have token := (explained.token (List.suffix_append _ _)).2
  have counted := explained.sequence
  unfold takesEffect at effect
  cases held : s.tracker.entries[d.undo.key]? with
  | none =>
    rw [held] at effect
    cases effect
  | some st =>
    rw [held] at effect counted
    have same : st.sequence = d.undo.sequence := of_decide_eq_true effect
    rw [Option.getD_some, same, ← undo, token, List.length_append, List.length_cons] at counted
    have none_newer : newer = [] := by
      rw [← List.length_eq_zero_iff, ← List.length_map Survivor.frame]
      omega
    rw [none_newer] at shape
    exact ⟨f, older, shape, undo, transition⟩

/-! ## Every step keeps the invariant -/

theorem Invariant.flying_old {t : StateTracker} {s : Workers} (inv : Invariant t s) {id : Nat}
    {d : Delivery} (flying : s.inFlight[id]? = some d) : id < s.next := by
  obtain ⟨newer, f, older, shape, -⟩ := inv.placed id d flying
  exact inv.old d.undo.key ⟨id, f⟩ (by rw [shape]; simp)

/-- The evaluation that `deliver` adds to the channel. -/
def delivered (s : Workers) (ev : TelemetryEvent) (eval : RuleEvaluation) (now : Time) :
    Survivor :=
  ⟨s.next, eval, now, (s.tracker.evaluate ev.cacheKey eval now).2.1,
    (s.tracker.evaluate ev.cacheKey eval now).2.2⟩

theorem deliver_history (s : Workers) (ev : TelemetryEvent) (eval : RuleEvaluation) (now : Time)
    (k : String) :
    (s.deliver ev eval now).history k =
      if ev.cacheKey = k then s.delivered ev eval now :: s.history k else s.history k := by
  show Function.update s.history ev.cacheKey _ k = _
  by_cases here : ev.cacheKey = k
  · subst here
    rw [Function.update_self, if_pos rfl]
    rfl
  · rw [Function.update_of_ne (Ne.symm here), if_neg here]

theorem deliver_inFlight (s : Workers) (ev : TelemetryEvent) (eval : RuleEvaluation) (now : Time)
    (id : Nat) :
    (s.deliver ev eval now).inFlight[id]? =
      if s.next = id then
        ((s.delivered ev eval now).frame.transition.map fun t =>
          (⟨ev, t, (s.delivered ev eval now).frame.undo, .evaluated⟩ : Delivery)).or s.inFlight[id]?
      else s.inFlight[id]? := by
  unfold deliver delivered
  dsimp only
  cases (s.tracker.evaluate ev.cacheKey eval now).2.1 with
  | none =>
    dsimp only [Option.map_none]
    rw [Option.none_or, ite_self]
  | some t =>
    dsimp only [Option.map_some]
    rw [Std.ExtTreeMap.getElem?_insert, Option.some_or]
    simp only [compare_eq_iff_eq]

theorem deliver_tracker (s : Workers) (ev : TelemetryEvent) (eval : RuleEvaluation) (now : Time) :
    (s.deliver ev eval now).tracker = (s.tracker.evaluate ev.cacheKey eval now).1 := rfl

theorem Invariant.deliver_explained {t : StateTracker} {s : Workers} (inv : Invariant t s)
    (ev : TelemetryEvent) {eval : RuleEvaluation} (judged : eval.Judged) (now : Time)
    (k : String) :
    Explains t k (((s.deliver ev eval now).history k).map Survivor.frame)
      (s.deliver ev eval now).tracker.entries[k]? := by
  rw [deliver_history, deliver_tracker]
  by_cases here : ev.cacheKey = k
  · subst here
    rw [if_pos rfl, List.map_cons]
    unfold delivered StateTracker.evaluate
    dsimp only
    rw [Std.ExtTreeMap.getElem?_insert_self, Std.ExtTreeMap.getD_eq_getD_getElem?,
      advance_congr inv.interval inv.ratio]
    exact Explains.cons eval now judged (inv.explained ev.cacheKey)
  · rw [if_neg here, evaluate_other s.tracker ev.cacheKey eval now here]
    exact inv.explained k

theorem Invariant.deliver_placed {t : StateTracker} {s : Workers} (inv : Invariant t s)
    (ev : TelemetryEvent) (eval : RuleEvaluation) (now : Time) (id : Nat) (d : Delivery)
    (flying : (s.deliver ev eval now).inFlight[id]? = some d) :
    (s.deliver ev eval now).Placed id d := by
  have before : s.inFlight[id]? = some d → (s.deliver ev eval now).Placed id d := by
    intro held
    obtain ⟨newer, f, older, shape, undo, transition⟩ := inv.placed id d held
    unfold Placed
    rw [deliver_history]
    by_cases here : ev.cacheKey = d.undo.key
    · rw [if_pos here, shape]
      exact ⟨_ :: newer, f, older, rfl, undo, transition⟩
    · rw [if_neg here]
      exact ⟨newer, f, older, shape, undo, transition⟩
  rw [deliver_inFlight] at flying
  by_cases fresh : s.next = id
  · rw [if_pos fresh] at flying
    cases made : (s.delivered ev eval now).frame.transition with
    | none =>
      rw [made] at flying
      exact before flying
    | some tr =>
      rw [made] at flying
      cases flying
      subst fresh
      refine ⟨[], (s.delivered ev eval now).frame, s.history ev.cacheKey, ?_, rfl, made⟩
      exact (deliver_history s ev eval now ev.cacheKey).trans (if_pos rfl)
  · rw [if_neg fresh] at flying
    exact before flying

theorem Invariant.deliver_accounted {t : StateTracker} {s : Workers} (inv : Invariant t s)
    (ev : TelemetryEvent) (eval : RuleEvaluation) (now : Time) (k : String) (v : Survivor)
    (member : v ∈ (s.deliver ev eval now).history k) (tr : Transition)
    (made : v.frame.transition = some tr) : (s.deliver ev eval now).Accounted k v.delivery tr := by
  have before : v ∈ s.history k → (s.deliver ev eval now).Accounted k v.delivery tr := by
    intro held
    rcases inv.accounted k v held tr made with ⟨d, flying, key, same⟩ | done | gone
    · refine Or.inl ⟨d, ?_, key, same⟩
      rw [deliver_inFlight, if_neg (inv.flying_old flying).ne']
      exact flying
    · exact Or.inr (Or.inl done)
    · exact Or.inr (Or.inr gone)
  rw [deliver_history] at member
  by_cases here : ev.cacheKey = k
  · rw [if_pos here] at member
    rcases List.mem_cons.mp member with rfl | held
    · refine Or.inl ⟨⟨ev, tr, (s.delivered ev eval now).frame.undo, .evaluated⟩, ?_, here, rfl⟩
      rw [deliver_inFlight, if_pos (show s.next = (s.delivered ev eval now).delivery from rfl), made]
      rfl
    · exact before held
  · rw [if_neg here] at member
    exact before member

/-- An evaluation gives up on no alarm: it opens a new one, or leaves the open one to
the delivery that raised it. -/
theorem Invariant.deliver_kept {t : StateTracker} {s : Workers} (inv : Invariant t s)
    (ev : TelemetryEvent) (eval : RuleEvaluation) (now : Time) (k : String) :
    ¬(s.deliver ev eval now).Lost k := by
  rintro ⟨open_, id, tr, raised, gone⟩
  rw [deliver_tracker, anomalous_evaluate] at open_
  rw [deliver_history] at raised
  by_cases here : ev.cacheKey = k
  · subst here
    rw [if_pos rfl] at open_ raised
    have outcome := advance_outcome s.tracker (s.tracker.entries.getD ev.cacheKey {}) eval now
    by_cases raises : ∃ t', (s.delivered ev eval now).frame.transition = some t' ∧
        t'.kind = .raised
    · obtain ⟨t', made, kind⟩ := raises
      unfold raisedBy at raised
      rw [List.findSome?_cons, made, Option.filter_some, if_pos (by simp [kind])] at raised
      cases raised
      have old : s.next < s.next := inv.abandoned_old _ gone
      exact absurd old (lt_irrefl _)
    · have not_raised : ∀ t', (s.delivered ev eval now).frame.transition = some t' →
          t'.kind ≠ .raised := fun t' made kind => raises ⟨t', made, kind⟩
      rw [raisedBy_cons_other _ not_raised] at raised
      refine inv.kept ev.cacheKey ⟨?_, id, tr, raised, gone⟩
      rw [anomalous_eq]
      exact decide_eq_true (outcome.still_open not_raised (of_decide_eq_true open_))
  · rw [if_neg here] at open_ raised
    exact inv.kept k ⟨open_, id, tr, raised, gone⟩

theorem Invariant.deliver {t : StateTracker} {s : Workers} (inv : Invariant t s)
    (ev : TelemetryEvent) {eval : RuleEvaluation} (judged : eval.Judged) (now : Time) :
    Invariant t (s.deliver ev eval now) where
  interval := inv.interval
  ratio := inv.ratio
  explained := inv.deliver_explained ev judged now
  ordered k := by
    rw [deliver_history]
    by_cases here : ev.cacheKey = k
    · rw [if_pos here]
      exact (inv.ordered k).cons (inv.old k)
    · rw [if_neg here]
      exact inv.ordered k
  old k v member := by
    rw [deliver_history] at member
    have later : (s.deliver ev eval now).next = s.next + 1 := rfl
    by_cases here : ev.cacheKey = k
    · rw [if_pos here] at member
      rcases List.mem_cons.mp member with rfl | held
      · exact Nat.lt_succ_self s.next
      · exact Nat.lt_succ_of_lt (inv.old k v held)
    · rw [if_neg here] at member
      exact Nat.lt_succ_of_lt (inv.old k v member)
  abandoned_old a member := Nat.lt_succ_of_lt (inv.abandoned_old a member)
  placed := inv.deliver_placed ev eval now
  accounted := inv.deliver_accounted ev eval now
  kept := inv.deliver_kept ev eval now

/-- A delivery moves on without touching the tracker. -/
theorem Invariant.restage {t : StateTracker} {s : Workers} (inv : Invariant t s) {id : Nat}
    {d : Delivery} (flying : s.inFlight[id]? = some d) (cache : StateCache) (stage : Stage) :
    Invariant t { s with cache, inFlight := s.inFlight.insert id { d with stage } } := by
  have lookup : ∀ i : Nat, (s.inFlight.insert id { d with stage })[i]? =
      if id = i then some { d with stage } else s.inFlight[i]? := by
    intro i
    rw [Std.ExtTreeMap.getElem?_insert]
    simp only [compare_eq_iff_eq]
  refine ⟨inv.interval, inv.ratio, inv.explained, inv.ordered, inv.old, inv.abandoned_old, ?_, ?_,
    inv.kept⟩
  · intro i d' held
    dsimp only at held
    rw [lookup] at held
    by_cases same : id = i
    · rw [if_pos same] at held
      cases held
      rw [← same]
      exact inv.placed id d flying
    · rw [if_neg same] at held
      exact inv.placed i d' held
  · intro k v member tr made
    rcases inv.accounted k v member tr made with ⟨d', held, key, kept⟩ | done | gone
    · by_cases same : id = v.delivery
      · rw [← same, flying] at held
        cases held
        refine Or.inl ⟨{ d with stage }, ?_, key, kept⟩
        dsimp only
        rw [lookup, if_pos same]
      · refine Or.inl ⟨d', ?_, key, kept⟩
        dsimp only
        rw [lookup, if_neg same]
        exact held
    · exact Or.inr (Or.inl done)
    · exact Or.inr (Or.inr gone)

theorem inFlight_erase (s : Workers) (id i : Nat) :
    (s.inFlight.erase id)[i]? = if id = i then none else s.inFlight[i]? := by
  rw [Std.ExtTreeMap.getElem?_erase]
  simp only [compare_eq_iff_eq]

/-- Where the other deliveries are accounted for does not change when one returns. -/
theorem Invariant.accounted_other {t : StateTracker} {s next : Workers} (inv : Invariant t s)
    {id : Nat} (flight : next.inFlight = s.inFlight.erase id)
    (published : ∀ p ∈ s.published, p ∈ next.published)
    (abandoned : ∀ a ∈ s.abandoned, a ∈ next.abandoned) {k : String} {v : Survivor}
    (member : v ∈ s.history k) {tr : Transition} (made : v.frame.transition = some tr)
    (own : ∀ d, s.inFlight[id]? = some d → d.undo.key = k → d.transition = tr →
      id = v.delivery → next.Accounted k id tr) : next.Accounted k v.delivery tr := by
  rcases inv.accounted k v member tr made with ⟨d, flying, key, same⟩ | ⟨p, done, rest⟩ | gone
  · by_cases here : id = v.delivery
    · rw [← here] at flying ⊢
      exact own d flying key same here
    · refine Or.inl ⟨d, ?_, key, same⟩
      rw [flight, inFlight_erase, if_neg here]
      exact flying
  · exact Or.inr (Or.inl ⟨p, published p done, rest⟩)
  · exact Or.inr (Or.inr (abandoned _ gone))

theorem Invariant.publish {t : StateTracker} {s : Workers} (inv : Invariant t s) {id : Nat}
    {d : Delivery} (flying : s.inFlight[id]? = some d) : Invariant t (s.publish id d) where
  interval := inv.interval
  ratio := inv.ratio
  explained := inv.explained
  ordered := inv.ordered
  old := inv.old
  abandoned_old := inv.abandoned_old
  placed i d' held := by
    unfold Workers.publish at held
    dsimp only at held
    rw [inFlight_erase] at held
    split at held
    next => cases held
    next => exact inv.placed i d' held
  accounted k v member tr made := by
    refine inv.accounted_other (show (s.publish id d).inFlight = s.inFlight.erase id from rfl)
      (fun p => List.mem_cons_of_mem _) (fun a old => old) member made ?_
    intro d' held key same here
    rw [flying] at held
    cases held
    exact Or.inr (Or.inl ⟨(id, d), List.mem_cons_self, rfl, key, same⟩)
  kept := inv.kept

section
variable {t : StateTracker} {s : Workers} {id : Nat} {d : Delivery}

/-- A rollback that takes effect removes the newest evaluation of its channel. -/
theorem withdraw_of_takesEffect (effect : s.takesEffect d.undo = true) :
    s.withdraw id d =
      { s with
        tracker := s.tracker.rollback d.undo
        inFlight := s.inFlight.erase id
        history := Function.update s.history d.undo.key (s.history d.undo.key).tail } :=
  if_pos effect

theorem history_withdraw (effect : s.takesEffect d.undo = true) {v : Survivor}
    {older : List Survivor} (shape : s.history d.undo.key = v :: older) (k : String) :
    (s.withdraw id d).history k = if d.undo.key = k then older else s.history k := by
  rw [withdraw_of_takesEffect effect]
  dsimp only
  by_cases here : d.undo.key = k
  · subst here
    rw [Function.update_self, if_pos rfl, shape, List.tail_cons]
  · rw [Function.update_of_ne (Ne.symm here), if_neg here]

/-- What is left of the channel was evaluated before. -/
theorem Invariant.mem_withdraw (inv : Invariant t s) (effect : s.takesEffect d.undo = true)
    {f : Frame} {older : List Survivor} (shape : s.history d.undo.key = ⟨id, f⟩ :: older)
    {k : String} {v : Survivor} (member : v ∈ (s.withdraw id d).history k) :
    v ∈ s.history k ∧ (d.undo.key = k → v.delivery < id) := by
  rw [history_withdraw effect shape] at member
  by_cases here : d.undo.key = k
  · subst here
    rw [if_pos rfl] at member
    have ordered := inv.ordered d.undo.key
    rw [shape] at ordered ⊢
    exact ⟨List.mem_cons_of_mem _ member, fun _ => List.rel_of_pairwise_cons ordered member⟩
  · rw [if_neg here] at member
    exact ⟨member, fun same => absurd same here⟩

/-- The alarm of another channel is lost after the rollback when it was lost before. -/
theorem lost_of_withdraw_other (effect : s.takesEffect d.undo = true) {v : Survivor}
    {older : List Survivor} (shape : s.history d.undo.key = v :: older) {k : String}
    (other : d.undo.key ≠ k) (lost : (s.withdraw id d).Lost k) : s.Lost k := by
  obtain ⟨open_, raiser, tr, raised, gone⟩ := lost
  rw [history_withdraw effect shape, if_neg other] at raised
  rw [withdraw_of_takesEffect effect] at open_ gone
  rw [anomalous_eq, Std.ExtTreeMap.getD_eq_getD_getElem?, rollback_other s.tracker d.undo other,
    ← Std.ExtTreeMap.getD_eq_getD_getElem?, ← anomalous_eq] at open_
  exact ⟨open_, raiser, tr, raised, gone⟩

/-- The alarm that is open again after the rollback is lost when it was lost before, or was
reopened by taking back its CLEARED. -/
theorem Invariant.lost_of_withdraw (inv : Invariant t s) (effect : s.takesEffect d.undo = true)
    {f : Frame} {older : List Survivor} (shape : s.history d.undo.key = ⟨id, f⟩ :: older)
    (undo : f.undo = d.undo) (transition : f.transition = some d.transition)
    (lost : (s.withdraw id d).Lost d.undo.key) :
    s.Lost d.undo.key ∨ d.transition.kind = .cleared ∧ ∃ raiser tr,
      raisedBy (s.history d.undo.key) = some (raiser, tr) ∧
        (d.undo.key, raiser) ∈ s.abandoned := by
  have explained := inv.explained d.undo.key
  rw [shape, List.map_cons] at explained
  have outcome := (rollback_entry explained).2
  rw [undo, transition] at outcome
  obtain ⟨open_, raiser, tr, raised, gone⟩ := lost
  rw [history_withdraw effect shape, if_pos rfl] at raised
  rw [withdraw_of_takesEffect effect] at open_ gone
  rw [anomalous_eq, Std.ExtTreeMap.getD_eq_getD_getElem?] at open_
  have was : ((s.tracker.rollback d.undo).entries[d.undo.key]?.getD {}).state = .anomalous :=
    of_decide_eq_true open_
  -- The alarm was open before the evaluation, so it is not the one that raised it.
  have not_raised : d.transition.kind ≠ .raised := by
    intro kind
    have opened := outcome.emitted.2.not.mpr (not_not.mpr (Or.inl kind))
    exact opened ⟨fun _ => was, fun _ => by rw [kind]; exact TransitionKind.noConfusion⟩
  have same : raisedBy (s.history d.undo.key) = raisedBy older := by
    rw [shape]
    refine raisedBy_cons_other older fun t' made => ?_
    rw [transition] at made
    cases made
    exact not_raised
  rw [← same] at raised
  by_cases cleared : d.transition.kind = .cleared
  · exact Or.inr ⟨cleared, raiser, tr, raised, gone⟩
  · refine Or.inl ⟨?_, raiser, tr, raised, gone⟩
    rw [anomalous_eq, Std.ExtTreeMap.getD_eq_getD_getElem?]
    exact decide_eq_true (outcome.emitted.1.mpr cleared)

/-- Taking back the newest evaluation of a channel. -/
theorem Invariant.withdraw_taken (inv : Invariant t s) (flying : s.inFlight[id]? = some d)
    (effect : s.takesEffect d.undo = true)
    (sound : d.transition.kind = .cleared → ∀ raiser tr,
      raisedBy (s.history d.undo.key) = some (raiser, tr) →
        (d.undo.key, raiser) ∉ s.abandoned) : Invariant t (s.withdraw id d) := by
  obtain ⟨f, older, shape, undo, transition⟩ := inv.newest flying effect
  have next := @withdraw_of_takesEffect s id d effect
  have histories := @history_withdraw s id d effect _ _ shape
  have settings := rollback_settings s.tracker d.undo
  have explained := inv.explained d.undo.key
  rw [shape, List.map_cons] at explained
  have restored := (rollback_entry explained).1
  rw [undo] at restored
  have tracker : (s.withdraw id d).tracker = s.tracker.rollback d.undo := by rw [next]
  have flight : (s.withdraw id d).inFlight = s.inFlight.erase id := by rw [next]
  have abandoned : (s.withdraw id d).abandoned = s.abandoned := by rw [next]
  have counter : (s.withdraw id d).next = s.next := by rw [next]
  refine ⟨?_, ?_, ?_, ?_, ?_, ?_, ?_, ?_, ?_⟩
  · rw [tracker]
    exact settings.1.trans inv.interval
  · rw [tracker]
    exact settings.2.trans inv.ratio
  · intro k
    rw [tracker, histories]
    by_cases here : d.undo.key = k
    · subst here
      rw [if_pos rfl]
      exact restored
    · rw [if_neg here, rollback_other s.tracker d.undo here]
      exact inv.explained k
  · intro k
    rw [histories]
    by_cases here : d.undo.key = k
    · subst here
      have ordered := inv.ordered d.undo.key
      rw [shape] at ordered
      rw [if_pos rfl]
      exact ordered.of_cons
    · rw [if_neg here]
      exact inv.ordered k
  · intro k v member
    rw [counter]
    exact inv.old k v (inv.mem_withdraw effect shape member).1
  · intro a member
    rw [counter]
    rw [abandoned] at member
    exact inv.abandoned_old a member
  · intro i d' held
    rw [flight, inFlight_erase] at held
    split at held
    next => cases held
    next other =>
      obtain ⟨newer, f', older', shape', same⟩ := inv.placed i d' held
      unfold Placed
      rw [histories]
      by_cases here : d.undo.key = d'.undo.key
      · rw [if_pos here]
        rw [← here, shape] at shape'
        cases newer with
        | nil =>
          cases shape'
          exact absurd rfl other
        | cons v newer =>
          cases shape'
          exact ⟨newer, f', older', rfl, same⟩
      · rw [if_neg here]
        exact ⟨newer, f', older', shape', same⟩
  · intro k v member tr made
    obtain ⟨held, earlier⟩ := inv.mem_withdraw effect shape member
    refine inv.accounted_other flight (fun p old => by rw [next]; exact old)
      (fun a old => by rw [abandoned]; exact old) held made ?_
    intro d' flying' key same here
    rw [flying] at flying'
    cases flying'
    exact absurd (earlier key) (by rw [here]; exact lt_irrefl _)
  · intro k lost
    by_cases here : d.undo.key = k
    · subst here
      obtain before | ⟨cleared, raiser, tr, raised, gone⟩ :=
        inv.lost_of_withdraw effect shape undo transition lost
      · exact inv.kept d.undo.key before
      · exact sound cleared raiser tr raised gone
    · exact inv.kept k (lost_of_withdraw_other effect shape here lost)

end

/-- A skipped rollback leaves the tracker to the evaluations that came later. -/
theorem Invariant.withdraw_skipped {t : StateTracker} {s : Workers} (inv : Invariant t s)
    {id : Nat} {d : Delivery} (flying : s.inFlight[id]? = some d)
    (skipped : s.takesEffect d.undo = false)
    (sound : s.tracker.anomalous d.undo.key = true → ∀ tr,
      raisedBy (s.history d.undo.key) ≠ some (id, tr)) : Invariant t (s.withdraw id d) := by
  have next : s.withdraw id d =
      { s with
        tracker := s.tracker
        inFlight := s.inFlight.erase id
        abandoned := (d.undo.key, id) :: s.abandoned } := by
    unfold withdraw
    rw [if_neg (by rw [skipped]; exact Bool.noConfusion), rollback_skipped skipped]
  have flight : (s.withdraw id d).inFlight = s.inFlight.erase id := by rw [next]
  have abandoned : (s.withdraw id d).abandoned = (d.undo.key, id) :: s.abandoned := by rw [next]
  have placed : ∀ (i : Nat) d', (s.withdraw id d).inFlight[i]? = some d' →
      (s.withdraw id d).Placed i d' := by
    intro i d' held
    rw [flight, inFlight_erase] at held
    unfold Placed
    rw [next]
    split at held
    next => cases held
    next => exact inv.placed i d' held
  have accounted : ∀ k, ∀ v ∈ s.history k, ∀ tr, v.frame.transition = some tr →
      (s.withdraw id d).Accounted k v.delivery tr := by
    intro k v member tr made
    refine inv.accounted_other flight (fun p old => by rw [next]; exact old)
      (fun a old => by rw [abandoned]; exact List.mem_cons_of_mem _ old) member made ?_
    intro d' held key same here
    rw [flying] at held
    cases held
    subst key
    exact Or.inr (Or.inr (by rw [abandoned]; exact List.mem_cons_self))
  rw [next] at placed accounted ⊢
  refine ⟨inv.interval, inv.ratio, inv.explained, inv.ordered, inv.old, ?_, placed, accounted, ?_⟩
  · intro a member
    rcases List.mem_cons.mp member with rfl | old
    · exact inv.flying_old flying
    · exact inv.abandoned_old a old
  · rintro k ⟨open_, raiser, tr, raised, gone⟩
    rcases List.mem_cons.mp gone with new | old
    · cases new
      exact sound open_ tr raised
    · exact inv.kept k ⟨open_, raiser, tr, raised, old⟩

theorem Invariant.step {t : StateTracker} {rules : RuleEngine} {s next : Workers} {event : Step}
    (inv : Invariant t s) (keeps : s.Keeps event) (stepped : s.step rules event = some next) :
    Invariant t next := by
  cases event with
  | deliver ev now =>
    simp only [Workers.step] at stepped
    cases verdict : rules.evaluate ev with
    | none =>
      rw [verdict] at stepped
      cases stepped
      exact inv
    | some eval =>
      rw [verdict] at stepped
      cases stepped
      exact inv.deliver ev (RuleEngine.evaluate_judged verdict) now
  | mark id ok eventID now =>
    simp only [Workers.step] at stepped
    cases flying : s.inFlight[id]? with
    | none =>
      rw [flying] at stepped
      cases stepped
    | some d =>
      rw [flying] at stepped
      dsimp only at stepped
      split at stepped
      next => cases stepped
      next =>
        split at stepped
        next =>
          cases stepped
          exact inv.restage flying _ .marked
        next =>
          cases stepped
          exact inv.restage flying s.cache .failed
  | emit id ok =>
    simp only [Workers.step] at stepped
    cases flying : s.inFlight[id]? with
    | none =>
      rw [flying] at stepped
      cases stepped
    | some d =>
      rw [flying] at stepped
      dsimp only at stepped
      split at stepped
      next => cases stepped
      next =>
        split at stepped
        next =>
          cases stepped
          exact inv.publish flying
        next =>
          cases stepped
          exact inv.restage flying s.cache .failed
  | rollback id =>
    simp only [Workers.step] at stepped
    cases flying : s.inFlight[id]? with
    | none =>
      rw [flying] at stepped
      cases stepped
    | some d =>
      rw [flying] at stepped
      dsimp only at stepped
      split at stepped
      next => cases stepped
      next =>
        cases stepped
        obtain ⟨skips, takes⟩ := keeps d flying
        cases effect : s.takesEffect d.undo with
        | false => exact inv.withdraw_skipped flying effect (skips effect)
        | true => exact inv.withdraw_taken flying effect (takes effect)

theorem Invariant.run {t : StateTracker} {rules : RuleEngine} (events : List Step) {s final : Workers}
    (inv : Invariant t s) (keeps : KeepsAll rules s events)
    (ran : run (Workers.step rules) s events = some final) : Invariant t final := by
  induction events generalizing s with
  | nil =>
    cases ran
    exact inv
  | cons event rest ih =>
    rw [run_cons] at ran
    obtain ⟨next, stepped, ran⟩ := Option.bind_eq_some_iff.mp ran
    exact ih (inv.step keeps.1 stepped) (keeps.2 next stepped) ran

/-- An alarm no delivery of which is in flight was announced, or given up. -/
theorem Invariant.announced {t : StateTracker} {s : Workers} (inv : Invariant t s) {key : String}
    (idle : ∀ (id : Nat) d, s.inFlight[id]? = some d → d.undo.key ≠ key)
    (alarm : s.tracker.anomalous key = true) : s.Announced key := by
  have facts := (inv.explained key).facts
  cases held : s.tracker.entries[key]? with
  | none =>
    unfold StateTracker.anomalous at alarm
    rw [held] at alarm
    cases alarm
  | some st =>
    rw [held] at facts
    unfold StateTracker.anomalous at alarm
    rw [held] at alarm
    obtain ⟨-, ⟨r, found, since⟩, -⟩ := facts.alarmed (of_decide_eq_true alarm)
    rw [raisedBy_frames] at found
    obtain ⟨⟨id, tr⟩, raised, same⟩ := Option.map_eq_some_iff.mp found
    cases same
    obtain ⟨v, member, rfl, made, kind⟩ := mem_of_raisedBy raised
    rcases inv.accounted key v member _ made with ⟨d, flying, here, -⟩ | done | gone
    · exact absurd here (idle v.delivery d flying)
    · obtain ⟨p, published, delivery, here, transition⟩ := done
      refine ⟨st, held, p, published, here, ?_, ?_, ?_⟩
      · rw [raised, delivery, transition]
      · rw [transition]
        exact kind
      · rw [transition]
        exact since
    · refine absurd ⟨?_, v.delivery, _, raised, gone⟩ (inv.kept key)
      unfold StateTracker.anomalous
      rw [held]
      exact alarm

/-- In every interleaving whose steps keep their alarms, a channel that is in alarm with
no delivery of its own in flight has published the RAISED of its episode. -/
theorem no_alarm_lost {cfg : RuleConfig} {events : List Step} {s : Workers}
    (ran : Library.run (Workers.step (newRuleEngine cfg)) (start cfg) events = some s)
    (keeps : KeepsAll (newRuleEngine cfg) (start cfg) events) {key : String}
    (idle : ∀ (id : Nat) d, s.inFlight[id]? = some d → d.undo.key ≠ key)
    (alarm : s.tracker.anomalous key = true) : s.Announced key :=
  ((invariant_start cfg).run events keeps ran).announced idle alarm

/-- A step that does not keep its alarm loses it: the channel stays in alarm, and the
delivery that raised it has given up. -/
theorem Invariant.lost_of_breaks {t : StateTracker} {s : Workers} (inv : Invariant t s) {id : Nat}
    {d : Delivery} (flying : s.inFlight[id]? = some d) (breaks : ¬s.Keeps (.rollback id)) :
    (s.withdraw id d).Lost d.undo.key := by
  by_contra kept
  refine breaks fun d' held => ?_
  rw [flying] at held
  cases held
  constructor
  · intro skipped open_ tr raised
    refine kept ?_
    unfold withdraw
    rw [if_neg (by rw [skipped]; exact Bool.noConfusion), rollback_skipped skipped]
    exact ⟨open_, id, tr, raised, List.mem_cons_self⟩
  · intro effect cleared raiser tr raised gone
    obtain ⟨f, older, shape, undo, transition⟩ := inv.newest flying effect
    have explained := inv.explained d.undo.key
    rw [shape, List.map_cons] at explained
    obtain ⟨-, outcome⟩ := rollback_entry explained
    rw [undo, transition] at outcome
    have same : raisedBy (s.history d.undo.key) = raisedBy older := by
      rw [shape]
      refine raisedBy_cons_other older fun t' made => ?_
      rw [transition] at made
      cases made
      rw [cleared]
      exact TransitionKind.noConfusion
    have was : ((s.tracker.rollback d.undo).entries[d.undo.key]?.getD {}).state = .anomalous := by
      by_contra calm
      have flipped := outcome.emitted.2.not.mpr (not_not.mpr (Or.inr cleared))
      exact flipped ⟨fun standing => absurd cleared standing, fun opened => absurd opened calm⟩
    refine kept ?_
    unfold withdraw
    rw [if_pos effect]
    refine ⟨?_, raiser, tr, ?_, gone⟩
    · rw [anomalous_eq, Std.ExtTreeMap.getD_eq_getD_getElem?]
      exact decide_eq_true was
    · dsimp only
      rw [Function.update_self, shape, List.tail_cons, ← same]
      exact raised

/-! ## One run that loses its alarm, and one that does not -/

/-- A delivery raises the alarm, its redelivered twin is absorbed, and then the emission
of the first one fails: its rollback is skipped. -/
def losing : List Step :=
  [.deliver (vibration 9 1) 1, .deliver (vibration 9 2) 2, .mark 0 true "evt_1" 3, .emit 0 false,
    .rollback 0]

theorem losing_not_announced :
    ∃ s, Library.run (Workers.step (newRuleEngine defaultHysteresis)) (start defaultHysteresis)
        losing = some s ∧
      s.inFlight = ∅ ∧ s.tracker.anomalous (vibration 9 1).cacheKey = true ∧
      ¬s.Announced (vibration 9 1).cacheKey := by
  have outcome : (Library.run (Workers.step (newRuleEngine defaultHysteresis))
      (start defaultHysteresis) losing).map (fun s => (s.inFlight.isEmpty,
        s.tracker.anomalous (vibration 9 1).cacheKey, s.published.isEmpty)) =
      some (true, true, true) := by decide +kernel
  obtain ⟨s, ran, shape⟩ := Option.map_eq_some_iff.mp outcome
  simp only [Prod.mk.injEq] at shape
  refine ⟨s, ran, Std.ExtTreeMap.isEmpty_iff.mp shape.1, shape.2.1, ?_⟩
  rintro ⟨st, -, p, published, -⟩
  rw [List.isEmpty_iff.mp shape.2.2] at published
  cases published

/-- The same alarm, published by its own delivery. -/
def announcing : List Step :=
  [.deliver (vibration 9 1) 1, .deliver (vibration 9 2) 2, .mark 0 true "evt_1" 3, .emit 0 true]

theorem no_alarm_lost_announcing :
    ∃ s, Library.run (Workers.step (newRuleEngine defaultHysteresis)) (start defaultHysteresis)
        announcing = some s ∧ s.Announced (vibration 9 1).cacheKey := by
  have outcome : (Library.run (Workers.step (newRuleEngine defaultHysteresis))
      (start defaultHysteresis) announcing).map (fun s => (s.inFlight.isEmpty,
        s.tracker.anomalous (vibration 9 1).cacheKey)) = some (true, true) := by decide +kernel
  obtain ⟨s, ran, shape⟩ := Option.map_eq_some_iff.mp outcome
  simp only [Prod.mk.injEq] at shape
  have keeps : KeepsAll (newRuleEngine defaultHysteresis) (start defaultHysteresis) announcing :=
    ⟨trivial, fun _ _ => ⟨trivial, fun _ _ => ⟨trivial, fun _ _ => ⟨trivial, fun _ _ => trivial⟩⟩⟩⟩
  refine ⟨s, ran, no_alarm_lost ran keeps (fun id d flying => ?_) shape.2⟩
  rw [Std.ExtTreeMap.isEmpty_iff.mp shape.1, Std.ExtTreeMap.getElem?_empty] at flying
  cases flying

end Workers
end OpenOntology.Resolution
