import OpenOntology.Resolution.Process

/-!
# Redelivery

A message is delivered again whenever its commit fails. The twin keeps the newest
reading of each channel and the tracker absorbs a reading it has already taken, so a
message whose delivery completed can come back at any time without moving an alarm.
-/
namespace OpenOntology.Resolution

open Crdt Replica

/-- A delivery, with the calls that took effect although they reported an error. -/
structure Attempt where
  replies : Replies
  twinWritten : Bool := false
  mutationSent : Bool := false

/-- A message arrives, or the janitor evicts idle channels. -/
inductive Happening where
  | delivered (a : Attempt) (msg : Option TelemetryEvent)
  | pruned (now : Time) (idle : Duration)

/-- The millisecond of the reading the twin of a channel holds. -/
def StateCache.observedAt (c : StateCache) (key : String) : Option Int :=
  c.twins[key]?.map Twin.observedAtMs

/-- The reading cannot move the channel over an alarm edge. -/
def SensorState.Settled (st : SensorState) (clearAt : Float) (eval : RuleEvaluation) : Prop :=
  if eval.breached then st.state = .anomalous ∧ eval.severity.rank ≤ st.severity.rank
  else st.state = .anomalous → eval.observed > clearAt

namespace Engine
variable (toLower : Char → Char) (table : CaseTable)

/-- `process`, with the effects of the calls that failed only for the caller. -/
def deliver (e : Engine) (a : Attempt) (msg : Option TelemetryEvent) : Engine × Option String :=
  let done := e.process toLower table a.replies msg
  match validated toLower msg with
  | none => done
  | some ev =>
    if a.replies.admission ≠ .admitted then done
    else if a.replies.apply = false then
      if a.twinWritten then
        ({ done.1 with cache := (done.1.cache.apply ev a.replies.ingestedAt).1 }, done.2)
      else done
    else if a.replies.emit = false ∧ a.mutationSent then
      let sent := e.process toLower table { a.replies with emit := true } msg
      ({ done.1 with mutations := sent.1.mutations }, done.2)
    else done

def happen (e : Engine) : Happening → Engine
  | .delivered a msg => (e.deliver toLower table a msg).1
  | .pruned now idle => { e with tracker := e.tracker.prune now idle }

def history (e : Engine) (happenings : List Happening) : Engine :=
  happenings.foldl (happen toLower table) e

/-- The valid readings that arrive. -/
def readings (toLower : Char → Char) (happenings : List Happening) : List TelemetryEvent :=
  happenings.filterMap fun
    | .delivered _ msg => validated toLower msg
    | .pruned .. => none

def OnePerMillisecond (events : List TelemetryEvent) : Prop :=
  ∀ a ∈ events, ∀ b ∈ events, a.assetID = b.assetID → a.sensorID = b.sensorID →
    unixMilli a.timestamp = unixMilli b.timestamp → a.value = b.value

/-- The delivery evaluates its event to the end: it is found stale or ungoverned, is
absorbed, or its mutation is published. -/
structure Completes (toLower : Char → Char) (table : CaseTable) (e : Engine) (a : Attempt)
    (msg : Option TelemetryEvent) (ev : TelemetryEvent) : Prop where
  carried : validated toLower msg = some ev
  admitted : a.replies.admission = .admitted
  succeeded : (e.deliver toLower table a msg).2 = none

/-- Nothing but repeats is published, and every channel keeps its state and severity. -/
structure NoEdge (before after : Engine) : Prop where
  repeats : ∃ sent, after.mutations = sent ++ before.mutations ∧
    ∀ p ∈ sent, p.transition ≠ .raised ∧ p.transition ≠ .escalated ∧ p.transition ≠ .cleared
  state : ∀ key, (after.tracker.entries.getD key {}).state =
    (before.tracker.entries.getD key {}).state
  severity : ∀ key, (after.tracker.entries.getD key {}).severity =
    (before.tracker.entries.getD key {}).severity

/-- The mutation carries the transition that evaluating the event makes. -/
def Proposes (e : Engine) (r : Replies) (ev : TelemetryEvent) (p : EnrichedContextPayload) : Prop :=
  (e.cache.apply ev r.ingestedAt).2.fresh = true ∧
    ∃ eval t, e.rules.evaluate ev = some eval ∧
      (e.tracker.evaluate ev.cacheKey eval r.now).2.1 = some t ∧ p.transition = t.kind

/-- The ways an admitted delivery can come out, by the twins and the tracker it leaves. -/
inductive Comes (e : Engine) (r : Replies) (ev : TelemetryEvent) :
    Std.ExtTreeMap String Twin → StateTracker → Option String → Prop where
  | unapplied (twins : Std.ExtTreeMap String Twin) (err : String) (failed : r.apply = false)
      (either : twins = e.cache.twins ∨ twins = (e.cache.apply ev r.ingestedAt).1.twins) :
      Comes e r ev twins e.tracker (some err)
  | passed (idle : (e.cache.apply ev r.ingestedAt).2.fresh = false ∨ e.rules.evaluate ev = none) :
      Comes e r ev (e.cache.apply ev r.ingestedAt).1.twins e.tracker none
  | evaluated (eval : RuleEvaluation) (fresh : (e.cache.apply ev r.ingestedAt).2.fresh = true)
      (verdict : e.rules.evaluate ev = some eval) :
      Comes e r ev (e.cache.apply ev r.ingestedAt).1.twins
        (e.tracker.evaluate ev.cacheKey eval r.now).1 none
  | withdrawn (err : String) :
      Comes e r ev (e.cache.apply ev r.ingestedAt).1.twins e.tracker (some err)

end Engine

/-! ## The twin -/

theorem markAlarm_twins (c : StateCache) (ev : TelemetryEvent) (t : Transition)
    (eventID : String) (now : Time) : (c.markAlarm ev t eventID now).twins = c.twins := by
  unfold StateCache.markAlarm
  split <;> rfl

/-- The twin keeps the later of its reading and the one that arrives. -/
theorem apply_observedAt (c : StateCache) (ev : TelemetryEvent) (now : Time) (key : String) :
    (c.apply ev now).1.observedAt key =
      if ev.cacheKey = key then
        some ((c.observedAt key).elim (unixMilli ev.timestamp) (max (unixMilli ev.timestamp)))
      else c.observedAt key := by
  have inserted : ∀ twin : Twin, (c.twins.insert ev.cacheKey twin)[key]? =
      if ev.cacheKey = key then some twin else c.twins[key]? := by
    intro twin
    rw [Std.ExtTreeMap.getElem?_insert]
    simp only [compare_eq_iff_eq]
  unfold StateCache.apply StateCache.observedAt
  dsimp only
  by_cases own : ev.cacheKey = key
  · subst own
    rw [if_pos rfl]
    split
    next absent => simp [absent]
    next held present =>
      split
      next newer => simp [present, max_eq_right (Int.le_of_lt newer)]
      next not_newer =>
        split
        next same => simp [present, same]
        next differs =>
          have older : held.observedAtMs ≤ unixMilli ev.timestamp := Int.not_lt.mp not_newer
          simp [present, max_eq_left older]
  · rw [if_neg own]
    have kept : ∀ twin : Twin, (c.twins.insert ev.cacheKey twin)[key]? = c.twins[key]? := by
      intro twin
      rw [inserted twin, if_neg own]
    split
    next => rw [kept]
    next =>
      split
      next => rfl
      next =>
        split
        next => rfl
        next => rw [kept]

/-- A reading is refused as stale exactly when the twin holds a later one. -/
theorem apply_stale_iff (c : StateCache) (ev : TelemetryEvent) (now : Time) :
    (c.apply ev now).2.fresh = false ↔
      ∃ held, c.observedAt ev.cacheKey = some held ∧ unixMilli ev.timestamp < held := by
  unfold StateCache.apply StateCache.observedAt
  dsimp only
  split
  next absent => simp [absent, ApplyOutcome.fresh]
  next held present =>
    split
    next newer => simpa [present, ApplyOutcome.fresh] using newer
    next not_newer =>
      split
      next same => simp [present, same, ApplyOutcome.fresh]
      next differs => simpa [present, ApplyOutcome.fresh] using not_newer

/-! ## Settled channels -/

/-- Whatever an evaluation does, it settles its channel for the reading it took. -/
theorem Outcome.settled {t : StateTracker} {st next : SensorState} {eval : RuleEvaluation}
    {now : Time} {transition : Option Transition}
    (outcome : Outcome t st eval now next transition) : next.Settled (t.clearAt eval) eval := by
  unfold SensorState.Settled
  cases outcome with
  | raised severity breached was high_water =>
    have kept : eval.severity.rank ≤ severity.rank := by omega
    simp [breached, kept]
  | escalated breached was worse => simp [breached]
  | sustained breached was no_worse => simp [breached, no_worse]
  | repeated breached was no_worse => simp [breached, no_worse]
  | quiet calm was => simp [calm]
  | held calm was above => simp [calm, above]
  | cleared calm was not_above => simp [calm]

/-- In a settled channel an evaluation is a repeat or is absorbed. -/
theorem Outcome.of_settled {t : StateTracker} {st next : SensorState} {eval : RuleEvaluation}
    {now : Time} {transition : Option Transition}
    (outcome : Outcome t st eval now next transition) (settled : st.Settled (t.clearAt eval) eval) :
    (∀ tr, transition = some tr → tr.kind = .sustained) ∧ next.state = st.state ∧
      next.severity = st.severity := by
  unfold SensorState.Settled at settled
  cases outcome with
  | raised severity breached was => simp [breached, was] at settled
  | escalated breached was worse =>
    rw [if_pos breached] at settled
    exact absurd settled.2 (Nat.not_le_of_gt worse)
  | sustained breached was => simp [was]
  | repeated breached was => simp [was]
  | quiet calm was => simp [was]
  | held calm was => simp [was]
  | cleared calm was not_above =>
    rw [if_neg (by simp [calm])] at settled
    exact absurd (settled was) not_above

/-! ## One delivery -/

namespace Engine

theorem handle_comes (table : CaseTable) (e : Engine) (r : Replies) (ev : TelemetryEvent) :
    e.Comes r ev (e.handle table r ev).1.cache.twins (e.handle table r ev).1.tracker
      (e.handle table r ev).2 := by
  have course := handle_course table e r ev
  generalize e.handle table r ev = done at course ⊢
  cases course with
  | unapplied failed => exact .unapplied _ _ failed (Or.inl rfl)
  | stale _ stale => exact .passed (Or.inl stale)
  | ungoverned _ _ verdict => exact .passed (Or.inr verdict)
  | absorbed _ fresh eval verdict => exact .evaluated eval fresh verdict
  | unmarked => exact .withdrawn _
  | unsent =>
    rw [markAlarm_twins]
    exact .withdrawn _
  | published _ fresh eval t verdict =>
    rw [markAlarm_twins]
    exact .evaluated eval fresh verdict

theorem handle_sends (table : CaseTable) (e : Engine) (r : Replies) (ev : TelemetryEvent) :
    ∃ sent, (e.handle table r ev).1.mutations = sent ++ e.mutations ∧
      ∀ p ∈ sent, e.Proposes r ev p := by
  have silent : ∀ p ∈ ([] : List EnrichedContextPayload), e.Proposes r ev p := by simp
  have course := handle_course table e r ev
  generalize e.handle table r ev = done at course ⊢
  cases course with
  | published _ fresh eval t verdict emits =>
    refine ⟨[(e.buildPayload table r ev eval t).1], rfl, ?_⟩
    simp only [List.mem_singleton, forall_eq]
    exact ⟨fresh, eval, t, verdict, emits, rfl⟩
  | unapplied => exact ⟨[], rfl, silent⟩
  | stale => exact ⟨[], rfl, silent⟩
  | ungoverned => exact ⟨[], rfl, silent⟩
  | absorbed => exact ⟨[], rfl, silent⟩
  | unmarked => exact ⟨[], rfl, silent⟩
  | unsent => exact ⟨[], rfl, silent⟩

theorem handle_rules (table : CaseTable) (e : Engine) (r : Replies) (ev : TelemetryEvent) :
    (e.handle table r ev).1.rules = e.rules := by
  have course := handle_course table e r ev
  generalize e.handle table r ev = done at course ⊢
  cases course <;> rfl

section
variable (toLower : Char → Char) (table : CaseTable)

theorem process_handles (e : Engine) (r : Replies) {msg : Option TelemetryEvent}
    {ev : TelemetryEvent} (carried : validated toLower msg = some ev)
    (admitted : r.admission = .admitted) : e.process toLower table r msg = e.handle table r ev := by
  rcases process_cases toLower table e r msg with ⟨-, -, refused⟩ | ⟨ev', carried', -, handled⟩
  · exact absurd admitted (refused ev carried)
  · rw [carried] at carried'
    cases carried'
    exact handled

/-- A message that is refused before its evaluation only adds to the dead letters. -/
theorem process_refused (e : Engine) (r : Replies) {msg : Option TelemetryEvent}
    (refused : ∀ ev, validated toLower msg = some ev → r.admission ≠ .admitted) :
    ∃ reasons, (e.process toLower table r msg).1 =
      { e with deadLetters := reasons ++ e.deadLetters } := by
  cases msg with
  | none => exact ⟨["decode_failed"], rfl⟩
  | some raw =>
    unfold process
    dsimp only
    cases valid : (raw.normalize toLower).validate with
    | false => exact ⟨["validation_failed"], rfl⟩
    | true =>
      rw [if_neg Bool.noConfusion]
      have carried : validated toLower (some raw) = some (raw.normalize toLower) :=
        Option.filter_eq_some_iff.mpr ⟨rfl, valid⟩
      cases admission : r.admission with
      | invalidInput => exact ⟨["idempotency_input_invalid"], rfl⟩
      | unavailable => exact ⟨[], rfl⟩
      | duplicate => exact ⟨[], rfl⟩
      | admitted => exact absurd admission (refused _ carried)

theorem deliver_refused (e : Engine) (a : Attempt) {msg : Option TelemetryEvent}
    (refused : ∀ ev, validated toLower msg = some ev → a.replies.admission ≠ .admitted) :
    ∃ reasons, (e.deliver toLower table a msg).1 =
      { e with deadLetters := reasons ++ e.deadLetters } := by
  have ignored := process_refused toLower table e a.replies refused
  unfold deliver
  dsimp only
  cases carried : validated toLower msg with
  | none => exact ignored
  | some ev =>
    dsimp only
    rw [if_pos (refused ev carried)]
    exact ignored

variable {toLower}

/-- What an admitted delivery adds to `handle`: nothing, a twin that was written after
all, or a mutation that was sent after all. -/
inductive Delivers (e : Engine) (a : Attempt) (ev : TelemetryEvent) :
    Engine × Option String → Prop where
  | handled (plain : a.replies.apply = true → ¬(a.replies.emit = false ∧ a.mutationSent = true)) :
      Delivers e a ev (e.handle table a.replies ev)
  | written (failed : a.replies.apply = false) :
      Delivers e a ev
        ({ e with cache := (e.cache.apply ev a.replies.ingestedAt).1 }, some "cache apply")
  | sent (unanswered : a.replies.emit = false) (reached : a.mutationSent = true) :
      Delivers e a ev
        ({ (e.handle table a.replies ev).1 with
            mutations := (e.handle table { a.replies with emit := true } ev).1.mutations },
          (e.handle table a.replies ev).2)

theorem deliver_delivers (e : Engine) (a : Attempt) {msg : Option TelemetryEvent}
    {ev : TelemetryEvent} (carried : validated toLower msg = some ev)
    (admitted : a.replies.admission = .admitted) :
    Delivers table e a ev (e.deliver toLower table a msg) := by
  unfold deliver
  simp only [carried, process_handles toLower table e a.replies carried admitted]
  rw [if_neg (not_not.mpr admitted)]
  split
  next failed =>
    have handled : e.handle table a.replies ev = (e, some "cache apply") := by
      unfold handle
      rw [if_pos failed]
    split
    next =>
      rw [handled]
      exact .written failed
    next =>
      refine .handled fun applied => ?_
      rw [failed] at applied
      cases applied
  next =>
    split
    next ambiguous =>
      -- the same delivery with its write answered
      rw [process_handles toLower table e { a.replies with emit := true } carried admitted]
      exact .sent ambiguous.1 ambiguous.2
    next answered => exact .handled fun _ => answered

theorem deliver_comes (e : Engine) (a : Attempt) {msg : Option TelemetryEvent}
    {ev : TelemetryEvent} (carried : validated toLower msg = some ev)
    (admitted : a.replies.admission = .admitted) :
    e.Comes a.replies ev (e.deliver toLower table a msg).1.cache.twins
      (e.deliver toLower table a msg).1.tracker (e.deliver toLower table a msg).2 := by
  have comes := handle_comes table e a.replies ev
  have delivers := deliver_delivers table e a carried admitted
  generalize e.deliver toLower table a msg = done at delivers ⊢
  cases delivers with
  | handled => exact comes
  | written failed => exact .unapplied _ _ failed (Or.inr rfl)
  | sent => exact comes

theorem deliver_sends (e : Engine) (a : Attempt) {msg : Option TelemetryEvent}
    {ev : TelemetryEvent} (carried : validated toLower msg = some ev)
    (admitted : a.replies.admission = .admitted) :
    ∃ sent, (e.deliver toLower table a msg).1.mutations = sent ++ e.mutations ∧
      ∀ p ∈ sent, e.Proposes a.replies ev p := by
  have delivers := deliver_delivers table e a carried admitted
  generalize e.deliver toLower table a msg = done at delivers ⊢
  cases delivers with
  | handled => exact handle_sends table e a.replies ev
  | written => exact ⟨[], rfl, by simp⟩
  | sent => exact handle_sends table e { a.replies with emit := true } ev

theorem deliver_rules (e : Engine) (a : Attempt) {msg : Option TelemetryEvent}
    {ev : TelemetryEvent} (carried : validated toLower msg = some ev)
    (admitted : a.replies.admission = .admitted) :
    (e.deliver toLower table a msg).1.rules = e.rules := by
  have delivers := deliver_delivers table e a carried admitted
  generalize e.deliver toLower table a msg = done at delivers ⊢
  cases delivers with
  | handled => exact handle_rules table e a.replies ev
  | written => rfl
  | sent => exact handle_rules table e a.replies ev

end

/-! ## A reading that is past -/

/-- The twin holds the reading or a later one, and while it holds the reading itself the
channel is settled for it. -/
def Past (e : Engine) (ev : TelemetryEvent) : Prop :=
  ∃ held, e.cache.observedAt ev.cacheKey = some held ∧ unixMilli ev.timestamp ≤ held ∧
    (unixMilli ev.timestamp = held → ∀ eval, e.rules.evaluate ev = some eval →
      (e.tracker.entries.getD ev.cacheKey {}).Settled (e.tracker.clearAt eval) eval)

/-- The other event is the same reading when it bears the channel and the millisecond. -/
def SameReading (rules : RuleEngine) (ev other : TelemetryEvent) : Prop :=
  other.cacheKey = ev.cacheKey → unixMilli other.timestamp = unixMilli ev.timestamp →
    rules.evaluate other = rules.evaluate ev

theorem evaluate_entry (t : StateTracker) (key : String) (eval : RuleEvaluation) (now : Time)
    (k : String) : (t.evaluate key eval now).1.entries.getD k {} =
      if key = k then (t.advance (t.entries.getD key {}) eval now).1 else t.entries.getD k {} := by
  unfold StateTracker.evaluate
  dsimp only
  rw [Std.ExtTreeMap.getD_insert]
  simp only [compare_eq_iff_eq]

theorem evaluate_settled (t : StateTracker) (key : String) (eval : RuleEvaluation) (now : Time) :
    ((t.evaluate key eval now).1.entries.getD key {}).Settled
      ((t.evaluate key eval now).1.clearAt eval) eval := by
  rw [evaluate_entry, if_pos rfl]
  exact (advance_outcome t (t.entries.getD key {}) eval now).settled

section
variable {e after : Engine} {r : Replies} {ev other : TelemetryEvent}
  {twins : Std.ExtTreeMap String Twin} {tracker : StateTracker} {err : Option String}

theorem observedAt_congr {c c' : StateCache} (same : c.twins = c'.twins) (key : String) :
    c.observedAt key = c'.observedAt key := by
  unfold StateCache.observedAt
  rw [same]

/-- A fresh reading is the one its twin holds from then on. -/
theorem observedAt_of_fresh (c : StateCache) (ev : TelemetryEvent) (now : Time)
    (fresh : (c.apply ev now).2.fresh = true) :
    (c.apply ev now).1.observedAt ev.cacheKey = some (unixMilli ev.timestamp) := by
  rw [apply_observedAt, if_pos rfl]
  cases holds : c.observedAt ev.cacheKey with
  | none => rfl
  | some held =>
    have not_later : ¬unixMilli ev.timestamp < held := by
      intro later
      rw [(apply_stale_iff c ev now).mpr ⟨held, holds, later⟩] at fresh
      cases fresh
    exact congrArg some (max_eq_left (Int.not_lt.mp not_later))

/-- The twins only move on, so a past reading stays past while its channel is not
evaluated. -/
theorem Past.moved (past : e.Past ev) (rules : after.rules = e.rules)
    (tracker : after.tracker.clearAt = e.tracker.clearAt)
    (entry : after.tracker.entries.getD ev.cacheKey {} = e.tracker.entries.getD ev.cacheKey {})
    (moved : ∀ held, e.cache.observedAt ev.cacheKey = some held →
      ∃ held', after.cache.observedAt ev.cacheKey = some held' ∧ held ≤ held') : after.Past ev := by
  obtain ⟨held, holds, reached, settled⟩ := past
  obtain ⟨held', holds', later⟩ := moved held holds
  refine ⟨held', holds', le_trans reached later, ?_⟩
  intro same eval verdict
  rw [rules] at verdict
  rw [entry, tracker]
  exact settled (le_antisymm reached (same ▸ later)) eval verdict

theorem apply_moves (c : StateCache) (other : TelemetryEvent) (now : Time) {key : String}
    {held : Int} (holds : c.observedAt key = some held) :
    ∃ held', (c.apply other now).1.observedAt key = some held' ∧ held ≤ held' := by
  rw [apply_observedAt, holds]
  split
  next => exact ⟨_, rfl, le_max_right _ _⟩
  next => exact ⟨held, rfl, le_rfl⟩

/-- After the evaluation of a reading, it and every earlier one are past. -/
theorem Past.of_evaluated {eval : RuleEvaluation}
    (fresh : (e.cache.apply other r.ingestedAt).2.fresh = true)
    (verdict : e.rules.evaluate other = some eval) (own : other.cacheKey = ev.cacheKey)
    (reached : unixMilli ev.timestamp ≤ unixMilli other.timestamp)
    (same : SameReading e.rules ev other) (rules : after.rules = e.rules)
    (twins : after.cache.twins = (e.cache.apply other r.ingestedAt).1.twins)
    (tracker : after.tracker = (e.tracker.evaluate other.cacheKey eval r.now).1) :
    after.Past ev := by
  refine ⟨unixMilli other.timestamp, ?_, reached, ?_⟩
  · rw [observedAt_congr twins, ← own, observedAt_of_fresh _ _ _ fresh]
  · intro equal eval' verdict'
    rw [rules, ← same own equal.symm, verdict] at verdict'
    cases verdict'
    rw [tracker, ← own]
    exact evaluate_settled e.tracker other.cacheKey eval r.now

/-- No delivery brings a past reading back. -/
theorem Comes.keeps_past (comes : e.Comes r other twins tracker err) (past : e.Past ev)
    (same : SameReading e.rules ev other) (rules : after.rules = e.rules)
    (twins_eq : after.cache.twins = twins) (tracker_eq : after.tracker = tracker) :
    after.Past ev := by
  have applied : after.cache.twins = (e.cache.apply other r.ingestedAt).1.twins →
      ∀ held, e.cache.observedAt ev.cacheKey = some held →
        ∃ held', after.cache.observedAt ev.cacheKey = some held' ∧ held ≤ held' := by
    intro written held holds
    rw [observedAt_congr written]
    exact apply_moves e.cache other r.ingestedAt holds
  cases comes with
  | unapplied twins failure failed either =>
    refine past.moved rules (by rw [tracker_eq]) (by rw [tracker_eq]) ?_
    rcases either with kept | written
    · intro held holds
      rw [observedAt_congr (twins_eq.trans kept)]
      exact ⟨held, holds, le_rfl⟩
    · exact applied (twins_eq.trans written)
  | passed idle =>
    exact past.moved rules (by rw [tracker_eq]) (by rw [tracker_eq]) (applied twins_eq)
  | withdrawn failure =>
    exact past.moved rules (by rw [tracker_eq]) (by rw [tracker_eq]) (applied twins_eq)
  | evaluated eval fresh verdict =>
    by_cases own : other.cacheKey = ev.cacheKey
    · obtain ⟨held, holds, reached, -⟩ := past
      obtain ⟨held', holds', later⟩ := applied twins_eq held holds
      rw [observedAt_congr twins_eq, ← own, observedAt_of_fresh _ _ _ fresh] at holds'
      cases holds'
      exact Past.of_evaluated fresh verdict own (le_trans reached later) same rules twins_eq
        tracker_eq
    · refine past.moved rules (by rw [tracker_eq]; rfl) ?_ (applied twins_eq)
      rw [tracker_eq, evaluate_entry, if_neg own]

/-- A delivery that completes leaves its reading past. -/
theorem Comes.completes (comes : e.Comes r ev twins tracker none) (rules : after.rules = e.rules)
    (twins_eq : after.cache.twins = twins) (tracker_eq : after.tracker = tracker) :
    after.Past ev := by
  cases comes with
  | passed idle =>
    have applied := apply_observedAt e.cache ev r.ingestedAt ev.cacheKey
    rw [if_pos rfl, ← observedAt_congr twins_eq] at applied
    rcases idle with stale | ungoverned
    · obtain ⟨held, holds, later⟩ := (apply_stale_iff e.cache ev r.ingestedAt).mp stale
      rw [holds] at applied
      refine ⟨held, ?_, le_of_lt later, fun same => absurd same (ne_of_lt later)⟩
      rw [applied]
      exact congrArg some (max_eq_right (le_of_lt later))
    · refine ⟨_, applied, ?_, ?_⟩
      · cases e.cache.observedAt ev.cacheKey with
        | none => exact le_rfl
        | some held => exact le_max_left _ _
      · intro _ eval verdict
        rw [rules, ungoverned] at verdict
        cases verdict
  | evaluated eval fresh verdict =>
    exact Past.of_evaluated fresh verdict rfl le_rfl (fun _ _ => rfl) rules twins_eq tracker_eq

theorem Past.settled_of_fresh (past : e.Past ev)
    (fresh : (e.cache.apply ev r.ingestedAt).2.fresh = true) {eval : RuleEvaluation}
    (verdict : e.rules.evaluate ev = some eval) :
    (e.tracker.entries.getD ev.cacheKey {}).Settled (e.tracker.clearAt eval) eval := by
  obtain ⟨held, holds, reached, settled⟩ := past
  have not_later : ¬unixMilli ev.timestamp < held := by
    intro later
    rw [(apply_stale_iff e.cache ev r.ingestedAt).mpr ⟨held, holds, later⟩] at fresh
    cases fresh
  exact settled (le_antisymm reached (Int.not_lt.mp not_later)) eval verdict

/-- Delivering a past reading leaves the state and severity of every channel. -/
theorem Comes.keeps_alarms (comes : e.Comes r ev twins tracker err) (past : e.Past ev)
    (key : String) :
    (tracker.entries.getD key {}).state = (e.tracker.entries.getD key {}).state ∧
      (tracker.entries.getD key {}).severity = (e.tracker.entries.getD key {}).severity := by
  cases comes with
  | unapplied => exact ⟨rfl, rfl⟩
  | passed => exact ⟨rfl, rfl⟩
  | withdrawn => exact ⟨rfl, rfl⟩
  | evaluated eval fresh verdict =>
    rw [evaluate_entry]
    split
    next own =>
      subst own
      have outcome := advance_outcome e.tracker (e.tracker.entries.getD ev.cacheKey {}) eval r.now
      exact (outcome.of_settled (past.settled_of_fresh fresh verdict)).2
    next => exact ⟨rfl, rfl⟩

/-- A mutation that a past reading proposes is a repeat. -/
theorem Proposes.repeats {p : EnrichedContextPayload} (proposes : e.Proposes r ev p)
    (past : e.Past ev) : p.transition = .sustained := by
  obtain ⟨fresh, eval, t, verdict, emits, kind⟩ := proposes
  have outcome := advance_outcome e.tracker (e.tracker.entries.getD ev.cacheKey {}) eval r.now
  rw [kind]
  exact (outcome.of_settled (past.settled_of_fresh fresh verdict)).1 t emits

end

/-! ## Runs -/

section
variable {toLower : Char → Char} {table : CaseTable}

theorem refused_or_admitted (toLower : Char → Char) (a : Attempt) (msg : Option TelemetryEvent) :
    (∀ ev, validated toLower msg = some ev → a.replies.admission ≠ .admitted) ∨
      ∃ ev, validated toLower msg = some ev ∧ a.replies.admission = .admitted := by
  by_cases admitted : a.replies.admission = .admitted
  · cases carried : validated toLower msg with
    | none => exact Or.inl nofun
    | some ev => exact Or.inr ⟨ev, rfl, admitted⟩
  · exact Or.inl fun _ _ => admitted

theorem prune_settled {t : StateTracker} {key : String} {clearAt : Float} {eval : RuleEvaluation}
    (settled : (t.entries.getD key {}).Settled clearAt eval) (now : Time) (idle : Duration) :
    ((t.prune now idle).entries.getD key {}).Settled clearAt eval := by
  unfold StateTracker.prune
  dsimp only
  rw [Std.ExtTreeMap.getD_filter']
  rw [Std.ExtTreeMap.getD_eq_getD_getElem?] at settled
  cases held : t.entries[key]? with
  | none => rwa [held] at settled
  | some st =>
    rw [held, Option.getD_some] at settled
    rw [Option.filter_some]
    split
    next => exact settled
    next evicted =>
      have healthy : st.state = .normal := by
        simp only [Bool.not_eq_true', decide_eq_false_iff_not, not_not] at evicted
        exact evicted.1
      unfold SensorState.Settled at settled ⊢
      cases calm : eval.breached with
      | true => simp [calm, healthy] at settled
      | false => simp

theorem happen_rules (e : Engine) (h : Happening) : (e.happen toLower table h).rules = e.rules := by
  cases h with
  | pruned => rfl
  | delivered a msg =>
    unfold happen
    dsimp only
    rcases refused_or_admitted toLower a msg with refused | ⟨ev, carried, admitted⟩
    · obtain ⟨reasons, same⟩ := deliver_refused toLower table e a refused
      rw [same]
    · exact deliver_rules table e a carried admitted

/-- Nothing that happens brings a past reading back. -/
theorem Past.happen {e : Engine} {ev : TelemetryEvent} (past : e.Past ev) (h : Happening)
    (same : ∀ other ∈ readings toLower [h], SameReading e.rules ev other) :
    (e.happen toLower table h).Past ev := by
  cases h with
  | pruned now idle =>
    obtain ⟨held, holds, reached, settled⟩ := past
    exact ⟨held, holds, reached, fun equal eval verdict =>
      prune_settled (settled equal eval verdict) now idle⟩
  | delivered a msg =>
    unfold Engine.happen
    dsimp only
    rcases refused_or_admitted toLower a msg with refused | ⟨other, carried, admitted⟩
    · obtain ⟨reasons, unchanged⟩ := deliver_refused toLower table e a refused
      rw [unchanged]
      exact past
    · have arrives : other ∈ readings toLower [.delivered a msg] := by
        simp [readings, carried]
      exact (deliver_comes table e a carried admitted).keeps_past past (same other arrives)
        (deliver_rules table e a carried admitted) rfl rfl

theorem Past.history {e : Engine} {ev : TelemetryEvent} (past : e.Past ev)
    (happenings : List Happening)
    (same : ∀ other ∈ readings toLower happenings, SameReading e.rules ev other) :
    (e.history toLower table happenings).Past ev := by
  induction happenings generalizing e with
  | nil => exact past
  | cons h rest ih =>
    have split : readings toLower (h :: rest) = readings toLower [h] ++ readings toLower rest :=
      List.filterMap_append (l := [h])
    rw [split] at same
    refine ih (past.happen h fun other first => same other (List.mem_append_left _ first)) ?_
    intro other later
    rw [happen_rules]
    exact same other (List.mem_append_right _ later)

/-- One redelivery of a past reading adds no edge. -/
theorem Past.redelivered {e : Engine} {ev : TelemetryEvent} (past : e.Past ev) (a : Attempt)
    {msg : Option TelemetryEvent} (carried : validated toLower msg = some ev) :
    e.NoEdge (e.deliver toLower table a msg).1 := by
  by_cases admitted : a.replies.admission = .admitted
  · have alarms := (deliver_comes table e a carried admitted).keeps_alarms past
    refine ⟨?_, fun key => (alarms key).1, fun key => (alarms key).2⟩
    obtain ⟨sent, mutations, proposed⟩ := deliver_sends table e a carried admitted
    refine ⟨sent, mutations, fun p member => ?_⟩
    rw [(proposed p member).repeats past]
    exact ⟨nofun, nofun, nofun⟩
  · obtain ⟨reasons, same⟩ := deliver_refused toLower table e a fun _ _ => admitted
    rw [same]
    exact ⟨⟨[], rfl, by simp⟩, fun _ => rfl, fun _ => rfl⟩

theorem NoEdge.trans {a b c : Engine} (first : a.NoEdge b) (second : b.NoEdge c) : a.NoEdge c := by
  obtain ⟨early, early_sent, early_repeats⟩ := first.repeats
  obtain ⟨late, late_sent, late_repeats⟩ := second.repeats
  refine ⟨⟨late ++ early, ?_, ?_⟩, fun key => (second.state key).trans (first.state key),
    fun key => (second.severity key).trans (first.severity key)⟩
  · rw [late_sent, early_sent, List.append_assoc]
  · intro p member
    rcases List.mem_append.mp member with of_late | of_early
    · exact late_repeats p of_late
    · exact early_repeats p of_early

theorem Past.redelivered_often {e : Engine} {ev : TelemetryEvent} (past : e.Past ev)
    {msg : Option TelemetryEvent} (carried : validated toLower msg = some ev)
    (again : List Attempt) :
    e.NoEdge (e.history toLower table (again.map fun a => .delivered a msg)) := by
  induction again generalizing e with
  | nil => exact ⟨⟨[], rfl, by simp⟩, fun _ => rfl, fun _ => rfl⟩
  | cons a rest ih =>
    have still : (e.happen toLower table (.delivered a msg)).Past ev := by
      refine past.happen _ ?_
      simp [readings, carried, SameReading]
    exact (past.redelivered a carried).trans (ih still)

/-! ## One reading for each channel and millisecond -/

theorem identifier_allows {s : String} (valid : identifierPattern s = true) :
    ∀ c ∈ s.toList, (c.isAlphanum || c == '.' || c == '_' || c == '-') = true := by
  unfold identifierPattern at valid
  intro c member
  split at valid
  next => cases valid
  next first rest spelled =>
    rw [spelled] at member
    simp only [Bool.and_eq_true, List.all_eq_true] at valid
    obtain rfl | later := List.mem_cons.mp member
    · simp [valid.1.1]
    · exact valid.2 c later

theorem colon_notMem {s : String} (valid : identifierPattern s = true) : ':' ∉ s.toList :=
  fun colon => absurd (identifier_allows valid ':' colon) (by decide)

/-- The twin's key tells two channels apart, an asset's name holding no colon. -/
theorem twinKey_inj {a s a' s' : String} (valid : identifierPattern a = true)
    (valid' : identifierPattern a' = true) (same : twinKey a s = twinKey a' s') :
    a = a' ∧ s = s' := by
  have spelled : a.toList ++ ':' :: s.toList = a'.toList ++ ':' :: s'.toList := by
    simpa [twinKey, ← String.toList_inj] using same
  have upTo : ∀ (l : List Char) (r : List Char), ':' ∉ l →
      (l ++ ':' :: r).takeWhile (· != ':') = l := by
    intro l r absent
    have passes : ∀ c ∈ l, (c != ':') = true := by
      intro c member
      simp only [bne_iff_ne, ne_eq]
      intro colon
      subst colon
      exact absent member
    rw [List.takeWhile_append_of_pos passes]
    simp
  have first := congrArg (List.takeWhile (· != ':')) spelled
  rw [upTo _ _ (colon_notMem valid), upTo _ _ (colon_notMem valid')] at first
  rw [first] at spelled
  have last := List.append_cancel_left spelled
  exact ⟨String.toList_inj.mp first, String.toList_inj.mp (List.cons.inj last).2⟩

theorem identifier_of_mem_readings {happenings : List Happening} {ev : TelemetryEvent}
    (arrives : ev ∈ readings toLower happenings) : identifierPattern ev.assetID = true := by
  obtain ⟨h, -, carried⟩ := List.mem_filterMap.mp arrives
  cases h with
  | pruned => cases carried
  | delivered a msg =>
    have valid := (Option.filter_eq_some_iff.mp carried).2
    unfold TelemetryEvent.validate at valid
    simp only [Bool.and_eq_true] at valid
    exact valid.1.1.1

theorem OnePerMillisecond.sameReading {happenings : List Happening}
    (once : OnePerMillisecond (readings toLower happenings)) (rules : RuleEngine)
    {ev other : TelemetryEvent} (first : ev ∈ readings toLower happenings)
    (second : other ∈ readings toLower happenings) : SameReading rules ev other := by
  intro channel millisecond
  obtain ⟨asset, sensor⟩ := twinKey_inj (identifier_of_mem_readings second)
    (identifier_of_mem_readings first) channel
  have value := once other second ev first asset sensor millisecond
  unfold RuleEngine.evaluate
  rw [sensor, value]

/-- In any run with at most one reading for each channel and millisecond, a message whose
delivery completed can be delivered again at any later point and any number of times: it
raises, escalates and clears nothing, and every channel keeps its state and severity. -/
theorem redelivery_adds_no_edge (toLower : Char → Char) (table : CaseTable) (e : Engine)
    (before later : List Happening) (a : Attempt) (again : List Attempt)
    (msg : Option TelemetryEvent) (ev : TelemetryEvent)
    (once : OnePerMillisecond (readings toLower (before ++ .delivered a msg :: later)))
    (completed : (e.history toLower table before).Completes toLower table a msg ev) :
    let reached := e.history toLower table (before ++ .delivered a msg :: later)
    reached.NoEdge (reached.history toLower table (again.map fun a => .delivered a msg)) := by
  obtain ⟨carried, admitted, succeeded⟩ := completed
  let started := e.history toLower table before
  let taken := (started.deliver toLower table a msg).1
  have arrives : ev ∈ readings toLower (before ++ .delivered a msg :: later) := by
    simp [readings, carried]
  have past : taken.Past ev := by
    have comes := deliver_comes table started a carried admitted
    rw [succeeded] at comes
    exact comes.completes (deliver_rules table started a carried admitted) rfl rfl
  have still : (taken.history toLower table later).Past ev := by
    refine past.history later fun other follows => ?_
    refine once.sameReading _ arrives ?_
    simp only [readings, List.filterMap_append, List.filterMap_cons, carried]
    exact List.mem_append_right _ (List.mem_cons_of_mem _ follows)
  have reached : e.history toLower table (before ++ .delivered a msg :: later) =
      taken.history toLower table later := List.foldl_append
  rw [reached]
  exact still.redelivered_often carried again

/-- A delivery at `now` without graph context. -/
def delivery (now : Time) (emit : Bool) : Attempt where
  replies := { graph := .error "neo4j unreachable", emit, eventID := "evt_9", ingestedAt := now, now }

def spike : TelemetryEvent := vibration 9 63840000000000000000

/-- A reading of 9 is announced and comes back after the re-alert interval while Kafka
is down. -/
def announced : Engine :=
  (newEngine defaultHysteresis ⟨false, newGraphCRDT "replica-0" "" 0⟩).history Char.toLower asciiCase
    [.delivered (delivery 63840000000000000000 true) (some spike),
      .delivered (delivery 63840000400000000000 false) (some spike)]

/-- It is then delivered twice more. -/
def redelivered : Engine :=
  announced.history Char.toLower asciiCase
    ([delivery 63840000500000000000 true, delivery 63840000900000000000 true].map
      fun a => .delivered a (some spike))

theorem redelivery_adds_no_edge_spike :
    redelivered.mutations.map (·.transition) = [.sustained, .sustained, .raised] ∧
      announced.NoEdge redelivered := by
  have carried : validated Char.toLower (some spike) = some (spike.normalize Char.toLower) :=
    Option.filter_eq_some_iff.mpr ⟨rfl, by decide +kernel⟩
  refine ⟨by decide +kernel, ?_⟩
  refine redelivery_adds_no_edge Char.toLower asciiCase _ [] _ _ _ (some spike)
    (spike.normalize Char.toLower) ?_ ⟨carried, rfl, by decide +kernel⟩
  intro a first b second
  simp only [readings, carried, List.nil_append, List.filterMap_cons, List.filterMap_nil,
    List.mem_cons, List.not_mem_nil, or_false, or_self] at first second
  rw [first, second]
  exact fun _ _ _ => rfl

end
end Engine
end OpenOntology.Resolution
