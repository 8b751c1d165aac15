import OpenOntology.Library.Run
import OpenOntology.Resolution.Redelivery

/-!
# The instants of a mutation

`encoding/json` renders an instant while its UTC year has at most four digits. A reading
brings an instant into the twin of its channel, and `Snapshot` puts that instant into every
later mutation of the asset.
-/
namespace OpenOntology.Resolution

open Crdt Library Replica

/-- `time.UnixMilli`. -/
def timeOfMilli (ms : Int) : Time := ms * 1000000 + 62135596800000000000

/-- `Time.MarshalJSON` succeeds: the UTC year is one of 0 to 9999. -/
def Renderable (t : Time) : Prop := -31622400000000000000 ≤ t ∧ t < 315537897600000000000

instance : DecidablePred Renderable := fun _ => inferInstanceAs (Decidable (_ ∧ _))

/-! ## Decoding -/

/-- `strconv.ParseUint` of decimal digits, before its range check. -/
def digitsValue (digits : List Char) : Option Int :=
  if digits = [] ∨ !digits.all Char.isDigit then none
  else some (digits.foldl (fun value c => 10 * value + (c.toNat - '0'.toNat : Nat)) 0)

/-- `strconv.ParseInt` to base 10 and 64 bits. -/
def parseInt64 (raw : String) : Option Int :=
  let value :=
    match raw.toList with
    | '-' :: digits => (digitsValue digits).map Neg.neg
    | '+' :: digits => digitsValue digits
    | digits => digitsValue digits
  value.filter fun n => decide (-2 ^ 63 ≤ n ∧ n < 2 ^ 63)

/-- `EventTime.UnmarshalJSON` on one JSON value; `parse` reads a string literal under the
four layouts. -/
def eventTime (parse : String → Option Time) (token : String) : Option Time :=
  let raw := trimSpace token
  if raw = "" ∨ raw = "null" ∨ raw = "\"\"" then none
  else if raw.toList.head? = some '"' then parse token
  else (parseInt64 raw).map timeOfMilli

/-- A message whose JSON decodes but for the timestamp, which may be absent. -/
structure RawEvent where
  assetID : String
  sensorID : String
  value : Float
  unit : String := ""
  timestamp : Option String

def RawEvent.decode (parse : String → Option Time) (raw : RawEvent) : Option TelemetryEvent := do
  let timestamp ← raw.timestamp.elim (some zeroTime) (eventTime parse)
  return { assetID := raw.assetID, sensorID := raw.sensorID, value := raw.value
           unit := raw.unit, timestamp }

/-! ## Assembling a payload -/

/-- `Snapshot`: the live twins of the asset, by sensor. -/
def StateCache.snapshot (c : StateCache) (assetID : String) : List SensorReading :=
  (c.twins.toList.filter fun entry => entry.2.assetID == assetID).map fun entry =>
    { sensorID := entry.2.sensorID, value := entry.2.value, unit := entry.2.unit
      observedAt := timeOfMilli entry.2.observedAtMs }

/-- What `buildPayload` assembles, with the instants it holds next to those of the rest of
the payload. -/
structure Assembly where
  payload : EnrichedContextPayload
  triggeredAt : Time
  capturedAt : Time
  resolvedAt : Time

namespace Assembly

/-- Every instant of the payload, in the order they are encoded. -/
def instants (a : Assembly) : List Time :=
  a.payload.emittedAt :: a.payload.anomalyActiveSince :: a.triggeredAt ::
    (a.payload.readings.map SensorReading.observedAt ++ [a.capturedAt, a.resolvedAt])

/-- `json.Marshal` of the payload succeeds. -/
def renders (a : Assembly) : Bool := a.instants.all fun t => decide (Renderable t)

end Assembly

/-- A message arrives, the janitor evicts idle channels, or Redis drops a key whose time to
live is over. -/
inductive Occurrence where
  | delivered (a : Attempt) (resolvedAt : Time) (msg : Option RawEvent)
  | pruned (now : Time) (idle : Duration)
  | expired (key : String)

/-- The clocks of the engine and of the graph read a year of at most four digits. -/
def Occurrence.OnTime : Occurrence → Prop
  | .delivered a resolvedAt _ => Renderable a.replies.now ∧ Renderable resolvedAt
  | _ => True

namespace Engine
variable (table : CaseTable)

/-- The payload that `handle` assembles, when the reading makes a transition. -/
def assemble (e : Engine) (r : Replies) (resolvedAt : Time) (ev : TelemetryEvent) :
    Option Assembly :=
  if r.apply = false ∨ (e.cache.apply ev r.ingestedAt).2.fresh = false then none
  else do
    let eval ← e.rules.evaluate ev
    let t ← (e.tracker.evaluate ev.cacheKey eval r.now).2.1
    return {
      payload := (e.buildPayload table r ev eval t).1
      triggeredAt := ev.timestamp
      capturedAt := r.now
      resolvedAt := match r.graph with
        | .error _ => r.now
        | .ok _ => resolvedAt }

/-- The snapshot is read back from the cache, and a payload that does not render is not
sent. -/
def answer (e : Engine) (a : Attempt) (resolvedAt : Time) (ev : TelemetryEvent) : Attempt :=
  let live := (e.cache.apply ev a.replies.ingestedAt).1.snapshot ev.assetID
  let r := { a.replies with snapshot := a.replies.snapshot.map fun _ => live }
  let sends := (e.assemble table r resolvedAt ev).all Assembly.renders
  { a with replies := { r with emit := r.emit && sends }
           mutationSent := a.mutationSent && sends }

variable (toLower : Char → Char) (parse : String → Option Time)

/-- One occurrence, with the message decoded. -/
def occur (e : Engine) : Occurrence → Engine
  | .delivered a resolvedAt msg =>
    let msg := msg.bind (RawEvent.decode parse)
    match validated toLower msg with
    | none => (e.deliver toLower table a msg).1
    | some ev => (e.deliver toLower table (e.answer table a resolvedAt ev) msg).1
  | .pruned now idle => { e with tracker := e.tracker.prune now idle }
  | .expired key =>
    { e with cache := ⟨e.cache.twins.erase key, e.cache.alarms.erase key⟩ }

/-- The payload assembled in the course of an occurrence. -/
def assembled (e : Engine) : Occurrence → Option Assembly
  | .delivered a resolvedAt msg => do
    let ev ← validated toLower (msg.bind (RawEvent.decode parse))
    if a.replies.admission = .admitted then
      e.assemble table (e.answer table a resolvedAt ev).replies resolvedAt ev
    else none
  | _ => none

/-- The twin takes the reading, or holds its millisecond already. -/
def Takes (e : Engine) (a : Attempt) (ev : TelemetryEvent) : Prop :=
  a.replies.admission = .admitted ∧ (a.replies.apply = true ∨ a.twinWritten = true) ∧
    (e.cache.apply ev a.replies.ingestedAt).2.fresh = true

/-- A reading that a twin takes has a UTC year of 0 to 9999. -/
def Timely (e : Engine) : Occurrence → Prop
  | .delivered a _ msg => ∀ ev, validated toLower (msg.bind (RawEvent.decode parse)) = some ev →
      e.Takes a ev → Renderable ev.timestamp
  | _ => True

/-- The payload assembled in the step renders, and so will every snapshot from then on. -/
structure Publishable (e : Engine) (o : Occurrence) (next : Engine) : Prop where
  payload : ∀ p, e.assembled table toLower parse o = some p → ∀ t ∈ p.instants, Renderable t
  snapshot : ∀ assetID, ∀ reading ∈ next.cache.snapshot assetID, Renderable reading.observedAt

end Engine

/-! ## Instants and milliseconds -/

/-- The bounds are whole milliseconds, so the twin's millisecond decides. -/
theorem renderable_unixMilli (t : Time) :
    Renderable (timeOfMilli (unixMilli t)) ↔ Renderable t := by
  unfold Renderable timeOfMilli unixMilli Time
  omega

theorem renderable_zeroTime : Renderable zeroTime := by decide

/-- Every instant that the twins hold and that the tracker holds renders. -/
structure Engine.Sound (e : Engine) : Prop where
  twins : ∀ (key : String) (twin : Twin), e.cache.twins[key]? = some twin →
    Renderable (timeOfMilli twin.observedAtMs)
  tracker : ∀ key, Renderable (e.tracker.entries.getD key {}).activeSince

/-! ## The cache -/

/-- The three outcomes of the write, with the twins they leave. -/
theorem apply_cases (c : StateCache) (ev : TelemetryEvent) (now : Time) :
    ((c.apply ev now).1 = c ∧ (c.apply ev now).2.fresh = false) ∨
      (∃ held : Twin, c.twins[ev.cacheKey]? = some held ∧
        held.observedAtMs = unixMilli ev.timestamp ∧ (c.apply ev now).1 = c ∧
        (c.apply ev now).2.fresh = true) ∨
      ∃ twin : Twin, twin.assetID = ev.assetID ∧ twin.observedAtMs = unixMilli ev.timestamp ∧
        (c.apply ev now).1.twins = c.twins.insert ev.cacheKey twin ∧
        (c.apply ev now).2.fresh = true := by
  unfold StateCache.apply
  dsimp only
  split
  next => exact Or.inr (Or.inr ⟨_, rfl, rfl, rfl, rfl⟩)
  next held present =>
    split
    next => exact Or.inl ⟨rfl, rfl⟩
    next =>
      split
      next same => exact Or.inr (Or.inl ⟨held, present, same, rfl, rfl⟩)
      next => exact Or.inr (Or.inr ⟨_, rfl, rfl, rfl, rfl⟩)

theorem mem_snapshot {c : StateCache} {assetID : String} {reading : SensorReading} :
    reading ∈ c.snapshot assetID ↔ ∃ (key : String) (twin : Twin),
      c.twins[key]? = some twin ∧ twin.assetID = assetID ∧
        reading = ⟨twin.sensorID, twin.value, twin.unit, timeOfMilli twin.observedAtMs⟩ := by
  simp only [StateCache.snapshot, List.mem_map, List.mem_filter, Prod.exists, beq_iff_eq,
    Std.ExtTreeMap.mem_toList_iff_getElem?_eq_some, and_assoc, eq_comm (b := reading)]

/-- The twins render exactly when every snapshot does. -/
theorem snapshot_renders_iff (c : StateCache) :
    (∀ assetID, ∀ reading ∈ c.snapshot assetID, Renderable reading.observedAt) ↔
      ∀ (key : String) (twin : Twin), c.twins[key]? = some twin →
        Renderable (timeOfMilli twin.observedAtMs) := by
  constructor
  · intro snapshots key twin held
    exact snapshots twin.assetID _ (mem_snapshot.mpr ⟨key, twin, held, rfl, rfl⟩)
  · intro twins assetID reading member
    obtain ⟨key, twin, held, -, rfl⟩ := mem_snapshot.mp member
    exact twins key twin held

/-- Over twins that render, the write keeps them so exactly when a reading it takes renders. -/
theorem apply_renders_iff {c : StateCache} (ev : TelemetryEvent) (now : Time)
    (twins : ∀ (key : String) (twin : Twin), c.twins[key]? = some twin →
      Renderable (timeOfMilli twin.observedAtMs)) :
    (∀ (key : String) (twin : Twin), (c.apply ev now).1.twins[key]? = some twin →
      Renderable (timeOfMilli twin.observedAtMs)) ↔
      ((c.apply ev now).2.fresh = true → Renderable ev.timestamp) := by
  rcases apply_cases c ev now with ⟨same, stale⟩ | ⟨held, present, at_ms, same, -⟩ |
    ⟨written, -, at_ms, inserted, fresh⟩
  · simp only [same, stale, Bool.false_eq_true, false_implies, iff_true]
    exact twins
  · have renders := twins _ held present
    rw [at_ms, renderable_unixMilli] at renders
    rw [same]
    exact ⟨fun _ _ => renders, fun _ => twins⟩
  · rw [inserted]
    constructor
    · intro kept _
      have renders := kept ev.cacheKey written Std.ExtTreeMap.getElem?_insert_self
      rwa [at_ms, renderable_unixMilli] at renders
    · intro timely key twin found
      rw [Std.ExtTreeMap.getElem?_insert] at found
      split at found
      next =>
        cases found
        rw [at_ms, renderable_unixMilli]
        exact timely fresh
      next => exact twins key twin found

/-! ## The tracker -/

/-- An evaluation keeps the start of an alarm, takes the clock for it or resets it, and so
does the transition it makes. -/
theorem Outcome.renders {t : StateTracker} {st next : SensorState} {eval : RuleEvaluation}
    {now : Time} {transition : Option Transition}
    (outcome : Outcome t st eval now next transition) (clock : Renderable now)
    (since : Renderable st.activeSince) :
    Renderable next.activeSince ∧ ∀ tr, transition = some tr → Renderable tr.activeSince := by
  cases outcome with
  | raised => simpa using clock
  | escalated => simpa using since
  | sustained => simpa using since
  | repeated => simpa using since
  | quiet => simpa using since
  | held => simpa using since
  | cleared => simpa using ⟨renderable_zeroTime, since⟩

theorem evaluate_renders {t : StateTracker}
    (since : ∀ key, Renderable (t.entries.getD key {}).activeSince)
    (key : String) (eval : RuleEvaluation) {now : Time} (clock : Renderable now) :
    (∀ k, Renderable ((t.evaluate key eval now).1.entries.getD k {}).activeSince) ∧
      ∀ tr, (t.evaluate key eval now).2.1 = some tr → Renderable tr.activeSince := by
  have outcome := (advance_outcome t (t.entries.getD key {}) eval now).renders clock (since key)
  refine ⟨fun k => ?_, outcome.2⟩
  rw [Engine.evaluate_entry]
  split
  next => exact outcome.1
  next => exact since k

theorem prune_renders {t : StateTracker}
    (since : ∀ key, Renderable (t.entries.getD key {}).activeSince) (now : Time) (idle : Duration) (key : String) :
    Renderable ((t.prune now idle).entries.getD key {}).activeSince := by
  have was := since key
  unfold StateTracker.prune
  dsimp only
  rw [Std.ExtTreeMap.getD_filter']
  rw [Std.ExtTreeMap.getD_eq_getD_getElem?] at was
  cases held : t.entries[key]? with
  | none => exact renderable_zeroTime
  | some st =>
    rw [held] at was
    rw [Option.filter_some]
    split
    next => exact was
    next => exact renderable_zeroTime

namespace Engine
variable {toLower : Char → Char} {table : CaseTable} {parse : String → Option Time}
variable {e : Engine} {a : Attempt} {ev : TelemetryEvent} {resolvedAt : Time}

theorem deliver_twins {msg : Option TelemetryEvent} (e : Engine) (a : Attempt)
    (carried : validated toLower msg = some ev) (admitted : a.replies.admission = .admitted) :
    (e.deliver toLower table a msg).1.cache.twins =
      if a.replies.apply = true ∨ a.twinWritten = true then
        (e.cache.apply ev a.replies.ingestedAt).1.twins
      else e.cache.twins := by
  unfold deliver
  simp only [carried, process_handles toLower table e a.replies carried admitted]
  rw [if_neg (not_not.mpr admitted)]
  cases applied : a.replies.apply with
  | false =>
    have handled : e.handle table a.replies ev = (e, some "cache apply") := by
      unfold handle
      rw [if_pos applied]
    rw [if_pos rfl, handled]
    cases a.twinWritten <;> simp
  | true =>
    have handled : (e.handle table a.replies ev).1.cache.twins =
        (e.cache.apply ev a.replies.ingestedAt).1.twins := by
      have course := handle_course table e a.replies ev
      generalize e.handle table a.replies ev = done at course ⊢
      cases course with
      | unapplied failed => simp [applied] at failed
      | stale => rfl
      | ungoverned => rfl
      | absorbed => rfl
      | unmarked => rfl
      | unsent => exact markAlarm_twins ..
      | published => exact markAlarm_twins ..
    rw [if_neg Bool.noConfusion, if_pos (Or.inl rfl)]
    split <;> exact handled

/-- After a message the twins render exactly when the reading it carried was timely. -/
theorem twins_render_iff (sound : e.Sound) (a : Attempt) (resolvedAt : Time)
    (msg : Option RawEvent) :
    (∀ (key : String) (twin : Twin),
      (e.occur table toLower parse (.delivered a resolvedAt msg)).cache.twins[key]? = some twin →
        Renderable (timeOfMilli twin.observedAtMs)) ↔
      e.Timely toLower parse (.delivered a resolvedAt msg) := by
  unfold occur Timely
  dsimp only
  cases carried : validated toLower (msg.bind (RawEvent.decode parse)) with
  | none =>
    have refused : ∀ ev, validated toLower (msg.bind (RawEvent.decode parse)) = some ev →
        a.replies.admission ≠ .admitted := by
      rw [carried]
      nofun
    obtain ⟨reasons, same⟩ := deliver_refused toLower table e a refused
    rw [same]
    simpa using sound.twins
  | some ev =>
    dsimp only
    simp only [Option.some.injEq, forall_eq']
    by_cases admitted : a.replies.admission = .admitted
    · rw [deliver_twins e (e.answer table a resolvedAt ev) carried admitted]
      change (∀ (key : String) (twin : Twin),
        (if a.replies.apply = true ∨ a.twinWritten = true then
          (e.cache.apply ev a.replies.ingestedAt).1.twins
        else e.cache.twins)[key]? = some twin → _) ↔ _
      split
      next reaches =>
        rw [apply_renders_iff ev a.replies.ingestedAt sound.twins]
        simp [Takes, admitted, reaches]
      next fails =>
        simp only [Takes, fails, false_and, and_false, false_implies, iff_true]
        exact sound.twins
    · obtain ⟨reasons, same⟩ := deliver_refused toLower table e (e.answer table a resolvedAt ev)
        (fun _ _ => admitted)
      rw [same]
      simp only [Takes, admitted, false_and, false_implies, iff_true]
      exact sound.twins

/-- The readings of a payload are the snapshot, or the trigger alone. -/
theorem buildPayload_readings {r : Replies} {eval : RuleEvaluation} {tr : Transition}
    {reading : SensorReading} (listed : reading ∈ (e.buildPayload table r ev eval tr).1.readings) :
    reading.observedAt = ev.timestamp ∨
      ∃ readings, r.snapshot = .ok readings ∧ reading ∈ readings := by
  unfold buildPayload at listed
  dsimp only at listed
  split at listed
  next => simp_all
  next => simp_all
  next readings _ read => exact Or.inr ⟨readings, read, listed⟩

/-- What the assembled payload holds: the clock, the start of the alarm, the reading and
the snapshot. -/
theorem mem_instants {r : Replies} {p : Assembly}
    (made : e.assemble table r resolvedAt ev = some p) {t : Time} (member : t ∈ p.instants) :
    t = r.now ∨ t = resolvedAt ∨ t = ev.timestamp ∨
      (∃ eval tr, (e.tracker.evaluate ev.cacheKey eval r.now).2.1 = some tr ∧
        t = tr.activeSince) ∨
      ∃ readings, r.snapshot = .ok readings ∧ ∃ reading ∈ readings, t = reading.observedAt := by
  unfold assemble at made
  split at made
  next => cases made
  next =>
    obtain ⟨eval, -, made⟩ := Option.bind_eq_some_iff.mp made
    obtain ⟨tr, emits, made⟩ := Option.bind_eq_some_iff.mp made
    cases made
    unfold Assembly.instants at member
    simp only [List.mem_cons, List.mem_append, List.mem_map, List.not_mem_nil, or_false] at member
    rcases member with rfl | rfl | rfl | ⟨reading, listed, rfl⟩ | rfl | rfl
    · exact Or.inl rfl
    · exact Or.inr (Or.inr (Or.inr (Or.inl ⟨eval, tr, emits, rfl⟩)))
    · exact Or.inr (Or.inr (Or.inl rfl))
    · rcases buildPayload_readings listed with trigger | ⟨readings, read, among⟩
      · exact Or.inr (Or.inr (Or.inl trigger))
      · exact Or.inr (Or.inr (Or.inr (Or.inr ⟨readings, read, reading, among, rfl⟩)))
    · exact Or.inl rfl
    · cases r.graph with
      | error err => exact Or.inl rfl
      | ok context => exact Or.inr (Or.inl rfl)

/-- What `handle` publishes is the payload assembled. -/
theorem handle_assembles (e : Engine) (r : Replies) (resolvedAt : Time) (ev : TelemetryEvent) :
    (e.handle table r ev).1.mutations = e.mutations ∨
      ∃ p, e.assemble table r resolvedAt ev = some p ∧ r.emit = true ∧
        (e.handle table r ev).1.mutations = p.payload :: e.mutations := by
  have course := handle_course table e r ev
  generalize e.handle table r ev = done at course ⊢
  cases course with
  | published applied fresh eval t verdict emits marked sent =>
    have made : ∃ p, e.assemble table r resolvedAt ev = some p ∧
        p.payload = (e.buildPayload table r ev eval t).1 := by
      unfold assemble
      simp [applied, fresh, verdict, emits]
    obtain ⟨p, made, same⟩ := made
    exact Or.inr ⟨p, made, sent, congrArg (· :: e.mutations) same.symm⟩
  | unapplied => exact Or.inl rfl
  | stale => exact Or.inl rfl
  | ungoverned => exact Or.inl rfl
  | absorbed => exact Or.inl rfl
  | unmarked => exact Or.inl rfl
  | unsent => exact Or.inl rfl

theorem answer_snapshot {readings : List SensorReading}
    (read : (e.answer table a resolvedAt ev).replies.snapshot = .ok readings) :
    readings = (e.cache.apply ev a.replies.ingestedAt).1.snapshot ev.assetID := by
  change a.replies.snapshot.map _ = .ok readings at read
  cases reply : a.replies.snapshot with
  | error err => simp [reply, Except.map] at read
  | ok _ => simpa [reply, Except.map, eq_comm] using read

theorem assemble_takes {p : Assembly} (admitted : a.replies.admission = .admitted)
    (made : e.assemble table (e.answer table a resolvedAt ev).replies resolvedAt ev = some p) :
    e.Takes a ev := by
  unfold assemble at made
  split at made
  next => cases made
  next applied =>
    simp only [not_or, Bool.not_eq_false] at applied
    exact ⟨admitted, Or.inl applied.1, applied.2⟩

/-- Over a state whose instants render, the payload of a timely reading renders. -/
theorem Sound.assembled (sound : e.Sound) {o : Occurrence} (clock : o.OnTime)
    (timely : e.Timely toLower parse o) {p : Assembly}
    (made : e.assembled table toLower parse o = some p) : ∀ t ∈ p.instants, Renderable t := by
  cases o with
  | pruned => cases made
  | expired => cases made
  | delivered a resolvedAt msg =>
    obtain ⟨ev, carried, made⟩ := Option.bind_eq_some_iff.mp made
    split at made
    next admitted =>
      have takes := assemble_takes admitted made
      have renders := timely ev carried takes
      intro t member
      rcases mem_instants made member with rfl | rfl | rfl | ⟨eval, tr, emits, rfl⟩ |
        ⟨readings, read, reading, listed, rfl⟩
      · exact clock.1
      · exact clock.2
      · exact renders
      · exact (evaluate_renders sound.tracker ev.cacheKey eval clock.1).2 tr emits
      · rw [answer_snapshot read] at listed
        have twins := (apply_renders_iff ev a.replies.ingestedAt sound.twins).mpr fun _ => renders
        exact (snapshot_renders_iff _).mpr twins ev.assetID reading listed
    next => cases made

/-! ## Runs -/

theorem occur_tracker (sound : e.Sound) {o : Occurrence} (clock : o.OnTime) (key : String) :
    Renderable ((e.occur table toLower parse o).tracker.entries.getD key {}).activeSince := by
  cases o with
  | pruned now idle => exact prune_renders sound.tracker now idle key
  | expired => exact sound.tracker key
  | delivered a resolvedAt msg =>
    unfold occur
    dsimp only
    split
    next carried =>
      have refused : ∀ ev, validated toLower (msg.bind (RawEvent.decode parse)) = some ev →
          a.replies.admission ≠ .admitted := by
        rw [carried]
        nofun
      obtain ⟨reasons, same⟩ := deliver_refused toLower table e a refused
      rw [same]
      exact sound.tracker key
    next ev carried =>
      by_cases admitted : a.replies.admission = .admitted
      · have comes := deliver_comes table e (e.answer table a resolvedAt ev) carried admitted
        generalize e.deliver toLower table (e.answer table a resolvedAt ev)
          (msg.bind (RawEvent.decode parse)) = done at comes ⊢
        generalize done.1.cache.twins = twins, done.1.tracker = left, done.2 = err at comes ⊢
        cases comes with
        | unapplied => exact sound.tracker key
        | passed => exact sound.tracker key
        | evaluated eval => exact (evaluate_renders sound.tracker ev.cacheKey eval clock.1).1 key
        | withdrawn => exact sound.tracker key
      · obtain ⟨reasons, same⟩ := deliver_refused toLower table e (e.answer table a resolvedAt ev)
          (fun _ _ => admitted)
        rw [same]
        exact sound.tracker key

theorem occur_twins_iff (sound : e.Sound) (o : Occurrence) :
    (∀ (key : String) (twin : Twin),
      (e.occur table toLower parse o).cache.twins[key]? = some twin →
        Renderable (timeOfMilli twin.observedAtMs)) ↔ e.Timely toLower parse o := by
  cases o with
  | delivered a resolvedAt msg => exact twins_render_iff sound a resolvedAt msg
  | pruned => simpa [Timely, occur] using sound.twins
  | expired key =>
    simp only [Timely, iff_true]
    intro other twin held
    unfold occur at held
    dsimp only at held
    rw [Std.ExtTreeMap.getElem?_erase] at held
    split at held
    next => cases held
    next => exact sound.twins other twin held

theorem Sound.occur (sound : e.Sound) {o : Occurrence} (clock : o.OnTime)
    (timely : e.Timely toLower parse o) : (e.occur table toLower parse o).Sound :=
  ⟨(occur_twins_iff sound o).mpr timely, occur_tracker sound clock⟩

theorem Sound.publishable_iff (sound : e.Sound) {o : Occurrence} (clock : o.OnTime) :
    e.Publishable table toLower parse o (e.occur table toLower parse o) ↔
      e.Timely toLower parse o := by
  rw [← @occur_twins_iff _ table _ _ sound o, ← snapshot_renders_iff]
  constructor
  · exact Publishable.snapshot
  · intro snapshots
    have timely := (occur_twins_iff sound o).mp ((snapshot_renders_iff _).mp snapshots)
    exact ⟨fun p made => sound.assembled clock timely made, snapshots⟩

theorem newEngine_sound (cfg : RuleConfig) (replica : TopologyReplica) :
    (newEngine cfg replica).Sound := by
  constructor
  · intro key twin held
    change (∅ : Std.ExtTreeMap String Twin)[key]? = some twin at held
    simp at held
  · intro key
    change Renderable ((∅ : Std.ExtTreeMap String SensorState).getD key {}).activeSince
    rw [Std.ExtTreeMap.getD_empty]
    exact renderable_zeroTime

/-- In a run of a fresh engine under clocks of at most four digits, every payload that is
assembled and every snapshot that is left renders exactly when every reading that a twin
takes has a UTC year of 0 to 9999. -/
theorem mutations_render_iff (toLower : Char → Char) (table : CaseTable)
    (parse : String → Option Time) (cfg : RuleConfig) (replica : TopologyReplica)
    (occurrences : List Occurrence) (clocks : ∀ o ∈ occurrences, o.OnTime) :
    EveryStep (fun e o => some (e.occur table toLower parse o))
        (Publishable table toLower parse) (newEngine cfg replica) occurrences ↔
      EveryStep (fun e o => some (e.occur table toLower parse o))
        (fun e o _ => e.Timely toLower parse o) (newEngine cfg replica) occurrences := by
  refine everyStep_iff _ Sound occurrences ?_ ?_ (newEngine_sound cfg replica)
  · intro e o next member sound stepped
    cases stepped
    exact sound.publishable_iff (clocks o member)
  · intro e o next member sound stepped timely
    cases stepped
    exact sound.occur (clocks o member) timely

/-- A message at `now` without graph context. -/
def arrival (now : Time) (raw : RawEvent) : Occurrence :=
  .delivered (delivery now true) now (some raw)

def hot (timestamp : String) : RawEvent :=
  { assetID := "HP-TUBING-P104", sensorID := "temperature_celsius", value := 40
    timestamp := some timestamp }

def shaking (timestamp : String) : RawEvent :=
  { assetID := "HP-TUBING-P104", sensorID := "vibration_index", value := 9
    timestamp := some timestamp }

/-- A fresh engine under the default ratio. -/
def started : Engine := newEngine defaultHysteresis ⟨false, newGraphCRDT "replica-0" "" 0⟩

/-- The year 10000 in epoch milliseconds on the temperature of a pump, then a vibration
alarm of the same pump. -/
def poisoned : List Occurrence :=
  [arrival 63840000000000000000 (hot "253402300800000"),
    arrival 63840000000000000000 (shaking "1704403200000")]

def ordinary : List Occurrence :=
  [arrival 63840000000000000000 (hot "1704403199000"),
    arrival 63840000000000000000 (shaking "1704403200000")]

theorem mutations_render_iff_ordinary :
    EveryStep (fun e o => some (e.occur asciiCase Char.toLower (fun _ => none) o))
      (Publishable asciiCase Char.toLower fun _ => none) started ordinary := by
  have carried : ∀ raw : RawEvent, raw = hot "1704403199000" ∨ raw = shaking "1704403200000" →
      ∀ ev, validated Char.toLower (raw.decode fun _ => none) = some ev →
        Renderable ev.timestamp := by
    intro raw either ev valid
    have decoded := (Option.filter_eq_some_iff.mp valid).1
    have timely : ((raw.decode fun _ => none).map (TelemetryEvent.normalize Char.toLower)).all
        (fun ev => decide (Renderable ev.timestamp)) = true := by
      rcases either with rfl | rfl <;> decide +kernel
    rw [decoded] at timely
    simpa using timely
  refine (mutations_render_iff Char.toLower asciiCase (fun _ => none) defaultHysteresis
    ⟨false, newGraphCRDT "replica-0" "" 0⟩ ordinary ?_).mpr ?_
  · simp only [ordinary, arrival, List.mem_cons, List.not_mem_nil, or_false, forall_eq_or_imp,
      forall_eq, Occurrence.OnTime]
    decide
  · refine everyStep_cons _ rfl ?_ (everyStep_cons _ rfl ?_ trivial)
    · exact fun ev valid _ => carried _ (Or.inl rfl) ev valid
    · exact fun ev valid _ => carried _ (Or.inr rfl) ev valid

/-- The vibration alarm carries the temperature's instant, does not render, and nothing is
published. -/
theorem poisoned_not_renders :
    ¬EveryStep (fun e o => some (e.occur asciiCase Char.toLower (fun _ => none) o))
      (fun e o _ => ∀ p, e.assembled asciiCase Char.toLower (fun _ => none) o = some p →
        ∀ t ∈ p.instants, Renderable t) started poisoned ∧
      (poisoned.foldl (fun e o => e.occur asciiCase Char.toLower (fun _ => none) o)
        started).mutations.length = 0 := by
  constructor
  · intro every
    have renders := ((every _ rfl).2 _ rfl).1
    have stuck : ((started.occur asciiCase Char.toLower (fun _ => none)
        (arrival 63840000000000000000 (hot "253402300800000"))).assembled asciiCase Char.toLower
          (fun _ => none) (arrival 63840000000000000000 (shaking "1704403200000"))).any
        (fun p => !p.renders) = true := by
      decide +kernel
    obtain ⟨p, made, fails⟩ := Option.any_eq_true _ _ |>.mp stuck
    have all := renders p made
    simp only [Assembly.renders, Bool.not_eq_true', List.all_eq_false, decide_eq_true_eq] at fails
    obtain ⟨t, member, late⟩ := fails
    exact late (all t member)
  · decide +kernel

end Engine
end OpenOntology.Resolution
