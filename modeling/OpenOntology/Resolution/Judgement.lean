import OpenOntology.Resolution.Timestamps

/-!
# What the rules judge and what the twin holds

The rules are evaluated on every reading that the twin does not refuse as stale. A reading of
the millisecond that the twin already holds is not written, and is evaluated all the same,
whatever its value.
-/
namespace OpenOntology.Resolution

open Library Crdt Replica

/-- The twin of the reading's channel has its value and its millisecond. -/
def StateCache.Holds (c : StateCache) (ev : TelemetryEvent) : Prop :=
  ∃ twin, c.twins[ev.cacheKey]? = some twin ∧ twin.value = ev.value ∧
    twin.observedAtMs = unixMilli ev.timestamp

/-- It has the value and, read back, the very instant. -/
def StateCache.HoldsExactly (c : StateCache) (ev : TelemetryEvent) : Prop :=
  ∃ twin, c.twins[ev.cacheKey]? = some twin ∧ twin.value = ev.value ∧
    timeOfMilli twin.observedAtMs = ev.timestamp

/-- The twin already holds another value of the reading's millisecond. -/
def StateCache.Contradicts (c : StateCache) (ev : TelemetryEvent) : Prop :=
  ∃ held, c.twins[ev.cacheKey]? = some held ∧ held.observedAtMs = unixMilli ev.timestamp ∧
    held.value ≠ ev.value

def WholeMillisecond (t : Time) : Prop := timeOfMilli (unixMilli t) = t

namespace Engine
variable (table : CaseTable) (toLower : Char → Char) (parse : String → Option Time)

/-- The reading that the rules are evaluated on in the occurrence, with the cache right after
its write. -/
def judged (e : Engine) : Occurrence → Option (TelemetryEvent × StateCache)
  | .delivered a _ msg =>
    (validated toLower (msg.bind (RawEvent.decode parse))).bind fun ev =>
      let applied := e.cache.apply ev a.replies.ingestedAt
      if a.replies.admission = .admitted ∧ a.replies.apply = true ∧ applied.2.fresh = true then
        some (ev, applied.1)
      else none
  | _ => none

variable {table toLower parse} {e : Engine}

/-- Without a write, or with a stale one, nothing is evaluated. -/
theorem handle_of_not_fresh {r : Replies} {ev : TelemetryEvent}
    (idle : ¬(r.apply = true ∧ (e.cache.apply ev r.ingestedAt).2.fresh = true)) :
    (e.handle table r ev).1.tracker = e.tracker ∧
      (e.handle table r ev).1.mutations = e.mutations := by
  have course := handle_course table e r ev
  generalize e.handle table r ev = done at course ⊢
  cases course with
  | unapplied => exact ⟨rfl, rfl⟩
  | stale => exact ⟨rfl, rfl⟩
  | ungoverned applied fresh => exact absurd ⟨applied, fresh⟩ idle
  | absorbed applied fresh => exact absurd ⟨applied, fresh⟩ idle
  | unmarked applied fresh => exact absurd ⟨applied, fresh⟩ idle
  | unsent applied fresh => exact absurd ⟨applied, fresh⟩ idle
  | published applied fresh => exact absurd ⟨applied, fresh⟩ idle

theorem deliver_of_not_fresh {a : Attempt} {msg : Option TelemetryEvent}
    (idle : ∀ ev, validated toLower msg = some ev → a.replies.admission = .admitted →
      ¬(a.replies.apply = true ∧ (e.cache.apply ev a.replies.ingestedAt).2.fresh = true)) :
    (e.deliver toLower table a msg).1.tracker = e.tracker ∧
      (e.deliver toLower table a msg).1.mutations = e.mutations := by
  by_cases refused : ∀ ev, validated toLower msg = some ev → a.replies.admission ≠ .admitted
  · obtain ⟨reasons, ignored⟩ := deliver_refused toLower table e a refused
    rw [ignored]
    exact ⟨rfl, rfl⟩
  · push Not at refused
    obtain ⟨ev, carried, admitted⟩ := refused
    have quiet := idle ev carried admitted
    have delivers := deliver_delivers table e a carried admitted
    generalize e.deliver toLower table a msg = done at delivers ⊢
    cases delivers with
    | handled => exact handle_of_not_fresh quiet
    | written => exact ⟨rfl, rfl⟩
    | sent =>
      have resent := @handle_of_not_fresh table e { a.replies with emit := true } ev quiet
      exact ⟨(handle_of_not_fresh quiet).1, resent.2⟩

/-- A message whose reading is not judged raises nothing and publishes nothing. -/
theorem occur_of_not_judged {a : Attempt} {resolvedAt : Time} {msg : Option RawEvent}
    (unjudged : e.judged toLower parse (.delivered a resolvedAt msg) = none) :
    (e.occur table toLower parse (.delivered a resolvedAt msg)).tracker = e.tracker ∧
      (e.occur table toLower parse (.delivered a resolvedAt msg)).mutations = e.mutations := by
  unfold judged at unjudged
  unfold occur
  dsimp only at unjudged ⊢
  split
  next carried =>
    apply deliver_of_not_fresh
    intro ev carried'
    rw [carried] at carried'
    cases carried'
  next ev carried =>
    apply deliver_of_not_fresh
    intro ev' carried' admitted both
    rw [carried] at carried'
    cases carried'
    rw [carried, Option.bind_some] at unjudged
    have conditions : a.replies.admission = .admitted ∧ a.replies.apply = true ∧
        (e.cache.apply ev a.replies.ingestedAt).2.fresh = true := ⟨admitted, both⟩
    rw [if_pos conditions] at unjudged
    cases unjudged

end Engine

/-- A write that is not stale leaves the reading's twin as it is written, or finds the
millisecond there. -/
theorem apply_fresh {c : StateCache} {ev : TelemetryEvent} {now : Time}
    (fresh : (c.apply ev now).2.fresh = true) :
    (∃ held, c.twins[ev.cacheKey]? = some held ∧ held.observedAtMs = unixMilli ev.timestamp ∧
        (c.apply ev now).1.twins[ev.cacheKey]? = some held) ∨
      ¬c.Contradicts ev ∧ ∃ twin, (c.apply ev now).1.twins[ev.cacheKey]? = some twin ∧
        twin.value = ev.value ∧ twin.observedAtMs = unixMilli ev.timestamp := by
  unfold StateCache.apply at fresh ⊢
  dsimp only at fresh ⊢
  split at fresh
  next absent =>
    refine .inr ⟨?_, ?_⟩
    · intro ⟨held, present, _⟩
      rw [absent] at present
      cases present
    · simp
  next held present =>
    split at fresh
    next => cases fresh
    next newer =>
      split at fresh
      next same =>
        rw [if_neg newer, if_pos same]
        exact .inl ⟨held, present, same, present⟩
      next other =>
        rw [if_neg newer, if_neg other]
        refine .inr ⟨?_, ?_⟩
        · intro ⟨held', present', same, _⟩
          rw [present] at present'
          cases present'
          exact other same
        · simp

/-- A reading that is not stale is held right after its write, unless another value of its
millisecond is. -/
theorem apply_holds_iff {c : StateCache} {ev : TelemetryEvent} {now : Time}
    (fresh : (c.apply ev now).2.fresh = true) :
    (c.apply ev now).1.Holds ev ↔ ¬c.Contradicts ev := by
  obtain ⟨held, present, millisecond, kept⟩ | ⟨agrees, written⟩ := apply_fresh fresh
  · constructor
    · intro ⟨twin, found, value, _⟩ ⟨other, same, _, differs⟩
      rw [kept] at found
      rw [present] at same
      cases found
      cases same
      exact differs value
    · intro agrees
      refine ⟨held, kept, ?_, millisecond⟩
      by_contra differs
      exact agrees ⟨held, present, millisecond, differs⟩
  · exact ⟨fun _ => agrees, fun _ => written⟩

/-- The twin counts whole milliseconds. -/
theorem holdsExactly_iff {c : StateCache} {ev : TelemetryEvent} :
    c.HoldsExactly ev ↔ c.Holds ev ∧ WholeMillisecond ev.timestamp := by
  have inverse : ∀ ms, unixMilli (timeOfMilli ms) = ms := by
    intro ms
    unfold unixMilli timeOfMilli
    omega
  constructor
  · intro ⟨twin, found, value, instant⟩
    have millisecond : twin.observedAtMs = unixMilli ev.timestamp := by
      rw [← instant, inverse]
    refine ⟨⟨twin, found, value, millisecond⟩, ?_⟩
    rw [WholeMillisecond, ← millisecond, instant]
  · intro ⟨⟨twin, found, value, millisecond⟩, whole⟩
    exact ⟨twin, found, value, by rw [millisecond, whole]⟩

namespace Engine
variable {toLower : Char → Char} {parse : String → Option Time} {e : Engine} {o : Occurrence}
  {ev : TelemetryEvent} {cache : StateCache}

theorem judged_applies (judged : e.judged toLower parse o = some (ev, cache)) :
    ∃ now, (e.cache.apply ev now).2.fresh = true ∧ cache = (e.cache.apply ev now).1 := by
  cases o with
  | delivered a resolvedAt msg =>
    unfold Engine.judged at judged
    obtain ⟨found, -, judged⟩ := Option.bind_eq_some_iff.mp judged
    dsimp only at judged
    split at judged
    next conditions =>
      cases judged
      exact ⟨a.replies.ingestedAt, conditions.2.2, rfl⟩
    next => cases judged
  | pruned => cases judged
  | expired => cases judged

theorem judged_holds_iff (judged : e.judged toLower parse o = some (ev, cache)) :
    cache.Holds ev ↔ ¬e.cache.Contradicts ev := by
  obtain ⟨now, fresh, rfl⟩ := judged_applies judged
  exact apply_holds_iff fresh

end Engine

/-- A vibration of 9, and its correction to 2 when the claim on the coordinate is over. -/
def corrected : List Occurrence :=
  [Engine.arrival 63840000000000000000 (Engine.shaking "1704403200000"),
    Engine.arrival 63840000010000000000
      { Engine.shaking "1704403200000" with value := 2 }]

end OpenOntology.Resolution
