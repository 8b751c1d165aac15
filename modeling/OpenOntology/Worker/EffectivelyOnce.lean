import OpenOntology.Bridge.Laws
import OpenOntology.Library.Run
import OpenOntology.Worker.Stub
import OpenOntology.Worker.Survival

/-!
# One set of command ids for an event

The worker in stub mode, between the records it is delivered and the topic it publishes to.
A member takes up a record, plans and translates it, and sends its commands one by one; it
may crash between any two sends, and the record is then delivered again, to it or to
another. The ids of the commands come out the same each time.
-/
namespace OpenOntology.Worker

open Python Library

/-! ## Identifiers -/

theorem separator_not_mem_value (kind : ActionType) : '|' ∉ kind.value.toList := by
  cases kind <;> decide

theorem separator_not_mem_digits (n : Nat) : '|' ∉ (toString n).toList := by
  rw [Nat.toString_eq_repr, Nat.toList_repr]
  intro member
  have digit := Nat.isDigit_of_mem_toDigits (by decide) (by decide) member
  exact absurd digit (by decide)

theorem ActionType.value_injective : Function.Injective ActionType.value := by
  intro a b same
  cases a <;> cases b <;> first | rfl | exact absurd same (by decide)

theorem name_toList (e : String) (n : Nat) (a : ActionType) :
    (deterministicCommandID e n a).name.toList =
      (e.toList ++ '|' :: (toString n).toList) ++ '|' :: a.value.toList := by
  simp [deterministicCommandID]

/-- The name of a command gives its event, its place and its action away, whatever the
event is called. -/
theorem deterministicCommandID_inj {e e' : String} {n n' : Nat} {a a' : ActionType} :
    deterministicCommandID e n a = deterministicCommandID e' n' a' ↔ e = e' ∧ n = n' ∧ a = a' := by
  constructor
  · intro same
    have names := congrArg (fun id => id.name.toList) same
    rw [name_toList, name_toList] at names
    obtain ⟨front, action⟩ := append_cons_inj_of_not_mem_right (separator_not_mem_value a)
      (separator_not_mem_value a') names
    obtain ⟨event, digits⟩ := append_cons_inj_of_not_mem_right (separator_not_mem_digits n)
      (separator_not_mem_digits n') front
    refine ⟨String.toList_injective event, ?_,
      ActionType.value_injective (String.toList_injective action)⟩
    exact Nat.repr_injective (String.toList_injective digits)
  · rintro ⟨rfl, rfl, rfl⟩
    rfl

/-! ## Up to the first send -/

/-- What is known of a record once it is taken up. -/
inductive PickedUp (unicode : Unicode) where
  | settled (result : Handled unicode)
  /-- the commands are about to be sent -/
  | publishing (commands : List (CommandPayload unicode))

section
variable (w : CommandWorker)

/-- `close_loop` before the publication. -/
def prepare (cache : LicenseCache) (outcomes : Outcomes) (payload : Members) (correlation : Text) :
    Except Raised (List (CommandPayload w.runtime.unicode)) :=
  (authorize w.runtime w.gatekeeper cache outcomes.now payload).bind fun subscription =>
    ((w.modelValidate payload).mapError fun text => .permanent (mutationInvalid text)).bind
      fun mutation =>
        ((planFor w outcomes mutation subscription payload correlation).mapError planFailure).bind
          fun plan =>
            (translatePlan w.runtime.unicode w.texts mutation plan subscription w.settings
              correlation outcomes.issuedAt).mapError .permanent

/-- `_handle` before the publication. -/
def pickUp (cache : LicenseCache) (outcomes : Outcomes) (record : Record) :
    Except Raised (PickedUp w.runtime.unicode) :=
  (decode w record).bind fun decoded =>
    match decoded with
    | none =>
      (deadLetter w outcomes.started "payload_not_json"
        (Text.ofString "Record body is not a JSON object.")).map .settled
    | some payload =>
      let payload := injectLicenseKey w payload record.headers
      (nameEvent w payload).bind fun _ =>
        match prepare w cache outcomes payload (correlationID w record outcomes.correlation) with
        | .ok commands => .ok (.publishing commands)
        | .error raised => (settle w outcomes.started (.error raised)).map .settled

/-- What is left of `_handle` after that. -/
def publishPicked (outcomes : Outcomes) :
    PickedUp w.runtime.unicode → Except Raised (Handled w.runtime.unicode)
  | .settled result => .ok result
  | .publishing commands =>
    settle w outcomes.started ((publishAll w outcomes 0 commands).map fun _ => commands)

theorem closeLoop_eq_prepare (cache : LicenseCache) (outcomes : Outcomes) (payload : Members)
    (correlation : Text) :
    closeLoop w cache outcomes payload correlation =
      (prepare w cache outcomes payload correlation).bind fun commands =>
        (publishAll w outcomes 0 commands).map fun _ => commands := by
  unfold closeLoop prepare
  cases authorize w.runtime w.gatekeeper cache outcomes.now payload with
  | error raised => rfl
  | ok subscription =>
    dsimp only [Except.bind]
    cases (w.modelValidate payload).mapError fun text => Raised.permanent (mutationInvalid text) with
    | error raised => rfl
    | ok mutation =>
      dsimp only [Except.bind]
      cases (planFor w outcomes mutation subscription payload correlation).mapError planFailure with
      | error raised => rfl
      | ok plan => rfl

/-- `_handle` is taking the record up, and then publishing. -/
theorem handle_eq_pickUp (cache : LicenseCache) (outcomes : Outcomes) (record : Record) :
    handle w cache outcomes record =
      (pickUp w cache outcomes record).bind (publishPicked w outcomes) := by
  unfold handle pickUp
  cases decode w record with
  | error raised => rfl
  | ok decoded =>
    cases decoded with
    | none =>
      dsimp only [Except.bind]
      cases deadLetter w outcomes.started "payload_not_json"
        (Text.ofString "Record body is not a JSON object.") <;> rfl
    | some payload =>
      dsimp only [Except.bind]
      cases nameEvent w (injectLicenseKey w payload record.headers) with
      | error raised => rfl
      | ok _ =>
        dsimp only
        rw [closeLoop_eq_prepare]
        cases prepare w cache outcomes (injectLicenseKey w payload record.headers)
            (correlationID w record outcomes.correlation) with
        | ok commands => rfl
        | error raised =>
          dsimp only [Except.bind]
          cases settle w outcomes.started (.error raised) <;> rfl

end

/-! ## Stub mode -/

/-- A worker that plans by itself. -/
structure StubWorker extends CommandWorker where
  /-- a float under the format `g` -/
  formatG : Float → String
  /-- what `model_validate` reads of the payload beside the envelope -/
  payloadContext : Members → PayloadContext

/-- Under which a record is taken up. -/
structure Circumstances where
  cache : LicenseCache
  started : Bool
  now : Int
  issuedAt : Int
  correlation : Text
  /-- the digits of the plan's identifier -/
  fresh : String

namespace StubWorker
variable (w : StubWorker)

def enriched (mutation : MutationEnvelope) (payload : Members) : EnrichedContextPayload where
  toMutationEnvelope := mutation
  toPayloadContext := w.payloadContext payload

/-- The planner is the stub. -/
def outcomes (c : Circumstances) : Outcomes where
  started := c.started
  plan := some fun mutation subscription payload _ _ =>
    .ok (stubPlan w.settings w.formatG (w.enriched mutation payload) subscription c.fresh)
  acknowledged _ _ := true
  now := c.now
  issuedAt := c.issuedAt
  correlation := c.correlation

/-- The mutation a record holds. -/
def mutationOf (record : Record) : Option EnrichedContextPayload :=
  match decode w.toCommandWorker record with
  | .ok (some payload) =>
    let payload := injectLicenseKey w.toCommandWorker payload record.headers
    (w.modelValidate payload).toOption.map fun mutation => w.enriched mutation payload
  | _ => none

/-- The ids of the commands of a mutation's plan, by place and action. -/
def planIDs (m : EnrichedContextPayload) : List CommandID :=
  ((stubCommands w.settings w.formatG m).zipIdx 1).filterMap fun step =>
    (resolveAlias w.runtime.unicode actionAliases step.1.action).map
      (deterministicCommandID m.eventID step.2)

/-- The commands are those of the mutation's plan, in its places. -/
structure Plans (m : EnrichedContextPayload) (commands : List (CommandPayload w.runtime.unicode)) :
    Prop where
  ids : commands.map CommandPayload.commandID = w.planIDs m
  placed : ∀ command ∈ commands, ∃ index, Placed m.eventID index command

variable {w} {c : Circumstances} {mutation : MutationEnvelope} {subscription : Subscription}
  {payload : Members} {correlation : Text} {issuedAt : Int}

theorem planFor_stub :
    planFor w.toCommandWorker (w.outcomes c) mutation subscription payload correlation =
      .ok (stubPlan w.settings w.formatG (w.enriched mutation payload) subscription c.fresh) :=
  retryFrom_of_ok (w.interceptor.maxAttempts - 1) rfl

theorem deadLetter_not_published {started : Bool} {reason : String} {detail : Text}
    {result : Handled w.runtime.unicode}
    (dead : deadLetter w.toCommandWorker started reason detail = .ok result)
    (commands : List (CommandPayload w.runtime.unicode)) : result ≠ .published commands := by
  rintro rfl
  unfold deadLetter at dead
  split at dead
  · cases dead
  · split at dead <;> cases dead

/-- Whatever the tier, the time and the digits of the plan, the commands are the same up to
what is no part of their ids. -/
theorem plans_of_translated {m : EnrichedContextPayload} {fresh : String}
    {commands : List (CommandPayload w.runtime.unicode)}
    (translated : translatePlan w.runtime.unicode w.texts m.toMutationEnvelope
      (stubPlan w.settings w.formatG m subscription fresh) subscription w.settings correlation
      issuedAt = .ok commands) : w.Plans m commands := by
  have related := translatePlan_ok.mp translated
  have whole : (stubPlan w.settings w.formatG m subscription fresh).commands.take
      w.settings.maxCommands = stubCommands w.settings w.formatG m :=
    List.take_of_length_le (stubCommands_length_le w.settings w.formatG m)
  rw [whole] at related
  constructor
  · refine (filterMap_eq_map_of_forall₂ (related.imp ?_)).symm
    intro step command stepped
    rw [(translateStep_issued stepped).action, Option.map_some, (translateStep_placed stepped).id]
  · intro command member
    obtain ⟨step, -, stepped⟩ := forall₂_exists_left related member
    exact ⟨step.2, translateStep_placed stepped⟩

theorem prepare_plans {commands : List (CommandPayload w.runtime.unicode)}
    (prepared : prepare w.toCommandWorker c.cache (w.outcomes c) payload correlation =
      .ok commands) :
    ∃ mutation, w.modelValidate payload = .ok mutation ∧
      w.Plans (w.enriched mutation payload) commands := by
  unfold prepare at prepared
  obtain ⟨subscription, -, prepared⟩ := bind_ok_iff.mp prepared
  obtain ⟨mutation, valid, prepared⟩ := bind_ok_iff.mp prepared
  obtain ⟨plan, planned, translated⟩ := bind_ok_iff.mp prepared
  rw [planFor_stub] at planned
  cases planned
  exact ⟨mutation, mapError_ok_iff.mp valid,
    plans_of_translated (m := w.enriched mutation payload) (mapError_ok_iff.mp translated)⟩

/-- What is authorised, valid and translated is published. -/
theorem pickUp_of_translated {record : Record} {commands : List (CommandPayload w.runtime.unicode)}
    (decoded : decode w.toCommandWorker record = .ok (some payload))
    (named : nameEvent w.toCommandWorker
      (injectLicenseKey w.toCommandWorker payload record.headers) = .ok ())
    (authorized : authorize w.runtime w.gatekeeper c.cache c.now
      (injectLicenseKey w.toCommandWorker payload record.headers) = .ok subscription)
    (valid : w.modelValidate (injectLicenseKey w.toCommandWorker payload record.headers) =
      .ok mutation)
    (translated : translatePlan w.runtime.unicode w.texts mutation
      (stubPlan w.settings w.formatG (w.enriched mutation
        (injectLicenseKey w.toCommandWorker payload record.headers)) subscription c.fresh)
      subscription w.settings (correlationID w.toCommandWorker record c.correlation) c.issuedAt =
        .ok commands) :
    pickUp w.toCommandWorker c.cache (w.outcomes c) record = .ok (.publishing commands) := by
  have prepared : prepare w.toCommandWorker c.cache (w.outcomes c)
      (injectLicenseKey w.toCommandWorker payload record.headers)
      (correlationID w.toCommandWorker record (w.outcomes c).correlation) = .ok commands :=
    bind_ok_iff.mpr ⟨subscription, authorized, bind_ok_iff.mpr ⟨mutation, mapError_ok_iff.mpr valid,
      bind_ok_iff.mpr ⟨_, mapError_ok_iff.mpr planFor_stub, mapError_ok_iff.mpr translated⟩⟩⟩
  unfold pickUp
  rw [decoded]
  dsimp only [Except.bind]
  rw [named]
  dsimp only
  rw [prepared]

/-- A record whose commands are sent holds a mutation, and they are its plan's. -/
theorem pickUp_plans {record : Record} {commands : List (CommandPayload w.runtime.unicode)}
    (picked : pickUp w.toCommandWorker c.cache (w.outcomes c) record =
      .ok (.publishing commands)) :
    ∃ m, w.mutationOf record = some m ∧ w.Plans m commands := by
  unfold pickUp at picked
  obtain ⟨decoded, body, picked⟩ := bind_ok_iff.mp picked
  cases decoded with
  | none =>
    obtain ⟨result, -, same⟩ := map_ok_iff.mp picked
    cases same
  | some payload =>
    obtain ⟨-, -, picked⟩ := bind_ok_iff.mp picked
    split at picked
    next prepared =>
      cases picked
      obtain ⟨mutation, valid, plans⟩ := prepare_plans prepared
      refine ⟨_, ?_, plans⟩
      unfold mutationOf
      rw [body]
      dsimp only
      rw [valid]
      rfl
    next =>
      obtain ⟨result, -, same⟩ := map_ok_iff.mp picked
      cases same

/-- A record that is settled without a send is not published. -/
theorem pickUp_settled {record : Record} {result : Handled w.runtime.unicode}
    (picked : pickUp w.toCommandWorker c.cache (w.outcomes c) record = .ok (.settled result))
    (commands : List (CommandPayload w.runtime.unicode)) : result ≠ .published commands := by
  unfold pickUp at picked
  obtain ⟨decoded, -, picked⟩ := bind_ok_iff.mp picked
  cases decoded with
  | none =>
    obtain ⟨dead, sent, same⟩ := map_ok_iff.mp picked
    cases same
    exact deadLetter_not_published sent commands
  | some payload =>
    obtain ⟨-, -, picked⟩ := bind_ok_iff.mp picked
    split at picked
    next => cases picked
    next raised refused =>
      obtain ⟨dead, sent, same⟩ := map_ok_iff.mp picked
      cases same
      cases raised with
      | license code message => exact deadLetter_not_published sent commands
      | permanent error => exact deadLetter_not_published sent commands
      | transient reason => cases sent
      | escaped exception => cases sent

end StubWorker

/-! ## Sends and crashes -/

/-- A record between two sends. -/
structure Flight (unicode : Unicode) where
  offset : Nat
  sent : List (CommandPayload unicode)
  remaining : List (CommandPayload unicode)

structure Closure (ι : Type) (unicode : Unicode) where
  /-- the commands topic -/
  topic : List (CommandPayload unicode)
  flight : ι → Option (Flight unicode)
  /-- the records `_handle` has returned for -/
  handled : List (Nat × Handled unicode)

/-- What becomes of one attempt to send. -/
inductive SendOutcome where
  | acknowledged
  /-- on the topic, but the acknowledgement was lost -/
  | unacknowledged
  | lost

inductive ClosureEvent (ι : Type) where
  /-- a record is delivered to a member, for the first time or again -/
  | deliver (i : ι) (offset : Nat) (circumstances : Circumstances)
  | send (i : ι) (outcome : SendOutcome)
  /-- the member crashes, or gives the record up after its attempts -/
  | crash (i : ι)

namespace Closure
variable {ι : Type} {unicode : Unicode}

def start : Closure ι unicode where
  topic := []
  flight _ := none
  handled := []

variable [DecidableEq ι]

/-- The next command was acknowledged. -/
def advance (s : Closure ι unicode) (i : ι) (offset : Nat) (sent : List (CommandPayload unicode))
    (command : CommandPayload unicode) (rest : List (CommandPayload unicode)) : Closure ι unicode :=
  if rest.isEmpty then
    { topic := s.topic ++ [command]
      flight := Function.update s.flight i none
      handled := (offset, .published (sent ++ [command])) :: s.handled }
  else
    { s with
      topic := s.topic ++ [command]
      flight := Function.update s.flight i (some ⟨offset, sent ++ [command], rest⟩) }

variable (w : StubWorker) (log : Nat → Option Record)

def step (s : Closure ι w.runtime.unicode) :
    ClosureEvent ι → Option (Closure ι w.runtime.unicode)
  | .deliver i offset c =>
    if (s.flight i).isSome then none
    else (log offset).map fun record =>
      match pickUp w.toCommandWorker c.cache (w.outcomes c) record with
      | .ok (.settled result) => { s with handled := (offset, result) :: s.handled }
      | .ok (.publishing commands) =>
        { s with flight := Function.update s.flight i (some ⟨offset, [], commands⟩) }
      | .error _ => s
  | .send i outcome =>
    match s.flight i with
    | some ⟨offset, sent, command :: rest⟩ =>
      -- a command that cannot be rendered is never sent
      if (w.toJSONBytes command).isOk = false then none
      else match outcome with
        | .acknowledged => some (s.advance i offset sent command rest)
        | .unacknowledged => some { s with topic := s.topic ++ [command] }
        | .lost => some s
    | _ => none
  | .crash i => some { s with flight := Function.update s.flight i none }

end Closure

/-! ## What is on the topic -/

namespace StubWorker
variable (w : StubWorker) (log : Nat → Option Record)

/-- The record at the offset holds the mutation. -/
def Holds (offset : Nat) (m : EnrichedContextPayload) : Prop :=
  ∃ record, log offset = some record ∧ w.mutationOf record = some m

/-- A command of the plan of a mutation of the log. -/
def Lawful (command : CommandPayload w.runtime.unicode) : Prop :=
  ∃ offset m, w.Holds log offset m ∧ command.commandID ∈ w.planIDs m ∧
    ∃ index, Placed m.eventID index command

variable {w log}

theorem Plans.lawful {offset : Nat} {m : EnrichedContextPayload}
    {commands : List (CommandPayload w.runtime.unicode)} (plans : w.Plans m commands)
    (holds : w.Holds log offset m) {command : CommandPayload w.runtime.unicode}
    (member : command ∈ commands) : w.Lawful log command := by
  refine ⟨offset, m, holds, ?_, plans.placed command member⟩
  rw [← plans.ids]
  exact List.mem_map_of_mem member

end StubWorker

/-- The commands sent so far are on the topic, and with the others they are a plan. -/
structure Flight.Ok (w : StubWorker) (log : Nat → Option Record)
    (topic : List (CommandPayload w.runtime.unicode)) (f : Flight w.runtime.unicode) : Prop where
  plans : ∃ m, w.Holds log f.offset m ∧ w.Plans m (f.sent ++ f.remaining)
  sent : ∀ command ∈ f.sent, command ∈ topic

namespace Closure
variable {ι : Type}

/-- The distinct ids of an event's commands. -/
def ids {unicode : Unicode} (s : Closure ι unicode) (eventID : String) : Set CommandID :=
  { id | ∃ command ∈ s.topic, command.sourceEventID = eventID ∧ command.commandID = id }

/-- Only commands of plans are on the topic; of the records in hand, each one sent so far,
and of those handled by publication, every one. -/
structure Invariant (w : StubWorker) (log : Nat → Option Record)
    (s : Closure ι w.runtime.unicode) : Prop where
  topic : ∀ command ∈ s.topic, w.Lawful log command
  flight : ∀ i f, s.flight i = some f → f.Ok w log s.topic
  handled : ∀ offset commands, (offset, .published commands) ∈ s.handled →
    ∃ m, w.Holds log offset m ∧ w.Plans m commands ∧ ∀ command ∈ commands, command ∈ s.topic

variable {w : StubWorker} {log : Nat → Option Record} {s next : Closure ι w.runtime.unicode}

theorem invariant_start : Invariant w log (start : Closure ι w.runtime.unicode) where
  topic command never := absurd never List.not_mem_nil
  flight i f never := by cases never
  handled offset commands never := absurd never List.not_mem_nil

/-- A lawful command may come to the topic at any time. -/
theorem Invariant.grown (inv : Invariant w log s) {command : CommandPayload w.runtime.unicode}
    (lawful : w.Lawful log command) : Invariant w log { s with topic := s.topic ++ [command] } where
  topic other member := by
    rcases List.mem_append.mp member with before | last
    · exact inv.topic other before
    · rw [List.mem_singleton.mp last]
      exact lawful
  flight i f held :=
    have ok := inv.flight i f held
    ⟨ok.plans, fun other sent => List.mem_append_left _ (ok.sent other sent)⟩
  handled offset commands member := by
    obtain ⟨m, holds, plans, there⟩ := inv.handled offset commands member
    exact ⟨m, holds, plans, fun other inside => List.mem_append_left _ (there other inside)⟩

theorem Invariant.settled (inv : Invariant w log s) {offset : Nat}
    {result : Handled w.runtime.unicode}
    (published : ∀ commands, result = .published commands →
      ∃ m, w.Holds log offset m ∧ w.Plans m commands ∧ ∀ command ∈ commands, command ∈ s.topic) :
    Invariant w log { s with handled := (offset, result) :: s.handled } where
  topic := inv.topic
  flight := inv.flight
  handled offset' commands member := by
    rcases List.mem_cons.mp member with first | before
    · cases first
      exact published commands rfl
    · exact inv.handled offset' commands before

variable [DecidableEq ι]

/-- A member takes something in hand, or lets go of it. -/
theorem Invariant.setFlight (inv : Invariant w log s) (i : ι) {f : Option (Flight w.runtime.unicode)}
    (ok : ∀ held, f = some held → held.Ok w log s.topic) :
    Invariant w log { s with flight := Function.update s.flight i f } where
  topic := inv.topic
  flight j held there := by
    dsimp only at there
    rw [Function.update_apply] at there
    split at there
    next => exact ok held there
    next => exact inv.flight j held there
  handled := inv.handled

theorem Invariant.advance (inv : Invariant w log s) {i : ι} {offset : Nat}
    {sent rest : List (CommandPayload w.runtime.unicode)} {command : CommandPayload w.runtime.unicode}
    (held : s.flight i = some ⟨offset, sent, command :: rest⟩) :
    Invariant w log (s.advance i offset sent command rest) := by
  obtain ⟨⟨m, holds, plans⟩, there⟩ := inv.flight i _ held
  have whole : sent ++ command :: rest = (sent ++ [command]) ++ rest := by simp
  have lawful : w.Lawful log command :=
    plans.lawful holds (List.mem_append_right sent List.mem_cons_self)
  have arrived : ∀ other ∈ sent ++ [command], other ∈ s.topic ++ [command] := by
    intro other member
    rcases List.mem_append.mp member with before | last
    · exact List.mem_append_left _ (there other before)
    · exact List.mem_append_right _ last
  have grown := inv.grown lawful
  unfold Closure.advance
  split
  next last =>
    have all : w.Plans m (sent ++ [command]) := by
      rwa [whole, List.isEmpty_iff.mp last, List.append_nil] at plans
    refine (grown.setFlight i (f := none) nofun).settled fun commands same => ?_
    cases same
    exact ⟨m, holds, all, arrived⟩
  next =>
    refine grown.setFlight i fun taken same => ?_
    cases same
    rw [whole] at plans
    exact ⟨⟨m, holds, plans⟩, arrived⟩

/-- What one step preserves. -/
theorem Invariant.step {event : ClosureEvent ι} (inv : Invariant w log s)
    (stepped : s.step w log event = some next) : Invariant w log next := by
  cases event with
  | deliver i offset c =>
    simp only [Closure.step] at stepped
    split at stepped
    next => cases stepped
    next =>
      obtain ⟨record, held, same⟩ := Option.map_eq_some_iff.mp stepped
      cases picked : pickUp w.toCommandWorker c.cache (w.outcomes c) record with
      | error raised =>
        rw [picked] at same
        cases same
        exact inv
      | ok up =>
        rw [picked] at same
        cases up with
        | settled result =>
          cases same
          exact inv.settled fun commands published =>
            absurd published (StubWorker.pickUp_settled picked commands)
        | publishing commands =>
          cases same
          obtain ⟨m, found, plans⟩ := StubWorker.pickUp_plans picked
          refine inv.setFlight i fun taken same => ?_
          cases same
          exact ⟨⟨m, ⟨record, held, found⟩, plans⟩, fun command never =>
            absurd never List.not_mem_nil⟩
  | send i outcome =>
    simp only [Closure.step] at stepped
    split at stepped
    next offset sent command rest held =>
      split at stepped
      next => cases stepped
      next =>
        cases outcome with
        | acknowledged =>
          cases stepped
          exact inv.advance held
        | unacknowledged =>
          cases stepped
          obtain ⟨m, holds, plans⟩ := (inv.flight i _ held).plans
          exact inv.grown (plans.lawful holds (List.mem_append_right sent List.mem_cons_self))
        | lost =>
          cases stepped
          exact inv
    next => cases stepped
  | crash i =>
    cases stepped
    exact inv.setFlight i nofun

theorem Invariant.run {events : List (ClosureEvent ι)} (inv : Invariant w log s)
    (ran : Library.run (Closure.step w log) s events = some next) : Invariant w log next :=
  run_preserves (Closure.step w log) (Invariant w log) (fun _ _ _ inv stepped => inv.step stepped)
    events s next inv ran

end Closure

/-! ## Effectively once -/

/-- The records of the log with the event's id hold one mutation. -/
def SingleMutation (w : StubWorker) (log : Nat → Option Record) (eventID : String)
    (m : EnrichedContextPayload) : Prop :=
  m.eventID = eventID ∧ ∀ offset m', w.Holds log offset m' → m'.eventID = eventID → m' = m

/-- A record of the mutation was handled by publishing its commands. -/
def PublishedOnce (w : StubWorker) (log : Nat → Option Record) {ι : Type}
    (s : Closure ι w.runtime.unicode) (m : EnrichedContextPayload) : Prop :=
  ∃ offset commands, w.Holds log offset m ∧ (offset, .published commands) ∈ s.handled

section
variable {ι : Type} {w : StubWorker} {log : Nat → Option Record} {s : Closure ι w.runtime.unicode}
  {eventID : String} {m : EnrichedContextPayload}

theorem Closure.Invariant.ids_subset (inv : s.Invariant w log)
    (single : SingleMutation w log eventID m) : ∀ id ∈ s.ids eventID, id ∈ w.planIDs m := by
  rintro id ⟨command, member, event, rfl⟩
  obtain ⟨offset, m', holds, planned, index, placed⟩ := inv.topic command member
  rw [← single.2 offset m' holds (placed.event.symm.trans event)]
  exact planned

theorem Closure.Invariant.planIDs_subset (inv : s.Invariant w log)
    (single : SingleMutation w log eventID m) (published : PublishedOnce w log s m) :
    ∀ id ∈ w.planIDs m, id ∈ s.ids eventID := by
  obtain ⟨offset, commands, ⟨record, held, found⟩, member⟩ := published
  obtain ⟨m', ⟨record', held', found'⟩, plans, there⟩ := inv.handled offset commands member
  rw [held] at held'
  cases held'
  rw [found] at found'
  cases found'
  intro id planned
  rw [← plans.ids] at planned
  obtain ⟨command, inside, rfl⟩ := List.mem_map.mp planned
  obtain ⟨index, placed⟩ := plans.placed command inside
  exact ⟨command, there command inside, placed.event.trans single.1, rfl⟩

/-- Lawful commands have one id exactly when they have one event, place and action. -/
theorem lawful_id_iff {c d : CommandPayload w.runtime.unicode} (first : w.Lawful log c)
    (second : w.Lawful log d) :
    c.commandID = d.commandID ↔ c.sourceEventID = d.sourceEventID ∧ c.sequence = d.sequence ∧
      c.actionType = d.actionType := by
  obtain ⟨_, _, -, -, index, here⟩ := first
  obtain ⟨_, _, -, -, index', there⟩ := second
  rw [here.id, there.id, deterministicCommandID_inj, here.event, there.event, here.sequence,
    there.sequence, Int.natCast_inj]

end

/-! ## A pump whose subscription expires -/

/-- A worker under an enterprise subscription, for which every record holds the pump's
breach. -/
def pumpWorker : StubWorker where
  toCommandWorker := { bareWorker with
    gatekeeper := {
      licenseHeader := "X-License-Key"
      entitledPlans := [Text.ofString "ENTERPRISE"]
      defaultKey := some "oo-live-enterprise-demo-key" }
    modelValidate := fun _ => .ok Bridge.pumpMutation
    toJSONBytes := fun _ => .ok ByteArray.empty }
  formatG _ := "9.5"
  payloadContext _ := {
    breachCount := 1
    rule := {
      ruleID := "vibration-high"
      threshold := 7.1
      unit := some "mm/s"
      observedValue := 9.5
      exceededPct := 33.8 }
    telemetrySnapshot := { readings := [], complete := true }
    ontologyContext := {
      assetID := "PUMP-221"
      assetName := "Feed pump"
      site := "Rotterdam"
      criticality := "HIGH"
      parentSystems := []
      components := ["Drive-end bearing"]
      assignedOperators := []
      maintenanceWindow := none } }

def pumpSubscription : Subscription :=
  { Bridge.enterprise with
    keyDigest := Text.ofString "oo-live-enterprise-demo-key"
    expiresAt := .aware 1 }

def pumpCircumstances (now : Int) : Circumstances where
  cache := LicenseCache.fresh ⟨[pumpSubscription]⟩ 300 1024
  started := true
  now := now
  issuedAt := now
  correlation := Text.ofString "req-1"
  fresh := "0123456789abcdef"

def pumpRecord : Record where
  value := some "\x7b\x7d".toUTF8

def pumpLog (offset : Nat) : Option Record := if offset = 0 then some pumpRecord else none

def pumpPayload : EnrichedContextPayload := pumpWorker.enriched Bridge.pumpMutation []

theorem decode_pumpRecord : decode pumpWorker.toCommandWorker pumpRecord = .ok (some []) := by
  unfold decode
  dsimp only [pumpRecord]
  rw [if_neg (by decide +kernel), fromUTF8?_toUTF8]
  rfl

theorem pump_authorized : authorize pumpWorker.runtime pumpWorker.gatekeeper
    (pumpCircumstances 0).cache 0 [] = .ok pumpSubscription := by rfl

theorem pump_expired : pickUp pumpWorker.toCommandWorker (pumpCircumstances 2).cache
    (pumpWorker.outcomes (pumpCircumstances 2)) pumpRecord =
      .ok (.settled (.deadLettered "license_license_expired"
        (pumpSubscription.expiredMessage pumpWorker.runtime))) := by
  unfold pickUp
  rw [decode_pumpRecord]
  rfl

/-- A derating and an inspection. -/
theorem pump_planIDs : pumpWorker.planIDs pumpPayload =
    [deterministicCommandID "evt_1" 1 .shiftSpeed, deterministicCommandID "evt_1" 2 .inspect] := by
  decide +kernel

theorem pump_translated : ∃ commands, translatePlan pumpWorker.runtime.unicode pumpWorker.texts
    Bridge.pumpMutation (stubPlan pumpWorker.settings pumpWorker.formatG pumpPayload
      pumpSubscription "0123456789abcdef") pumpSubscription pumpWorker.settings
    (Text.ofString "req-1") 0 = .ok commands := by
  have named : Legible (Text.ofString ("plan_stub_" ++ "0123456789abcdef")) :=
    ⟨_, rfl, 'p', by simp, by decide +kernel⟩
  have spoken : ∀ planned ∈ stubCommands pumpWorker.settings pumpWorker.formatG pumpPayload,
      Spoken pumpWorker.runtime.unicode planned :=
    fun planned member => (stubCommands_worded planned member).spoken _
  exact (translatePlan_exists named spoken).mpr ⟨Bridge.enterprise_legible.1,
    Bridge.enterprise_legible.2, Bridge.request_legible, by decide +kernel⟩

theorem pump_picked : ∃ commands, pickUp pumpWorker.toCommandWorker (pumpCircumstances 0).cache
    (pumpWorker.outcomes (pumpCircumstances 0)) pumpRecord = .ok (.publishing commands) := by
  obtain ⟨commands, translated⟩ := pump_translated
  exact ⟨commands, StubWorker.pickUp_of_translated decode_pumpRecord rfl pump_authorized rfl
    translated⟩

theorem mutationOf_pumpRecord : pumpWorker.mutationOf pumpRecord = some pumpPayload := by
  unfold StubWorker.mutationOf
  rw [decode_pumpRecord]
  rfl

theorem pump_two_commands : ∃ first second,
    pickUp pumpWorker.toCommandWorker (pumpCircumstances 0).cache
      (pumpWorker.outcomes (pumpCircumstances 0)) pumpRecord = .ok (.publishing [first, second]) ∧
    pumpWorker.Plans pumpPayload [first, second] := by
  obtain ⟨commands, picked⟩ := pump_picked
  obtain ⟨m, found, plans⟩ := StubWorker.pickUp_plans picked
  rw [mutationOf_pumpRecord] at found
  cases found
  have two := congrArg List.length plans.ids
  rw [pump_planIDs, List.length_map] at two
  obtain ⟨first, second, rfl⟩ := List.length_eq_two.mp two
  exact ⟨first, second, picked, plans⟩

/-- The first command is sent, the member crashes, and the subscription has expired when the
record comes back. -/
theorem pump_interrupted {first second : CommandPayload pumpWorker.runtime.unicode}
    (picked : pickUp pumpWorker.toCommandWorker (pumpCircumstances 0).cache
      (pumpWorker.outcomes (pumpCircumstances 0)) pumpRecord =
        .ok (.publishing [first, second])) :
    ∃ s, run (Closure.step pumpWorker pumpLog) (Closure.start : Closure Unit _)
        [.deliver () 0 (pumpCircumstances 0), .send () .acknowledged, .crash (),
          .deliver () 0 (pumpCircumstances 2)] = some s ∧ s.topic = [first] ∧
      s.handled = [(0, .deadLettered "license_license_expired"
        (pumpSubscription.expiredMessage pumpWorker.runtime))] := by
  have rendered : ∀ command, (pumpWorker.toJSONBytes command).isOk = true := fun _ => rfl
  have here : pumpLog 0 = some pumpRecord := rfl
  simp [run_cons, Closure.step, Closure.start, here, picked, pump_expired, Closure.advance, rendered]

/-- The member crashes after the first command, and the record is handled when it comes
back. -/
theorem pump_completed {first second : CommandPayload pumpWorker.runtime.unicode}
    (picked : pickUp pumpWorker.toCommandWorker (pumpCircumstances 0).cache
      (pumpWorker.outcomes (pumpCircumstances 0)) pumpRecord =
        .ok (.publishing [first, second])) :
    ∃ s, run (Closure.step pumpWorker pumpLog) (Closure.start : Closure Unit _)
        [.deliver () 0 (pumpCircumstances 0), .send () .acknowledged, .crash (),
          .deliver () 0 (pumpCircumstances 0), .send () .unacknowledged, .send () .acknowledged,
          .send () .acknowledged] = some s ∧
      s.handled = [(0, .published [first, second])] := by
  have rendered : ∀ command, (pumpWorker.toJSONBytes command).isOk = true := fun _ => rfl
  have here : pumpLog 0 = some pumpRecord := rfl
  simp [run_cons, Closure.step, Closure.start, here, picked, Closure.advance, rendered]

theorem pump_single : SingleMutation pumpWorker pumpLog "evt_1" pumpPayload := by
  refine ⟨rfl, ?_⟩
  rintro offset m ⟨record, held, found⟩ -
  unfold pumpLog at held
  split at held
  · cases held
    rw [mutationOf_pumpRecord] at found
    exact (Option.some.inj found).symm
  · cases held

end OpenOntology.Worker
