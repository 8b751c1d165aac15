import OpenOntology.Worker.Handle

/-!
# What ends the consumer loop

A record is survived when its commands are published, or it is handed to the dead-letter
topic, or a transient failure leaves it where it is. Every stage that decodes, encodes or
compares has inputs outside of what its handlers name; a record is survived exactly when
it meets none of them.
-/
namespace OpenOntology.Worker

open Python Library

/-- The record was published or dead-lettered, or it stays for a redelivery. -/
def Survives {unicode : Unicode} (result : Except Raised (Handled unicode)) : Prop :=
  (∃ commands, result = .ok (.published commands)) ∨
    (∃ reason detail, result = .ok (.deadLettered reason detail)) ∨
      ∃ reason, result = .error (.transient reason)

/-- What the headers of a dead letter can carry. -/
def Sendable (detail : Text) : Prop := Text.encodes (detail.take 900) = true

theorem sendable_ofString (s : String) : Sendable (Text.ofString s) := by
  unfold Sendable Text.encodes
  rw [List.all_eq_true]
  intro c member
  obtain ⟨character, -, rfl⟩ := List.mem_map.mp (List.mem_of_mem_take member)
  rw [CodePoint.char?_ofChar]
  rfl

section
variable {w : CommandWorker} {outcomes : Outcomes}

theorem not_survives_escaped {unicode : Unicode} (exception : Escape) :
    ¬Survives (.error (.escaped exception) : Except Raised (Handled unicode)) := by
  rintro (⟨_, same⟩ | ⟨_, _, same⟩ | ⟨_, same⟩) <;> cases same

theorem deadLetter_survives (reason : String) (detail : Text) :
    Survives (deadLetter w true reason detail) ↔ Sendable detail := by
  unfold deadLetter
  rw [if_neg (by decide)]
  by_cases sendable : Sendable detail
  · have encodes : Text.encodes (detail.take 900) = true := sendable
    rw [if_neg (by rw [encodes]; decide)]
    exact ⟨fun _ => sendable, fun _ => Or.inr (Or.inl ⟨reason, detail, rfl⟩)⟩
  · rw [if_pos (Bool.eq_false_iff.mpr sendable)]
    exact ⟨fun survives => absurd survives (not_survives_escaped _),
      fun encodes => absurd encodes sendable⟩

/-! ## Publication -/

/-- An attempt to send the command in its place is acknowledged. -/
def Acknowledged (w : CommandWorker) (outcomes : Outcomes) (place : Nat) : Prop :=
  ∃ attempt, 1 ≤ attempt ∧ attempt ≤ w.interceptor.maxAttempts ∧
    outcomes.acknowledged place attempt = true

def Rendered (w : CommandWorker) (command : CommandPayload w.runtime.unicode) : Prop :=
  ∃ bytes, w.toJSONBytes command = .ok bytes

theorem publish_unrendered {command : CommandPayload w.runtime.unicode} (acks : Nat → Bool)
    (unrendered : ¬Rendered w command) :
    ∃ exception, publish w true command acks = .error (.escaped exception) := by
  cases bytes : w.toJSONBytes command with
  | ok rendered => exact absurd ⟨rendered, bytes⟩ unrendered
  | error exception =>
    refine ⟨exception, ?_⟩
    have first : send w command acks 1 = .error (.escaped exception) := by
      unfold send
      rw [bytes]
    unfold publish Library.retry
    rw [if_neg (by decide), retryFrom_of_final _ first rfl]

theorem publish_rendered {command : CommandPayload w.runtime.unicode} (acks : Nat → Bool)
    (rendered : Rendered w command) :
    (publish w true command acks = .ok () ∧
        ∃ n, 1 ≤ n ∧ n ≤ w.interceptor.maxAttempts ∧ acks n = true) ∨
      (publish w true command acks = .error (.transient "command_publish_failed") ∧
        ∀ n, 1 ≤ n → n ≤ w.interceptor.maxAttempts → acks n = false) := by
  obtain ⟨bytes, rendered⟩ := rendered
  have sends : ∀ n, send w command acks n = if acks n then .ok () else .error .declared := by
    intro n
    unfold send
    rw [rendered]
  obtain ⟨i, decides, same⟩ : ∃ i,
      Decides SendError.again (send w command acks) 1 (w.interceptor.maxAttempts - 1) i ∧
        Library.retry SendError.again (send w command acks) w.interceptor.maxAttempts =
          send w command acks (1 + i) := retry_decides _
  have attempts := w.interceptor.attempts.1
  have allowed := decides.allowed
  unfold publish
  rw [if_neg (by decide), same, sends]
  cases acked : acks (1 + i) with
  | true => exact Or.inl ⟨rfl, 1 + i, by omega, by omega, acked⟩
  | false =>
    refine Or.inr ⟨rfl, fun n first last => ?_⟩
    have declared : send w command acks (1 + i) = .error .declared := by
      rw [sends, acked]
      rfl
    have spent := decides.last .declared declared rfl
    by_cases here : n = 1 + i
    · rw [here]
      exact acked
    · obtain ⟨e, failed, -⟩ := decides.failed (n - 1) (by omega)
      rw [sends, show 1 + (n - 1) = n by omega] at failed
      split at failed
      next => cases failed
      next refused => exact Bool.eq_false_iff.mpr refused

/-- Publishing escapes exactly at a command that cannot be rendered and whose predecessors
are all acknowledged. -/
theorem publishAll_escapes_iff (started : outcomes.started = true)
    (commands : List (CommandPayload w.runtime.unicode)) (place : Nat) :
    (∃ exception, publishAll w outcomes place commands = .error (.escaped exception)) ↔
      ∃ i command, commands[i]? = some command ∧ ¬Rendered w command ∧
        ∀ j < i, Acknowledged w outcomes (place + j) := by
  induction commands generalizing place with
  | nil => simp [publishAll]
  | cons command rest ih =>
    unfold publishAll
    rw [started]
    by_cases rendered : Rendered w command
    · rcases publish_rendered (outcomes.acknowledged place) rendered with
        ⟨published, acked⟩ | ⟨failed, refused⟩
      · rw [published]
        refine (ih (place + 1)).trans ⟨?_, ?_⟩
        · rintro ⟨i, later, at_i, unrendered, before⟩
          refine ⟨i + 1, later, at_i, unrendered, fun j below => ?_⟩
          cases j with
          | zero => exact acked
          | succ j =>
            have earlier := before j (by omega)
            rwa [Nat.add_assoc, Nat.add_comm 1 j] at earlier
        · rintro ⟨i, later, at_i, unrendered, before⟩
          cases i with
          | zero =>
            cases at_i
            exact absurd rendered unrendered
          | succ i =>
            refine ⟨i, later, at_i, unrendered, fun j below => ?_⟩
            have earlier := before (j + 1) (by omega)
            rwa [Nat.add_assoc, Nat.add_comm 1 j]
      · rw [failed]
        constructor
        · rintro ⟨exception, same⟩
          cases same
        · rintro ⟨i, later, at_i, unrendered, before⟩
          cases i with
          | zero =>
            cases at_i
            exact absurd rendered unrendered
          | succ i =>
            obtain ⟨n, first, last, acked⟩ := before 0 (by omega)
            rw [Nat.add_zero, refused n first last] at acked
            cases acked
    · obtain ⟨exception, escaped⟩ := publish_unrendered (outcomes.acknowledged place) rendered
      rw [escaped]
      refine ⟨fun _ => ⟨0, command, rfl, rendered, ?_⟩, fun _ => ⟨exception, rfl⟩⟩
      intro j below
      exact absurd below (Nat.not_lt_zero j)

/-- Otherwise it ends in a transient failure or in success. -/
theorem publishAll_error (started : outcomes.started = true)
    (commands : List (CommandPayload w.runtime.unicode)) (place : Nat) {raised : Raised}
    (failed : publishAll w outcomes place commands = .error raised) :
    (∃ reason, raised = .transient reason) ∨ ∃ exception, raised = .escaped exception := by
  induction commands generalizing place with
  | nil => cases failed
  | cons command rest ih =>
    unfold publishAll at failed
    rw [started] at failed
    by_cases rendered : Rendered w command
    · rcases publish_rendered (outcomes.acknowledged place) rendered with
        ⟨published, -⟩ | ⟨refused, -⟩
      · rw [published] at failed
        exact ih (place + 1) failed
      · rw [refused] at failed
        cases failed
        exact Or.inl ⟨_, rfl⟩
    · obtain ⟨exception, escaped⟩ := publish_unrendered (outcomes.acknowledged place) rendered
      rw [escaped] at failed
      cases failed
      exact Or.inr ⟨exception, rfl⟩

/-! ## Authorisation -/

/-- The key of the payload finds the subscription. -/
def Found (w : CommandWorker) (cache : LicenseCache) (payload : Members) (s : Subscription) : Prop :=
  ∃ key digest, extractKey w.runtime w.gatekeeper payload = some key ∧
    keyDigest w.runtime key = .ok digest ∧ cache.registry.lookup digest = some s

theorem keyDigest_error_iff {key : Text} {raised : Raised} :
    keyDigest w.runtime key = .error raised ↔
      raised = .escaped .unicodeEncodeError ∧ Text.encodes key.strip = false := by
  unfold keyDigest
  rw [← Text.toString?_isSome]
  cases Text.toString? key.strip with
  | none => simp [eq_comm]
  | some plaintext => simp

theorem entitle_error {s : Subscription} {now : Int} {raised : Raised}
    (refused : entitle w.runtime w.gatekeeper now s = .error raised) :
    (∃ code message, raised = .license code message) ∨
      raised = .escaped .typeError ∧ s.active = true ∧ ∃ t, s.expiresAt = .naive t := by
  unfold entitle at refused
  split at refused
  next =>
    cases refused
    exact Or.inl ⟨_, _, rfl⟩
  next active =>
    unfold Subscription.isExpired at refused
    cases expiry : s.expiresAt with
    | naive t =>
      rw [expiry] at refused
      cases refused
      exact Or.inr ⟨rfl, Bool.not_eq_false _ ▸ active, t, rfl⟩
    | aware t =>
      rw [expiry] at refused
      simp only [Except.bind] at refused
      split at refused
      next =>
        cases refused
        exact Or.inl ⟨_, _, rfl⟩
      next =>
        split at refused
        next =>
          cases refused
          exact Or.inl ⟨_, _, rfl⟩
        next => cases refused

theorem entitle_naive {s : Subscription} {now : Int} (active : s.active = true) {t : Int}
    (naive : s.expiresAt = .naive t) :
    entitle w.runtime w.gatekeeper now s = .error (.escaped .typeError) := by
  unfold entitle Subscription.isExpired
  rw [if_neg (by rw [active]; decide), naive]
  rfl

variable {cache : LicenseCache} {payload : Members}

/-- Authorisation refuses the payload, or raises what nothing handles: the key cannot be
encoded, or the expiry of the subscription it finds belongs to no time zone. -/
theorem authorize_error {raised : Raised}
    (refused : authorize w.runtime w.gatekeeper cache outcomes.now payload = .error raised) :
    (∃ code message, raised = .license code message) ∨
      (∃ exception, raised = .escaped exception) ∧
        ((∃ key, extractKey w.runtime w.gatekeeper payload = some key ∧
            Text.encodes key.strip = false) ∨
          ∃ s, Found w cache payload s ∧ s.active = true ∧ ∃ t, s.expiresAt = .naive t) := by
  unfold authorize at refused
  cases presented : extractKey w.runtime w.gatekeeper payload with
  | none =>
    rw [presented] at refused
    cases refused
    exact Or.inl ⟨_, _, rfl⟩
  | some key =>
    rw [presented] at refused
    dsimp only at refused
    cases digested : keyDigest w.runtime key with
    | error e =>
      rw [digested] at refused
      cases refused
      obtain ⟨rfl, unencodable⟩ := keyDigest_error_iff.mp digested
      exact Or.inr ⟨⟨_, rfl⟩, Or.inl ⟨key, rfl, unencodable⟩⟩
    | ok digest =>
      rw [digested] at refused
      simp only [Except.bind, LicenseCache.resolve_fst] at refused
      cases held : cache.registry.lookup digest with
      | none =>
        rw [held] at refused
        cases refused
        exact Or.inl ⟨_, _, rfl⟩
      | some s =>
        rw [held] at refused
        rcases entitle_error refused with license | ⟨rfl, active, naive⟩
        · exact Or.inl license
        · exact Or.inr ⟨⟨_, rfl⟩, Or.inr ⟨s, ⟨key, digest, presented, digested, held⟩, active, naive⟩⟩

theorem authorize_unencodable {key : Text}
    (presented : extractKey w.runtime w.gatekeeper payload = some key)
    (unencodable : Text.encodes key.strip = false) :
    authorize w.runtime w.gatekeeper cache outcomes.now payload =
      .error (.escaped .unicodeEncodeError) := by
  unfold authorize
  rw [presented]
  dsimp only
  rw [keyDigest_error_iff.mpr ⟨rfl, unencodable⟩]
  rfl

theorem authorize_naive {s : Subscription} (found : Found w cache payload s)
    (active : s.active = true) {t : Int} (naive : s.expiresAt = .naive t) :
    authorize w.runtime w.gatekeeper cache outcomes.now payload = .error (.escaped .typeError) := by
  obtain ⟨key, digest, presented, digested, held⟩ := found
  unfold authorize
  rw [presented]
  dsimp only
  rw [digested]
  simp only [Except.bind, LicenseCache.resolve_fst, held]
  exact entitle_naive active naive

/-! ## The pipeline -/

/-- The planner raises only what it declares. -/
def Outcomes.Declared (outcomes : Outcomes) : Prop :=
  ∀ plan, outcomes.plan = some plan → ∀ mutation subscription payload correlation attempt exception,
    plan mutation subscription payload correlation attempt ≠ .error (.escaped exception)

theorem planFor_declared (declared : outcomes.Declared) {mutation : MutationEnvelope}
    {subscription : Subscription} {correlation : Text} (exception : Escape) :
    planFor w outcomes mutation subscription payload correlation ≠ .error (.escaped exception) := by
  unfold planFor route
  cases client : outcomes.plan with
  | none => exact fun same => by cases same
  | some plan =>
    intro same
    simp only [Option.map_some] at same
    obtain ⟨i, -, outcome⟩ := retry_decides w.interceptor.maxAttempts
    rw [outcome] at same
    exact declared plan client mutation subscription payload correlation _ exception same

/-- What ends the loop while the pipeline is at work on a payload. -/
inductive Fatal (w : CommandWorker) (cache : LicenseCache) (outcomes : Outcomes) (payload : Members)
    (correlation : Text) : Prop where
  /-- the presented key cannot be encoded -/
  | key {key : Text} (presented : extractKey w.runtime w.gatekeeper payload = some key)
      (unencodable : Text.encodes key.strip = false)
  /-- the expiry of the subscription that is found belongs to no time zone -/
  | expiry {s : Subscription} {t : Int} (found : Found w cache payload s) (active : s.active = true)
      (naive : s.expiresAt = .naive t)
  /-- the text of the refusal cannot be encoded -/
  | refusal {code : String} {message : Text}
      (refused : authorize w.runtime w.gatekeeper cache outcomes.now payload =
        .error (.license code message))
      (unsendable : ¬Sendable message)
  | violation {s : Subscription} {text : Text}
      (authorized : authorize w.runtime w.gatekeeper cache outcomes.now payload = .ok s)
      (invalid : w.modelValidate payload = .error text)
      (unsendable : ¬Sendable (mutationInvalid text).message)
  | rejection {s : Subscription} {mutation : MutationEnvelope} {error : InterceptorError}
      (authorized : authorize w.runtime w.gatekeeper cache outcomes.now payload = .ok s)
      (valid : w.modelValidate payload = .ok mutation)
      (rejected : planFor w outcomes mutation s payload correlation = .error (.interceptor error))
      (permanent : error.permanent = true) (unsendable : ¬Sendable (rejectionMessage error))
  /-- a command whose predecessors are acknowledged cannot be rendered -/
  | rendering {s : Subscription} {mutation : MutationEnvelope} {plan : ActionPlan}
      {commands : List (CommandPayload w.runtime.unicode)} {i : Nat}
      {command : CommandPayload w.runtime.unicode}
      (authorized : authorize w.runtime w.gatekeeper cache outcomes.now payload = .ok s)
      (valid : w.modelValidate payload = .ok mutation)
      (planned : planFor w outcomes mutation s payload correlation = .ok plan)
      (translated : translatePlan w.runtime.unicode w.texts mutation plan s w.settings correlation
        outcomes.issuedAt = .ok commands)
      (at_i : commands[i]? = some command) (unrendered : ¬Rendered w command)
      (before : ∀ j < i, Acknowledged w outcomes j)

variable {correlation : Text}

theorem closeLoop_unauthorized {raised : Raised}
    (refused : authorize w.runtime w.gatekeeper cache outcomes.now payload = .error raised) :
    closeLoop w cache outcomes payload correlation = .error raised := by
  unfold closeLoop
  rw [refused]
  rfl

section
variable {s : Subscription}
  (authorized : authorize w.runtime w.gatekeeper cache outcomes.now payload = .ok s)
include authorized

theorem closeLoop_invalid {text : Text} (invalid : w.modelValidate payload = .error text) :
    closeLoop w cache outcomes payload correlation = .error (.permanent (mutationInvalid text)) := by
  unfold closeLoop
  rw [authorized, Except.bind, invalid]
  rfl

variable {mutation : MutationEnvelope} (valid : w.modelValidate payload = .ok mutation)
include valid

theorem closeLoop_unplanned {error : CallError}
    (failed : planFor w outcomes mutation s payload correlation = .error error) :
    closeLoop w cache outcomes payload correlation = .error (planFailure error) := by
  unfold closeLoop
  rw [authorized, Except.bind, valid]
  simp only [Except.mapError, Except.bind, failed]

variable {plan : ActionPlan} (planned : planFor w outcomes mutation s payload correlation = .ok plan)
include planned

theorem closeLoop_untranslated {error : PermanentMessageError}
    (refused : translatePlan w.runtime.unicode w.texts mutation plan s w.settings correlation
      outcomes.issuedAt = .error error) :
    closeLoop w cache outcomes payload correlation = .error (.permanent error) := by
  unfold closeLoop
  rw [authorized, Except.bind, valid]
  simp only [Except.mapError, Except.bind, planned, refused]

theorem closeLoop_translated {commands : List (CommandPayload w.runtime.unicode)}
    (translated : translatePlan w.runtime.unicode w.texts mutation plan s w.settings correlation
      outcomes.issuedAt = .ok commands) :
    closeLoop w cache outcomes payload correlation =
      (publishAll w outcomes 0 commands).map fun _ => commands := by
  unfold closeLoop
  rw [authorized, Except.bind, valid]
  simp only [Except.mapError, Except.bind, planned, translated]

end

/-- The errors of the translation are texts of the worker's own making. -/
theorem translatePlan_error {mutation : MutationEnvelope} {plan : ActionPlan} {s : Subscription}
    {error : PermanentMessageError}
    (refused : translatePlan w.runtime.unicode w.texts mutation plan s w.settings correlation
      outcomes.issuedAt = .error error) : Sendable error.message := by
  unfold translatePlan at refused
  cases steps : ((plan.commands.take w.settings.maxCommands).zipIdx 1).mapM fun entry =>
      translateStep w.runtime.unicode w.texts mutation plan s w.settings correlation
        outcomes.issuedAt entry.1 entry.2 with
  | error failure =>
    rw [steps] at refused
    cases refused
    obtain ⟨entry, -, failed⟩ := mapM_error steps
    unfold translateStep at failed
    split at failed
    next =>
      cases failed
      exact sendable_ofString _
    next =>
      split at failed
      next =>
        cases failed
        exact sendable_ofString _
      next =>
        dsimp only at failed
        split at failed
        next =>
          cases failed
          exact sendable_ofString _
        next => cases failed
  | ok commands =>
    rw [steps] at refused
    simp only [Except.bind] at refused
    split at refused
    next =>
      cases refused
      exact sendable_ofString _
    next => cases refused

theorem settle_fatal (started : outcomes.started = true)
    (fatal : Fatal w cache outcomes payload correlation) :
    ¬Survives (settle w outcomes.started (closeLoop w cache outcomes payload correlation)) := by
  rw [started]
  cases fatal with
  | key presented unencodable =>
    rw [closeLoop_unauthorized (authorize_unencodable presented unencodable)]
    exact not_survives_escaped _
  | expiry found active naive =>
    rw [closeLoop_unauthorized (authorize_naive found active naive)]
    exact not_survives_escaped _
  | refusal refused unsendable =>
    rw [closeLoop_unauthorized refused]
    exact fun survives => unsendable ((deadLetter_survives _ _).mp survives)
  | violation authorized invalid unsendable =>
    rw [closeLoop_invalid authorized invalid]
    exact fun survives => unsendable ((deadLetter_survives _ _).mp survives)
  | rejection authorized valid rejected permanent unsendable =>
    rw [closeLoop_unplanned authorized valid rejected, planFailure, if_pos permanent]
    exact fun survives => unsendable ((deadLetter_survives _ _).mp survives)
  | @rendering s mutation plan commands i command authorized valid planned translated at_i unrendered
      before =>
    obtain ⟨exception, escaped⟩ := (publishAll_escapes_iff started commands 0).mpr
      ⟨i, command, at_i, unrendered, fun j below => by
        rw [Nat.zero_add]
        exact before j below⟩
    rw [closeLoop_translated authorized valid planned translated, escaped]
    exact not_survives_escaped _

/-- A payload that meets none of them is published, dead-lettered or kept. -/
theorem settle_survives (started : outcomes.started = true) (declared : outcomes.Declared)
    (harmless : ¬Fatal w cache outcomes payload correlation) :
    Survives (settle w outcomes.started (closeLoop w cache outcomes payload correlation)) := by
  have sent : ∀ reason detail, (¬Sendable detail → Fatal w cache outcomes payload correlation) →
      Survives (deadLetter w true reason detail) := by
    intro reason detail fatal
    refine (deadLetter_survives reason detail).mpr ?_
    by_contra unsendable
    exact harmless (fatal unsendable)
  rw [started]
  cases authorized : authorize w.runtime w.gatekeeper cache outcomes.now payload with
  | error raised =>
    rw [closeLoop_unauthorized authorized]
    rcases authorize_error authorized with ⟨code, message, rfl⟩ | ⟨-, cause⟩
    · exact sent _ _ (Fatal.refusal authorized)
    · rcases cause with ⟨key, presented, unencodable⟩ | ⟨s, found, active, t, naive⟩
      · exact absurd (Fatal.key presented unencodable) harmless
      · exact absurd (Fatal.expiry found active naive) harmless
  | ok s =>
    cases valid : w.modelValidate payload with
    | error text =>
      rw [closeLoop_invalid authorized valid]
      exact sent _ _ (Fatal.violation authorized valid)
    | ok mutation =>
      cases planned : planFor w outcomes mutation s payload correlation with
      | error error =>
        rw [closeLoop_unplanned authorized valid planned]
        cases error with
        | escaped exception => exact absurd planned (planFor_declared declared exception)
        | interceptor error =>
          by_cases permanent : error.permanent = true
          · rw [planFailure, if_pos permanent]
            exact sent _ _ (Fatal.rejection authorized valid planned permanent)
          · rw [planFailure, if_neg permanent]
            exact Or.inr (Or.inr ⟨_, rfl⟩)
      | ok plan =>
        cases translated : translatePlan w.runtime.unicode w.texts mutation plan s w.settings
          correlation outcomes.issuedAt with
        | error error =>
          rw [closeLoop_untranslated authorized valid planned translated]
          exact (deadLetter_survives _ _).mpr (translatePlan_error translated)
        | ok commands =>
          rw [closeLoop_translated authorized valid planned translated]
          cases published : publishAll w outcomes 0 commands with
          | ok _ => exact Or.inl ⟨commands, rfl⟩
          | error raised =>
            rcases publishAll_error started commands 0 published with ⟨reason, rfl⟩ | ⟨e, rfl⟩
            · exact Or.inr (Or.inr ⟨reason, rfl⟩)
            · obtain ⟨i, command, at_i, unrendered, before⟩ :=
                (publishAll_escapes_iff started commands 0).mp ⟨e, published⟩
              refine absurd (Fatal.rendering authorized valid planned translated at_i unrendered ?_)
                harmless
              intro j below
              have acknowledged := before j below
              rwa [Nat.zero_add] at acknowledged

/-! ## The record -/

/-- What ends the loop on a record. -/
inductive FatalRecord (w : CommandWorker) (cache : LicenseCache) (outcomes : Outcomes)
    (record : Record) : Prop where
  /-- the document nests too deep, or holds an integer with too many digits -/
  | document {bytes : ByteArray} {document : String} (value : record.value = some bytes)
      (solid : bytes.isEmpty = false) (text : String.fromUTF8? bytes = some document)
      (limits : loads w.runtime.interpreter document = .error .tooDeep ∨
        loads w.runtime.interpreter document = .error .intTooLong)
  /-- the event's identifier nests too deep to be rendered -/
  | event {payload : Members} {value : PyJson} (decoded : decode w record = .ok (some payload))
      (named : field (injectLicenseKey w payload record.headers) "event_id" = some value)
      (container : ∀ text, value ≠ .str text)
      (nested : w.runtime.interpreter.strDepth < value.strDepth)
  | payload {payload : Members} (decoded : decode w record = .ok (some payload))
      (fatal : Fatal w cache outcomes (injectLicenseKey w payload record.headers)
        (correlationID w record outcomes.correlation))

theorem decode_error {record : Record} {raised : Raised} (refused : decode w record = .error raised) :
    (∃ exception, raised = .escaped exception) ∧ ∃ bytes document, record.value = some bytes ∧
      bytes.isEmpty = false ∧ String.fromUTF8? bytes = some document ∧
        (loads w.runtime.interpreter document = .error .tooDeep ∨
          loads w.runtime.interpreter document = .error .intTooLong) := by
  unfold decode at refused
  split at refused
  next => cases refused
  next bytes value =>
    split at refused
    next => cases refused
    next solid =>
      split at refused
      next => cases refused
      next document text =>
        split at refused
        next => cases refused
        next => cases refused
        next => cases refused
        next deep =>
          cases refused
          exact ⟨⟨_, rfl⟩, bytes, document, value, Bool.eq_false_iff.mpr solid, text, Or.inl deep⟩
        next long =>
          cases refused
          exact ⟨⟨_, rfl⟩, bytes, document, value, Bool.eq_false_iff.mpr solid, text, Or.inr long⟩

theorem decode_limits {record : Record} {bytes : ByteArray} {document : String}
    (value : record.value = some bytes) (solid : bytes.isEmpty = false)
    (text : String.fromUTF8? bytes = some document)
    (limits : loads w.runtime.interpreter document = .error .tooDeep ∨
      loads w.runtime.interpreter document = .error .intTooLong) :
    ∃ exception, decode w record = .error (.escaped exception) := by
  unfold decode
  rw [value]
  dsimp only
  rw [if_neg (by rw [solid]; decide), text]
  rcases limits with deep | long
  · exact ⟨.recursionError, by simp only [deep]⟩
  · exact ⟨.valueError, by simp only [long]⟩

theorem nameEvent_of_container {value : PyJson} (named : field payload "event_id" = some value)
    (container : ∀ text, value ≠ .str text) :
    nameEvent w payload = if value.strDepth ≤ w.runtime.interpreter.strDepth then .ok ()
      else .error (.escaped .recursionError) := by
  unfold nameEvent
  rw [named]
  cases value with
  | str text => exact absurd rfl (container text)
  | null => rfl
  | bool value => rfl
  | int value => rfl
  | float value => rfl
  | arr items => rfl
  | obj members => rfl

theorem nameEvent_error {raised : Raised} (refused : nameEvent w payload = .error raised) :
    raised = .escaped .recursionError ∧ ∃ value, field payload "event_id" = some value ∧
      (∀ text, value ≠ .str text) ∧ w.runtime.interpreter.strDepth < value.strDepth := by
  cases named : field payload "event_id" with
  | none =>
    unfold nameEvent at refused
    rw [named] at refused
    cases refused
  | some value =>
    by_cases text : ∃ text, value = .str text
    · obtain ⟨text, rfl⟩ := text
      unfold nameEvent at refused
      rw [named] at refused
      cases refused
    · have container : ∀ text, value ≠ .str text := fun text' same => text ⟨text', same⟩
      rw [nameEvent_of_container named container] at refused
      split at refused
      next => cases refused
      next deep =>
        cases refused
        exact ⟨rfl, value, rfl, container, not_le.mp deep⟩

/-- With a running producer and a planner that raises what it declares, a record is published,
dead-lettered or kept for a redelivery exactly when it meets nothing that ends the loop. -/
theorem handle_survives_iff (w : CommandWorker) (cache : LicenseCache) (outcomes : Outcomes)
    (record : Record) (started : outcomes.started = true) (declared : outcomes.Declared) :
    Survives (handle w cache outcomes record) ↔ ¬FatalRecord w cache outcomes record := by
  constructor
  · intro survives fatal
    cases fatal with
    | document value solid text limits =>
      obtain ⟨exception, refused⟩ := decode_limits value solid text limits
      unfold handle at survives
      rw [refused] at survives
      exact not_survives_escaped _ survives
    | event decoded named container nested =>
      unfold handle at survives
      rw [decoded, Except.bind] at survives
      dsimp only at survives
      rw [nameEvent_of_container named container, if_neg (not_le.mpr nested)] at survives
      exact not_survives_escaped _ survives
    | @payload payload decoded fatal =>
      unfold handle at survives
      rw [decoded, Except.bind] at survives
      dsimp only at survives
      cases event : nameEvent w (injectLicenseKey w payload record.headers) with
      | ok _ =>
        rw [event] at survives
        exact settle_fatal started fatal survives
      | error raised =>
        rw [event] at survives
        obtain ⟨rfl, -⟩ := nameEvent_error event
        exact not_survives_escaped _ survives
  · intro harmless
    unfold handle
    cases decoded : decode w record with
    | error raised =>
      obtain ⟨-, bytes, document, value, solid, text, limits⟩ := decode_error decoded
      exact absurd (.document value solid text limits) harmless
    | ok body =>
      rw [Except.bind]
      cases body with
      | none =>
        rw [started]
        exact (deadLetter_survives _ _).mpr (sendable_ofString _)
      | some payload =>
        dsimp only
        cases event : nameEvent w (injectLicenseKey w payload record.headers) with
        | ok _ =>
          exact settle_survives started declared fun fatal => harmless (.payload decoded fatal)
        | error raised =>
          obtain ⟨-, value, named, container, nested⟩ := nameEvent_error event
          exact absurd (.event decoded named container nested) harmless

end

/-- A worker with nothing behind its libraries. -/
def bareWorker : CommandWorker where
  runtime := {
    interpreter := { scanDepth := 990, strDepth := 990, maxStrDigits := 4300 }
    unicode := asciiUnicode
    sha256 := id
    str := fun _ => []
    isInt := fun _ => true
    fromisoformat := fun _ => none
    isoformat := fun _ => [] }
  gatekeeper := { licenseHeader := "X-License-Key", entitledPlans := [], defaultKey := none }
  settings := {
    maxCommands := 8
    defaultDeadlineSeconds := 600
    commands := by decide
    deadline := by decide }
  interceptor := {
    interceptorEndpoint := "http://ai-interceptor:8000/v1/intercept"
    enterpriseEndpoint := ""
    enterpriseTiers := [Text.ofString "ENTERPRISE"]
    enterpriseLicenseKey := ""
    licenseHeader := "X-License-Key"
    licenseKey := none
    timeoutSeconds := "35.0"
    maxAttempts := 4
    attempts := by decide }
  texts := { repr := id, violation := fun _ => "" }
  modelValidate := fun _ => .error []
  toJSONBytes := fun _ => .ok ByteArray.empty

/-- A running producer, and no planner. -/
def quietOutcomes : Outcomes where
  started := true
  plan := none
  acknowledged := fun _ _ => true
  now := 0
  issuedAt := 0
  correlation := Text.ofString "0123456789abcdef"

/-- A tombstone is dead-lettered. -/
theorem handle_survives_tombstone :
    Survives (handle bareWorker (LicenseCache.fresh ⟨[]⟩ 300 1024) quietOutcomes { value := none }) := by
  refine (handle_survives_iff bareWorker (LicenseCache.fresh ⟨[]⟩ 300 1024) quietOutcomes
    { value := none } rfl ?_).mpr ?_
  · intro plan client
    cases client
  · intro fatal
    cases fatal with
    | document value solid text limits => cases value
    | event decoded named container nested => cases decoded
    | payload decoded fatal => cases decoded

theorem fromUTF8?_toUTF8 (s : String) : String.fromUTF8? s.toUTF8 = some s :=
  dif_pos s.isValidUTF8

/-- A credential that is a lone surrogate ends the loop under a registry that was read from
its file. -/
theorem surrogate_not_survived :
    SubscriptionRegistry.fromFile bareWorker.runtime "[]" = some ⟨[]⟩ ∧
      ¬Survives (handle bareWorker (LicenseCache.fresh ⟨[]⟩ 300 1024) quietOutcomes
        { value := some "\x7b\"license_key\": \"\\ud800\"\x7d".toUTF8 }) := by
  refine ⟨by rfl, ?_⟩
  have decoded : decode bareWorker
      { value := some "\x7b\"license_key\": \"\\ud800\"\x7d".toUTF8 } =
        .ok (some [(Text.ofString "license_key", .str [0xD800])]) := by
    unfold decode
    dsimp only
    rw [if_neg (by decide +kernel), fromUTF8?_toUTF8]
    rfl
  have fatal : Fatal bareWorker (LicenseCache.fresh ⟨[]⟩ 300 1024) quietOutcomes
      [(Text.ofString "license_key", .str [0xD800])] (Text.ofString "0123456789abcdef") :=
    .key (by rfl : extractKey bareWorker.runtime bareWorker.gatekeeper
      [(Text.ofString "license_key", .str [0xD800])] = some [0xD800]) (by decide)
  unfold handle
  rw [decoded]
  exact settle_fatal rfl fatal

end OpenOntology.Worker
