import OpenOntology.Worker.Interceptor
import OpenOntology.Worker.Translate

/-!
# One record, from the mutations topic to the commands topic

`_handle` decodes a record, injects a credential, takes the payload through the pipeline
and publishes the commands in order. A fault of the message is dead-lettered, a fault of
the environment leaves the record where it is, and anything else escapes to the loop.
-/
namespace OpenOntology.Worker

open Python Library

/-! ## Records -/

structure Record where
  value : Option ByteArray
  headers : List (String × Option ByteArray) := []

/-- What becomes of a record that was handled. -/
inductive Handled (unicode : Unicode) where
  /-- the producer acknowledged every command -/
  | published (commands : List (CommandPayload unicode))
  /-- handed to the producer for the dead-letter topic -/
  | deadLettered (reason : String) (detail : Text)
  /-- there was no producer to hand it to -/
  | dropped (reason : String)

/-- What the worker is built from. -/
structure CommandWorker where
  runtime : Runtime
  gatekeeper : GatekeeperSettings
  settings : WorkerSettings
  interceptor : InterceptorSettings
  texts : ErrorTexts
  /-- `MutationEnvelope.model_validate`, with the text of its `ValidationError` -/
  modelValidate : Members → Except Text MutationEnvelope
  /-- `command.to_json_bytes()` -/
  toJSONBytes : CommandPayload runtime.unicode → Except Escape ByteArray

/-- What the dependencies do while one record is handled. -/
structure Outcomes where
  /-- the producer is running -/
  started : Bool
  /-- the planner, attempt by attempt -/
  plan : Option (MutationEnvelope → Subscription → Members → Text → Nat →
    Except CallError ActionPlan)
  /-- whether an attempt to send a command, by its place, is acknowledged -/
  acknowledged : Nat → Nat → Bool
  now : Int
  issuedAt : Int
  /-- a fresh identifier, for a record that carries none -/
  correlation : Text

section
variable (w : CommandWorker)

/-- `_decode`: nothing where the body is not a JSON object. -/
def decode (record : Record) : Except Raised (Option Members) :=
  match record.value with
  | none => .ok none
  | some bytes =>
    if bytes.isEmpty then .ok none
    else match String.fromUTF8? bytes with
      | none => .ok none
      | some document =>
        match loads w.runtime.interpreter document with
        | .ok (.obj payload) => .ok (some payload)
        | .ok _ => .ok none
        | .error .malformed => .ok none
        | .error .tooDeep => .error (.escaped .recursionError)
        | .error .intTooLong => .error (.escaped .valueError)

def headerNamed (names : List Text) (header : String × Option ByteArray) : Bool :=
  names.contains (w.runtime.unicode.lower (Text.ofString header.1))

/-- `_inject_license_key` -/
def injectLicenseKey (payload : Members) (headers : List (String × Option ByteArray)) : Members :=
  if (truthyField payload "license_key").isSome then payload
  else
    let names := [Text.ofString "license_key", Text.ofString "licence_key",
      w.runtime.unicode.lower (Text.ofString w.gatekeeper.licenseHeader)]
    match headers.find? (headerNamed w names) with
    | some (_, some bytes) =>
      match String.fromUTF8? bytes with
      | some key => payload.assign (Text.ofString "license_key") (.str (Text.ofString key))
      | none => payload
    | _ => payload

/-- `_correlation_id` -/
def correlationID (record : Record) (fresh : Text) : Text :=
  let names := ["x-request-id", "correlation_id", "event_id"].map Text.ofString
  ((record.headers.filter (headerNamed w names)).findSome? fun header =>
    (header.2.bind String.fromUTF8?).bind fun decoded =>
      if strip decoded = "" then none else some (Text.ofString (strip decoded))).getD fresh

/-- `str(payload.get("event_id", "-"))`, for its exception. -/
def nameEvent (payload : Members) : Except Raised Unit :=
  match field payload "event_id" with
  | none | some (.str _) => .ok ()
  | some value =>
    if value.strDepth ≤ w.runtime.interpreter.strDepth then .ok ()
    else .error (.escaped .recursionError)

/-- `dead_letter`: the headers are encoded outside of the handlers around the send. -/
def deadLetter (started : Bool) (reason : String) (detail : Text) :
    Except Raised (Handled w.runtime.unicode) :=
  if started = false then .ok (.dropped reason)
  else if Text.encodes (detail.take 900) = false then .error (.escaped .unicodeEncodeError)
  else .ok (.deadLettered reason detail)

/-! ## Publication -/

/-- What sending a command raises. -/
inductive SendError where
  /-- `KafkaError` or `OSError` -/
  | declared
  | escaped (exception : Escape)

def SendError.again : SendError → Bool
  | .declared => true
  | .escaped _ => false

/-- One attempt to send a command. -/
def send (command : CommandPayload w.runtime.unicode) (acknowledged : Nat → Bool) (attempt : Nat) :
    Except SendError Unit :=
  match w.toJSONBytes command with
  | .error exception => .error (.escaped exception)
  | .ok _ => if acknowledged attempt then .ok () else .error .declared

/-- `publish` -/
def publish (started : Bool) (command : CommandPayload w.runtime.unicode)
    (acknowledged : Nat → Bool) : Except Raised Unit :=
  if started = false then .error (.transient "producer_unavailable")
  else
    match retry SendError.again (send w command acknowledged) w.interceptor.maxAttempts with
    | .ok () => .ok ()
    | .error .declared => .error (.transient "command_publish_failed")
    | .error (.escaped exception) => .error (.escaped exception)

/-- The commands are published in order, up to the first failure. -/
def publishAll (outcomes : Outcomes) : Nat → List (CommandPayload w.runtime.unicode) →
    Except Raised Unit
  | _, [] => .ok ()
  | place, command :: rest =>
    (publish w outcomes.started command (outcomes.acknowledged place)).bind fun _ =>
      publishAll outcomes (place + 1) rest

/-! ## The pipeline -/

def rejectionMessage (error : InterceptorError) : Text :=
  Text.ofString "AI interceptor rejected the mutation: " ++ error.message

def mutationInvalid (violation : Text) : PermanentMessageError :=
  ⟨"mutation_invalid", Text.ofString "Payload did not match openontology.mutation.v2: " ++ violation⟩

/-- What the pipeline makes of a failed call to the planner. -/
def planFailure : CallError → Raised
  | .interceptor error =>
    if error.permanent then .permanent ⟨"interceptor_rejected", rejectionMessage error⟩
    else .transient "interceptor_unavailable"
  | .escaped exception => .escaped exception

/-- The plan for a mutation. -/
def planFor (outcomes : Outcomes) (mutation : MutationEnvelope) (subscription : Subscription)
    (payload : Members) (correlation : Text) : Except CallError ActionPlan :=
  route w.interceptor (outcomes.plan.map fun plan => plan mutation subscription payload correlation)

/-- `close_loop` -/
def closeLoop (cache : LicenseCache) (outcomes : Outcomes) (payload : Members) (correlation : Text) :
    Except Raised (List (CommandPayload w.runtime.unicode)) :=
  (authorize w.runtime w.gatekeeper cache outcomes.now payload).bind fun subscription =>
    ((w.modelValidate payload).mapError fun text => .permanent (mutationInvalid text)).bind
      fun mutation =>
        ((planFor w outcomes mutation subscription payload correlation).mapError planFailure).bind
          fun plan =>
            ((translatePlan w.runtime.unicode w.texts mutation plan subscription w.settings
              correlation outcomes.issuedAt).mapError .permanent).bind fun commands =>
                (publishAll w outcomes 0 commands).map fun _ => commands

/-- What becomes of the record after the pipeline. -/
def settle (started : Bool) : Except Raised (List (CommandPayload w.runtime.unicode)) →
    Except Raised (Handled w.runtime.unicode)
  | .ok commands => .ok (.published commands)
  | .error (.license code message) => deadLetter w started ("license_" ++ code) message
  | .error (.permanent error) => deadLetter w started error.reason error.message
  | .error raised => .error raised

/-- `_handle` -/
def handle (cache : LicenseCache) (outcomes : Outcomes) (record : Record) :
    Except Raised (Handled w.runtime.unicode) :=
  (decode w record).bind fun decoded =>
    match decoded with
    | none =>
      deadLetter w outcomes.started "payload_not_json"
        (Text.ofString "Record body is not a JSON object.")
    | some payload =>
      let payload := injectLicenseKey w payload record.headers
      (nameEvent w payload).bind fun _ =>
        settle w outcomes.started
          (closeLoop w cache outcomes payload (correlationID w record outcomes.correlation))

end

end OpenOntology.Worker
