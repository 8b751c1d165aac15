import OpenOntology.Worker.Survival

/-!
# How a response that was read is classified

The clause for a body that is not JSON names `ValueError`, which pydantic's
`ValidationError` derives from, and stands first: a plan that breaks the contract never
reaches the clause written for it. The classification decides what the router retries,
what the pipeline raises and whether the loop commits or rewinds.
-/
namespace OpenOntology.Worker

open Python Library

/-! ## The clauses -/

/-- The error of a body that is not JSON. -/
def notJSON (text : Text) : InterceptorError where
  message := Text.ofString "interceptor returned a body that is not JSON: " ++ text
  permanent := false
  retryable := true

/-- The second clause is never reached. -/
theorem dispatch_readClauses (statusCode : Nat) (raised : PyException) :
    dispatch (readClauses statusCode) raised =
      if raised.cls.isA .valueError then .interceptor (notJSON raised.text)
      else .escaped raised.cls.escape := by
  obtain ⟨cls, text⟩ := raised
  cases cls <;> rfl

section
variable {reader : ResponseReader} {response : Response}

theorem readPlan_of_fault {fault : PyException}
    (refused : decodePlan reader response.content = .error fault) :
    readPlan reader response = .error (if fault.cls.isA .valueError then .interceptor (notJSON fault.text)
      else .escaped fault.cls.escape) := by
  unfold readPlan
  rw [refused, ← dispatch_readClauses response.statusCode]
  rfl

/-- A body that is JSON and no plan. -/
structure Nonconforming (reader : ResponseReader) (response : Response) (value : PyJson) : Prop where
  json : reader.json response.content = .ok value
  invalid : ActionPlan.modelValidate reader.conversions value = none

theorem Nonconforming.readPlan {value : PyJson} (body : Nonconforming reader response value) :
    readPlan reader response = .error (.interceptor (notJSON (reader.violation value))) := by
  have refused : decodePlan reader response.content =
      .error ⟨.validationError, reader.violation value⟩ := by
    unfold decodePlan
    rw [body.json, Except.bind, body.invalid]
  rw [readPlan_of_fault refused]
  rfl

theorem readPlan_unread {fault : PyException} (unread : reader.json response.content = .error fault) :
    readPlan reader response = .error (if fault.cls.isA .valueError then .interceptor (notJSON fault.text)
      else .escaped fault.cls.escape) := by
  refine readPlan_of_fault ?_
  unfold decodePlan
  rw [unread]
  rfl

end

/-! ## The call -/

/-- The router's client over HTTP. -/
def httpClient (w : CommandWorker) (reader : ResponseReader) (post : Nat → Request → Exchange)
    (_ : MutationEnvelope) (subscription : Subscription) (payload : Members) (correlation : Text)
    (attempt : Nat) : Except CallError ActionPlan :=
  httpPlan w.interceptor w.runtime.unicode reader subscription payload correlation (post attempt)

section
variable {w : CommandWorker} {reader : ResponseReader} {response : Response}

/-- With a key of its own the worker has something to present to every endpoint. -/
theorem planRequest_ok {key : String} (keyed : w.interceptor.licenseKey = some key)
    (subscription : Subscription) (payload : Members) (requestID : Text) :
    ∃ request, planRequest w.interceptor w.runtime.unicode subscription payload requestID =
      .ok request := by
  unfold planRequest destination presentedKey
  rw [keyed]
  split
  next => exact ⟨_, rfl⟩
  next =>
    split
    next => exact ⟨_, rfl⟩
    next => exact ⟨_, rfl⟩

theorem httpPlan_answered {key : String} (keyed : w.interceptor.licenseKey = some key)
    (ok : response.statusCode = 200) (subscription : Subscription) (payload : Members)
    (requestID : Text) :
    httpPlan w.interceptor w.runtime.unicode reader subscription payload requestID
      (fun _ => .answered response) = readPlan reader response := by
  obtain ⟨request, planned⟩ := planRequest_ok keyed subscription payload requestID
  unfold httpPlan
  rw [planned]
  dsimp only
  rw [if_neg (not_not_intro ok)]

/-! ## The contract -/

/-- Violations of the plan's contract are permanent, bodies that are not JSON are retried. -/
structure ClassifiedRight (w : CommandWorker) (reader : ResponseReader) (response : Response) :
    Prop where
  rejects : ∀ value, Nonconforming reader response value → ∀ subscription payload requestID,
    ∃ error, httpPlan w.interceptor w.runtime.unicode reader subscription payload requestID
      (fun _ => .answered response) = .error (.interceptor error) ∧ error.permanent = true
  deadLetters : ∀ value, Nonconforming reader response value →
    ∀ cache outcomes payload correlation subscription mutation,
      outcomes.plan = some (httpClient w reader fun _ _ => .answered response) →
        authorize w.runtime w.gatekeeper cache outcomes.now payload = .ok subscription →
          w.modelValidate payload = .ok mutation →
            (∃ error, closeLoop w cache outcomes payload correlation = .error (.permanent error)) ∧
              ∀ reason, settle w outcomes.started (closeLoop w cache outcomes payload correlation) ≠
                .error (.transient reason)
  retries : ∀ fault, reader.json response.content = .error fault →
    ∀ subscription payload requestID,
      ∃ error, httpPlan w.interceptor w.runtime.unicode reader subscription payload requestID
        (fun _ => .answered response) = .error (.interceptor error) ∧
          error.permanent = false ∧ error.retryable = true

/-- A record whose plan breaks the contract at every attempt is rewound to, whatever it is. -/
theorem nonconforming_rewinds {key : String} (keyed : w.interceptor.licenseKey = some key)
    (ok : response.statusCode = 200) {value : PyJson} (body : Nonconforming reader response value)
    {cache : LicenseCache} {outcomes : Outcomes} {payload : Members} {correlation : Text}
    {subscription : Subscription} {mutation : MutationEnvelope}
    (client : outcomes.plan = some (httpClient w reader fun _ _ => .answered response))
    (authorized : authorize w.runtime w.gatekeeper cache outcomes.now payload = .ok subscription)
    (valid : w.modelValidate payload = .ok mutation) :
    settle w outcomes.started (closeLoop w cache outcomes payload correlation) =
      .error (.transient "interceptor_unavailable") := by
  have planned : planFor w outcomes mutation subscription payload correlation =
      .error (.interceptor (notJSON (reader.violation value))) := by
    unfold planFor route
    rw [client]
    obtain ⟨i, -, outcome⟩ := retry_decides w.interceptor.maxAttempts
    simp only [Option.map_some]
    rw [outcome]
    exact (httpPlan_answered keyed ok subscription payload correlation).trans body.readPlan
  rw [closeLoop_unplanned authorized valid planned]
  rfl

end

/-! ## Two bodies -/

/-- The conversions among numbers and truth values. -/
def numericConversions : Conversions where
  int | .int n => some n | .bool b => some (if b then 1 else 0) | _ => none
  float | .float x => some x | .int n => some (Float.ofInt n) | _ => none
  bool | .bool b => some b | .int n => [(0, false), (1, true)].lookup n | _ => none
  int_int _ := rfl
  float_float _ := rfl
  bool_bool _ := rfl

/-- A reader of UTF-8 bodies. -/
def utf8Reader (interpreter : Interpreter) : ResponseReader where
  json bytes :=
    match String.fromUTF8? bytes with
    | none => .error ⟨.unicodeDecodeError, []⟩
    | some document =>
      match loads interpreter document with
      | .ok value => .ok value
      | .error .malformed => .error ⟨.jsonDecodeError, []⟩
      | .error .tooDeep => .error ⟨.recursionError, []⟩
      | .error .intTooLong => .error ⟨.valueError, []⟩
  conversions := numericConversions
  violation _ := []

def keyedWorker : CommandWorker :=
  { bareWorker with
    interceptor := { bareWorker.interceptor with licenseKey := some "oo-worker" } }

def answer (document : String) : Response := ⟨200, document.toUTF8, Text.ofString document, none⟩

theorem utf8Reader_answer (interpreter : Interpreter) {document : String} {value : PyJson}
    (decoded : loads interpreter document = .ok value) :
    (utf8Reader interpreter).json (answer document).content = .ok value := by
  unfold utf8Reader answer
  simp only [fromUTF8?_toUTF8, decoded]

end OpenOntology.Worker
