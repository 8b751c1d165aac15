import OpenOntology.Library.Retry
import OpenOntology.Worker.Contract

/-!
# The interceptor client

One call to the planner over HTTP: where it goes, what it answers, and how a failure is
classified. The classification of a response that was read is a list of `except` clauses
over a hierarchy of exceptions, tried in order.
-/
namespace OpenOntology.Worker

open Python Library

/-! ## Exceptions of reading a body -/

/-- The exceptions that reading a body can raise, and the classes the clauses name. -/
inductive ErrorClass where
  | exception
  | valueError
  | jsonDecodeError
  | unicodeDecodeError
  | validationError
  | recursionError
  deriving DecidableEq, Repr

/-- The classes an exception belongs to. -/
def ErrorClass.bases : ErrorClass → List ErrorClass
  | .exception => [.exception]
  | .valueError => [.valueError, .exception]
  | .jsonDecodeError => [.jsonDecodeError, .valueError, .exception]
  | .unicodeDecodeError => [.unicodeDecodeError, .valueError, .exception]
  | .validationError => [.validationError, .valueError, .exception]
  | .recursionError => [.recursionError, .exception]

def ErrorClass.isA (raised named : ErrorClass) : Bool := raised.bases.contains named

structure PyException where
  cls : ErrorClass
  /-- `str(exc)` -/
  text : Text
  deriving DecidableEq

/-! ## Failures of a call -/

/-- `InterceptorError` -/
structure InterceptorError where
  message : Text
  permanent : Bool
  retryable : Bool := true
  statusCode : Option Nat := none
  /-- the server's wait, as `parse_retry_after` reads it -/
  retryAfter : Option Float := none

def InterceptorError.shouldRetry (e : InterceptorError) : Bool := e.retryable && !e.permanent

/-- What a call to the interceptor raises. -/
inductive CallError where
  | interceptor (error : InterceptorError)
  | escaped (exception : Escape)

/-- `retry_on=(InterceptorError,)` with `should_retry`. -/
def CallError.again : CallError → Bool
  | .interceptor error => error.shouldRetry
  | .escaped _ => false

def ErrorClass.escape : ErrorClass → Escape
  | .recursionError => .recursionError
  | _ => .valueError

/-- One `except` clause: the classes it names, and the error it raises in turn. -/
structure ExceptClause where
  classes : List ErrorClass
  raises : Text → InterceptorError

/-- The first clause that names a class of the exception handles it. -/
def dispatch (clauses : List ExceptClause) (raised : PyException) : CallError :=
  match clauses.find? fun clause => clause.classes.any raised.cls.isA with
  | some clause => .interceptor (clause.raises raised.text)
  | none => .escaped raised.cls.escape

/-! ## Responses -/

structure Response where
  statusCode : Nat
  content : ByteArray
  /-- `response.text` -/
  text : Text
  /-- `parse_retry_after` of the `Retry-After` header -/
  retryAfter : Option Float := none

/-- What comes of posting a request. -/
inductive Exchange where
  /-- `httpx.TimeoutException` -/
  | timeout (detail : Text)
  /-- another `httpx.HTTPError` -/
  | transport (detail : Text)
  | answered (response : Response)

structure Request where
  endpoint : String
  headers : List (String × Text)
  body : Members

/-- The settings of the client; the tiers are stripped and upper-cased. -/
structure InterceptorSettings where
  interceptorEndpoint : String
  enterpriseEndpoint : String
  enterpriseTiers : List Text
  enterpriseLicenseKey : String
  licenseHeader : String
  licenseKey : Option String
  /-- the read timeout, as it is rendered -/
  timeoutSeconds : String
  maxAttempts : Nat
  attempts : 1 ≤ maxAttempts ∧ maxAttempts ≤ 10

/-- The libraries that read a response. -/
structure ResponseReader where
  /-- `response.json()` -/
  json : ByteArray → Except PyException PyJson
  conversions : Conversions
  /-- the text of the `ValidationError` of a document -/
  violation : PyJson → Text

section
variable (settings : InterceptorSettings) (unicode : Unicode)

/-- The text `(code): detail` after a first part. -/
def described (first : String) (code : Nat) (between : String) (detail : Text) : Text :=
  Text.ofString (first ++ toString code ++ between) ++ detail

/-- `_failure` -/
def failure (response : Response) : InterceptorError :=
  let code := response.statusCode
  let detail := response.text.take 400
  if code = 400 ∨ code = 413 ∨ code = 422 then
    { message := described "interceptor rejected the payload (" code "): " detail
      permanent := true
      statusCode := some code }
  else if code = 401 ∨ code = 402 ∨ code = 403 then
    { message := described "interceptor refused the worker's subscription (" code "): " detail
      permanent := false
      retryable := false
      statusCode := some code }
  else if code = 404 ∨ code = 405 ∨ code = 501 ∨ (300 ≤ code ∧ code < 400) then
    { message := described ("interceptor endpoint " ++ settings.interceptorEndpoint ++ " answered ")
        code ": " detail
      permanent := false
      retryable := false
      statusCode := some code }
  else if code = 408 ∨ code = 409 ∨ code = 425 then
    { message := described "interceptor could not serve the request now (" code "): " detail
      permanent := false
      statusCode := some code
      retryAfter := response.retryAfter }
  else if code = 429 then
    { message := described "interceptor rate limit reached (" code "): " detail
      permanent := false
      statusCode := some code
      retryAfter := response.retryAfter }
  else if 500 ≤ code then
    { message := described "interceptor unavailable (" code "): " detail
      permanent := false
      statusCode := some code
      retryAfter := response.retryAfter }
  else
    { message := described "unexpected interceptor status " code ": " detail
      permanent := false
      retryable := false
      statusCode := some code }

/-- `routes_to_enterprise` -/
def routesToEnterprise (tier : Text) : Bool :=
  settings.enterpriseEndpoint != "" && settings.enterpriseTiers.contains (unicode.upper tier.strip)

/-- `_presented_key` -/
def presentedKey : Except InterceptorError String :=
  match settings.licenseKey with
  | some key => .ok key
  | none => .error {
      message := Text.ofString "OO_LICENSE_KEY must be set when OO_INTERCEPTOR_MODE=http"
      permanent := false
      retryable := false }

/-- `_destination`: the endpoint and the credential to present to it. -/
def destination (subscription : Subscription) : Except InterceptorError (String × String) :=
  if routesToEnterprise settings unicode subscription.plan = false then
    (presentedKey settings).map fun key => (settings.interceptorEndpoint, key)
  else if strip settings.enterpriseLicenseKey = "" then
    (presentedKey settings).map fun key => (settings.interceptorEndpoint, key)
  else .ok (settings.enterpriseEndpoint, strip settings.enterpriseLicenseKey)

def credentialKeys : List String :=
  ["license_key", "licence_key", "license", "licence", "headers", "meta"]

/-- `_body`: the engine's own record without its credentials. -/
def requestBody (payload : Members) : Members :=
  payload.filter fun entry => !credentialKeys.any fun key => entry.1 == Text.ofString key

variable (reader : ResponseReader)

/-- The clauses around the reading of a response, in the order of the source. -/
def readClauses (statusCode : Nat) : List ExceptClause :=
  [{ classes := [.jsonDecodeError, .valueError]
     raises := fun text => {
       message := Text.ofString "interceptor returned a body that is not JSON: " ++ text
       permanent := false
       retryable := true } },
   { classes := [.validationError]
     raises := fun text => {
       message := Text.ofString "interceptor response did not match the plan contract: " ++ text
       permanent := true
       statusCode := some statusCode } }]

/-- `ActionPlan.model_validate(response.json())` -/
def decodePlan (content : ByteArray) : Except PyException ActionPlan :=
  (reader.json content).bind fun value =>
    match ActionPlan.modelValidate reader.conversions value with
    | some plan => .ok plan
    | none => .error ⟨.validationError, reader.violation value⟩

def readPlan (response : Response) : Except CallError ActionPlan :=
  (decodePlan reader response.content).mapError (dispatch (readClauses response.statusCode))

def planRequest (subscription : Subscription) (payload : Members) (requestID : Text) :
    Except InterceptorError Request :=
  (destination settings unicode subscription).map fun target =>
    { endpoint := target.1
      headers := [(settings.licenseHeader, Text.ofString target.2), ("X-Request-ID", requestID),
        ("Content-Type", Text.ofString "application/json")]
      body := requestBody payload }

/-- `HttpInterceptorClient.plan` -/
def httpPlan (subscription : Subscription) (payload : Members) (requestID : Text)
    (post : Request → Exchange) : Except CallError ActionPlan :=
  match planRequest settings unicode subscription payload requestID with
  | .error error => .error (.interceptor error)
  | .ok request =>
    match post request with
    | .timeout detail => .error (.interceptor {
        message := Text.ofString ("interceptor at " ++ request.endpoint ++ " timed out after " ++
          settings.timeoutSeconds ++ "s: ") ++ detail
        permanent := false
        retryable := true })
    | .transport detail => .error (.interceptor {
        message := Text.ofString "interceptor transport error: " ++ detail
        permanent := false
        retryable := true })
    | .answered response =>
      if response.statusCode ≠ 200 then .error (.interceptor (failure settings response))
      else readPlan reader response

end

/-- `ActionRouter.route`: the plan of some attempt, or what the last one raised. The client
is missing where it was not initialised. -/
def route (settings : InterceptorSettings) (client : Option (Nat → Except CallError ActionPlan)) :
    Except CallError ActionPlan :=
  match client with
  | none => .error (.interceptor {
      message := Text.ofString "HTTP interceptor client is not initialised"
      permanent := false
      retryable := false })
  | some plan => retry CallError.again plan settings.maxAttempts

end OpenOntology.Worker
