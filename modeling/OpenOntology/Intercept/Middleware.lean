import OpenOntology.Intercept.Licenses
import OpenOntology.Intercept.Limiters

/-!
# The licence middleware

Every request but a few exempt ones is authenticated, entitled and metered before it is
handed on. Up to the call of the handler a dispatch never yields to another one, so the
requests reach the limiter one after the other.
-/
namespace OpenOntology.Intercept
open Library Python Worker

/-- A `License` with the types its dataclass declares. -/
structure LicenseRecord where
  keyID : String
  keyDigest : Text
  tenant : Text
  tier : Text
  quotaPerMinute : Int
  expiresAt : DateTime
  features : List String

namespace LicenseRecord

/-- `is_expired` at an aware time. -/
def isExpired (l : LicenseRecord) (now : Int) : Except Raised Bool :=
  match l.expiresAt with
  | .naive _ => .error (.escaped .typeError)
  | .aware expiry => .ok (expiry ≤ now)

def has (l : LicenseRecord) (feature : String) : Bool := feature ∈ l.features

end LicenseRecord

/-! ## Requests and responses -/

/-- The error envelope. -/
structure ErrorBody where
  code : String
  message : Text
  hint : Option Text

/-- A response, with the header fields by name. -/
structure HttpResponse where
  status : Nat
  error : Option ErrorBody := none
  headers : String → Option Text := fun _ => none

def HttpResponse.setHeader (r : HttpResponse) (name : String) (value : Text) : HttpResponse :=
  { r with headers := Function.update r.headers name (some value) }

/-- A request, with what its dispatch reads besides: both clocks, a fresh id, the elapsed
time as it is rendered, and the handler behind the middleware, which may raise. -/
structure HttpRequest where
  path : String
  headers : String → Option Text
  now : Int
  monotonic : Rat
  freshID : Text
  elapsed : Text
  handler : Option LicenseRecord → Option HttpResponse

/-- What `_reject` is given. -/
structure Refusal where
  status : Nat
  code : String
  message : Text
  hint : Option String := none
  headers : List (String × Text) := []

/-- What becomes of a request before the limiter is asked. -/
inductive Screening where
  | exempt
  | raised
  | refused (refusal : Refusal)
  | charged (license : LicenseRecord)

/-- What becomes of a request, short of what its handler answers. -/
inductive Disposal where
  | exempt
  | raised
  | refused (refusal : Refusal)
  | admitted (license : LicenseRecord) (remaining : Int)

def number (n : Int) : Text := Text.ofString (toString n)

/-! ## The refusals -/

def keyMissing (header : String) : Refusal where
  status := 401
  code := "license_key_missing"
  message := Text.ofString ("Provide a subscription key via the " ++ header ++ " header.")
  hint := some "Contact sales@openontology.io for an enterprise key."

def keyInvalid : Refusal where
  status := 401
  code := "license_key_invalid"
  message := Text.ofString "The supplied subscription key is not recognised."

namespace LicenseRecord

def expired (runtime : Runtime) (l : LicenseRecord) : Refusal where
  status := 402
  code := "license_expired"
  message := Text.ofString "Subscription for tenant " ++ l.tenant ++ Text.ofString " expired at " ++
    runtime.isoformat l.expiresAt ++ Text.ofString "."
  hint := some "Renew the subscription to restore access."

def featureMissing (l : LicenseRecord) (feature : String) : Refusal where
  status := 403
  code := "feature_not_licensed"
  message := Text.ofString "Tier " ++ l.tier ++
    Text.ofString (" does not include '" ++ feature ++ "'.")
  hint := some ("Upgrade to a tier that includes '" ++ feature ++ "'.")

/-- `max(1, int(retry_after) + 1)`. -/
def retryAfter (wait : Rat) : Int := max 1 (wait.floor + 1)

def quotaExceeded (l : LicenseRecord) (wait : Rat) : Refusal where
  status := 429
  code := "quota_exceeded"
  message := Text.ofString "Rate limit of " ++ number l.quotaPerMinute ++
    Text.ofString " requests/minute exceeded."
  headers := [("Retry-After", number (retryAfter wait)),
    ("X-RateLimit-Limit", number l.quotaPerMinute), ("X-RateLimit-Remaining", Text.ofString "0")]

end LicenseRecord

/-- The reasons whose series are declared in advance. -/
def licenseRejectionReasons : List String :=
  ["license_key_missing", "license_key_invalid", "license_expired", "feature_not_licensed",
    "quota_exceeded"]

/-! ## The middleware -/

structure LicenseKeyMiddleware where
  registry : List LicenseRecord
  header : String
  exempt : List String
  featureByPrefix : List (String × String)

/-- The limiter, and the counters by reason and by tier and outcome. -/
structure MeterState where
  limiter : SlidingWindowLimiter
  rejections : String → Nat := fun _ => 0
  decisions : Text × String → Nat := fun _ => 0

namespace MeterState

def reject (s : MeterState) (refusal : Refusal) : MeterState :=
  { s with rejections :=
      Function.update s.rejections refusal.code (s.rejections refusal.code + 1) }

def decide (s : MeterState) (tier : Text) (outcome : String) : MeterState :=
  { s with decisions :=
      Function.update s.decisions (tier, outcome) (s.decisions (tier, outcome) + 1) }

end MeterState

namespace LicenseKeyMiddleware

def isExempt (m : LicenseKeyMiddleware) (path : String) : Bool := path ∈ m.exempt

/-- The feature of the first prefix the path starts with. -/
def requiredFeature (m : LicenseKeyMiddleware) (path : String) : Option String :=
  (m.featureByPrefix.find? fun entry => entry.1.toList.isPrefixOf path.toList).map (·.2)

section
variable (runtime : Runtime) (m : LicenseKeyMiddleware)

/-- `registry.lookup`; the mapping by digest keeps the last licence of a digest. -/
def lookup (presentedKey : Text) : Except Raised (Option LicenseRecord) :=
  (digest runtime presentedKey).map fun presented =>
    m.registry.reverse.find? fun held => held.keyDigest = presented

def nonEmpty (text : Text) : Option Text := if text = [] then none else some text

/-- `_extract_key`: the header of the service, then a bearer credential. -/
def extractKey (request : HttpRequest) : Option Text :=
  match (request.headers m.header).bind fun value => nonEmpty value.strip with
  | some key => some key
  | none =>
    let authorization := (request.headers "Authorization").getD []
    let scheme := authorization.takeWhile (· ≠ CodePoint.ofChar ' ')
    let credentials : Text := (authorization.dropWhile (· ≠ CodePoint.ofChar ' ')).drop 1
    if runtime.unicode.lower scheme = Text.ofString "bearer" then nonEmpty credentials.strip
    else none

/-- `dispatch` up to the limiter. -/
def screen (request : HttpRequest) : Screening :=
  if m.isExempt request.path then .exempt
  else
    match m.extractKey runtime request with
    | none => .refused (keyMissing m.header)
    | some presented =>
      match m.lookup runtime presented with
      | .error _ => .raised
      | .ok none => .refused keyInvalid
      | .ok (some license) =>
        match license.isExpired request.now with
        | .error _ => .raised
        | .ok true => .refused (license.expired runtime)
        | .ok false =>
          match (m.requiredFeature request.path).filter (· ≠ "") with
          | some feature =>
            if license.has feature then .charged license
            else .refused (license.featureMissing feature)
          | none => .charged license

/-- The limiter's part: it raises where the limit is met by an empty bucket. -/
def meter (s : MeterState) (license : LicenseRecord) (now : Rat) : MeterState × Disposal :=
  let (limiter, verdict) := s.limiter.check now license.keyID license.quotaPerMinute
  let s := { s with limiter }
  match verdict with
  | none => (s, .raised)
  | some (true, remaining, _) => (s.decide license.tier "admitted", .admitted license remaining)
  | some (false, _, wait) =>
    let refusal := license.quotaExceeded wait
    ((s.decide license.tier "throttled").reject refusal, .refused refusal)

/-- `dispatch`, short of the handler. -/
def dispatch (s : MeterState) (request : HttpRequest) : MeterState × Disposal :=
  match m.screen runtime request with
  | .exempt => (s, .exempt)
  | .raised => (s, .raised)
  | .refused refusal => (s.reject refusal, .refused refusal)
  | .charged license => meter s license request.monotonic

/-- `request.headers.get("X-Request-ID") or uuid.uuid4().hex`. -/
def requestID (request : HttpRequest) : Text :=
  ((request.headers "X-Request-ID").bind nonEmpty).getD request.freshID

/-- `_finalise`. -/
def finalise (request : HttpRequest) (response : HttpResponse) : HttpResponse :=
  (response.setHeader "X-Request-ID" (requestID request)).setHeader "X-Response-Time-ms"
    request.elapsed

/-- `error_response`, as `_reject` calls it. -/
def errorResponse (refusal : Refusal) : HttpResponse where
  status := refusal.status
  error := some ⟨refusal.code, refusal.message, refusal.hint.map Text.ofString⟩
  headers := fun name => refusal.headers.lookup name

/-- What the client gets; nothing where an exception passes through. -/
def respond (request : HttpRequest) : Disposal → Option HttpResponse
  | .exempt => (request.handler none).map (finalise request)
  | .raised => none
  | .refused refusal => some (finalise request (errorResponse refusal))
  | .admitted license remaining =>
    (request.handler (some license)).map fun response =>
      finalise request
        (((response.setHeader "X-RateLimit-Limit" (number license.quotaPerMinute)).setHeader
          "X-RateLimit-Remaining" (number remaining)).setHeader "X-License-Tier" license.tier)

/-- The requests in the order in which they reach the limiter, each with what became of it. -/
def serve (s : MeterState) : List HttpRequest → MeterState × List (HttpRequest × Disposal)
  | [] => (s, [])
  | request :: rest =>
    let (next, disposal) := m.dispatch runtime s request
    let (final, served) := serve next rest
    (final, (request, disposal) :: served)

end

end LicenseKeyMiddleware

end OpenOntology.Intercept
