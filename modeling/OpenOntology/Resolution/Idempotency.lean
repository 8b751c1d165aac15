import OpenOntology.Resolution.Redelivery
import Std.Data.ExtTreeSet

/-!
# The idempotency filter

`Admit` claims the coordinate of an event with one `SETNX`; `ReleaseEvent` drops the
claim when the event could not be processed. Redis answers a call or reports an error,
and a call that reports an error may have taken effect.
-/
namespace OpenOntology.Resolution

structure IdempotencyConfig where
  enabled : Bool
  keyPrefix : String
  ttl : Duration
  scope : String
  failOpen : Bool
  opTimeout : Duration

/-- How a Redis call comes out for its caller. -/
inductive Reply where
  | answered
  | failed (tookEffect : Bool)
  deriving DecidableEq, Repr

def Reply.takesEffect : Reply → Bool
  | .answered => true
  | .failed tookEffect => tookEffect

abbrev Claims := Std.ExtTreeSet String

/-- The reply is whether the key was acquired; an error hides it. -/
def Claims.setNX (claims : Claims) (key : String) (reply : Reply) : Claims × Option Bool :=
  (if reply.takesEffect then claims.insert key else claims,
    if reply = .answered then some (!claims.contains key) else none)

def Claims.del (claims : Claims) (key : String) (reply : Reply) : Claims :=
  if reply.takesEffect then claims.erase key else claims

/-- `IdempotencyFingerprint` and `IdempotencyFingerprintWith`, `none` where the input is
refused; `md5` is the digest in hexadecimal. -/
def idempotencyFingerprint (md5 : String → String) (assetID discriminator : String)
    (timestamp : Int) : Option String :=
  let asset := trimSpace assetID
  if asset = "" ∨ timestamp ≤ 0 then none
  else
    let sensor := if discriminator = "" then "" else trimSpace discriminator ++ "|"
    some (md5 (asset ++ "|" ++ sensor ++ toString timestamp))

namespace IdempotencyConfig

/-- `Validate` reports no error. -/
def validate (c : IdempotencyConfig) : Bool :=
  trimSpace c.keyPrefix != "" && c.ttl > 0 && c.ttl ≤ 3600000000000 &&
    (c.scope == "asset" || c.scope == "asset_sensor") && c.opTimeout > 0

variable (c : IdempotencyConfig) (md5 : String → String)

def fingerprintFor (ev : TelemetryEvent) : Option String :=
  let timestamp := unixMilli ev.timestamp
  if c.scope = "asset_sensor" then idempotencyFingerprint md5 ev.assetID ev.sensorID timestamp
  else idempotencyFingerprint md5 ev.assetID "" timestamp

/-- The Redis key of the event's claim. -/
def key (ev : TelemetryEvent) : Option String := (c.fingerprintFor md5 ev).map (c.keyPrefix ++ ·)

/-- `Admit`; `expired` is whether the attempt's deadline had passed when `SETNX` reported
an error. -/
def admitEvent (claims : Claims) (ev : TelemetryEvent) (setNX : Reply) (expired : Bool) :
    Claims × Admission :=
  if c.enabled = false then (claims, .admitted)
  else
    match c.key md5 ev with
    | none => (claims, .invalidInput)
    | some key =>
      match claims.setNX key setNX with
      | (claims, some true) => (claims, .admitted)
      | (claims, some false) => (claims, .duplicate)
      | (claims, none) =>
        if expired then (claims, .unavailable)
        else if c.failOpen then (claims, .admitted)
        else (claims, .unavailable)

def releaseEvent (claims : Claims) (ev : TelemetryEvent) (del : Reply) : Claims :=
  if c.enabled = false then claims
  else
    match c.key md5 ev with
    | none => claims
    | some key => claims.del key del

/-- The verdict on an event whose key is, or is not, claimed already. -/
def verdict (claimed : Bool) (setNX : Reply) (expired : Bool) : Admission :=
  if setNX = .answered then if claimed then .duplicate else .admitted
  else if expired then .unavailable
  else if c.failOpen then .admitted
  else .unavailable

variable {c md5}

theorem admitEvent_eq {claims : Claims} {ev : TelemetryEvent} {key : String} (enabled : c.enabled = true)
    (named : c.key md5 ev = some key) (setNX : Reply) (expired : Bool) :
    c.admitEvent md5 claims ev setNX expired =
      ((claims.setNX key setNX).1, c.verdict (claims.contains key) setNX expired) := by
  unfold admitEvent verdict Claims.setNX
  simp only [enabled, named, Bool.true_eq_false, if_false]
  by_cases answered : setNX = .answered
  · simp only [answered, if_true]
    cases claims.contains key <;> rfl
  · simp only [answered, if_false]
    cases expired
    · cases c.failOpen <;> rfl
    · rfl

theorem releaseEvent_eq {claims : Claims} {ev : TelemetryEvent} {key : String}
    (enabled : c.enabled = true) (named : c.key md5 ev = some key) (del : Reply) :
    c.releaseEvent md5 claims ev del = claims.del key del := by
  unfold releaseEvent
  simp only [enabled, named, Bool.true_eq_false, if_false]

theorem verdict_duplicate {claimed : Bool} {setNX : Reply} {expired : Bool} :
    c.verdict claimed setNX expired = .duplicate ↔ setNX = .answered ∧ claimed = true := by
  unfold verdict
  by_cases answered : setNX = .answered
  · cases claimed <;> simp [answered]
  · cases expired <;> cases c.failOpen <;> simp [answered]

theorem verdict_ne_invalidInput (claimed : Bool) (setNX : Reply) (expired : Bool) :
    c.verdict claimed setNX expired ≠ .invalidInput := by
  unfold verdict
  by_cases answered : setNX = .answered
  · cases claimed <;> simp [answered]
  · cases expired <;> cases c.failOpen <;> simp [answered]

theorem contains_setNX (claims : Claims) (key : String) (reply : Reply) :
    (claims.setNX key reply).1.contains key = (claims.contains key || reply.takesEffect) := by
  unfold Claims.setNX
  cases reply.takesEffect <;> simp

theorem contains_del (claims : Claims) (key : String) (reply : Reply) :
    (claims.del key reply).contains key = (claims.contains key && !reply.takesEffect) := by
  unfold Claims.del
  cases reply.takesEffect <;> simp

end IdempotencyConfig
end OpenOntology.Resolution
