import OpenOntology.Intercept.Metering

/-!
# What the middleware guarantees

Over every run: only a live and entitled licence reaches a handler, no window holds more of
its requests than its quota, and nobody else's requests, refused or not, make a difference
to it.
-/
namespace OpenOntology.Intercept
open Library Python Worker

namespace LicenseKeyMiddleware
variable {runtime : Runtime} {m : LicenseKeyMiddleware}

/-! ## Other tenants -/

/-- Two states that meter a key id alike. -/
structure Alikeness (key : String) (s s' : MeterState) : Prop where
  window : s.limiter.window = s'.limiter.window
  hits : s.limiter.hits key = s'.limiter.hits key

theorem meter_limiter (s : MeterState) (license : LicenseRecord) (now : Rat) :
    (meter s license now).1.limiter =
      (s.limiter.check now license.keyID license.quotaPerMinute).1 := by
  unfold meter
  dsimp only
  split <;> rfl

theorem meter_disposal {s s' : MeterState} {license : LicenseRecord} {now : Rat}
    (same : (s.limiter.check now license.keyID license.quotaPerMinute).2 =
      (s'.limiter.check now license.keyID license.quotaPerMinute).2) :
    (meter s license now).2 = (meter s' license now).2 := by
  unfold meter
  dsimp only
  rw [same]
  cases (s'.limiter.check now license.keyID license.quotaPerMinute).2 with
  | none => rfl
  | some verdict =>
    obtain ⟨allowed, remaining, wait⟩ := verdict
    cases allowed <;> rfl

theorem meter_alike {license : LicenseRecord} {s s' : MeterState}
    (alike : Alikeness license.keyID s s') (now : Rat) :
    (meter s license now).2 = (meter s' license now).2 ∧
      Alikeness license.keyID (meter s license now).1 (meter s' license now).1 := by
  have checks : (s.limiter.check now license.keyID license.quotaPerMinute).2 =
        (s'.limiter.check now license.keyID license.quotaPerMinute).2 ∧
      (s.limiter.check now license.keyID license.quotaPerMinute).1.window =
        (s'.limiter.check now license.keyID license.quotaPerMinute).1.window ∧
      (s.limiter.check now license.keyID license.quotaPerMinute).1.hits license.keyID =
        (s'.limiter.check now license.keyID license.quotaPerMinute).1.hits license.keyID := by
    unfold SlidingWindowLimiter.check
    rw [alike.window, alike.hits]
    dsimp only
    split <;> simp
  refine ⟨meter_disposal checks.1, ?_, ?_⟩
  · rw [meter_limiter, meter_limiter]
    exact checks.2.1
  · rw [meter_limiter, meter_limiter]
    exact checks.2.2

theorem meter_elsewhere {license : LicenseRecord} {key : String} (other : license.keyID ≠ key)
    (s : MeterState) (now : Rat) : Alikeness key (meter s license now).1 s := by
  have elsewhere := Ne.symm other
  constructor <;> rw [meter_limiter] <;> unfold SlidingWindowLimiter.check <;> dsimp only <;>
    split <;> simp [elsewhere]

theorem dispatch_alike {key : String} {s s' : MeterState} {request : HttpRequest}
    (alike : Alikeness key s s') (charged : m.chargedTo runtime key request = true) :
    (m.dispatch runtime s request).2 = (m.dispatch runtime s' request).2 ∧
      Alikeness key (m.dispatch runtime s request).1 (m.dispatch runtime s' request).1 := by
  obtain ⟨license, screened, rfl⟩ := chargedTo_iff.mp charged
  unfold dispatch
  rw [screened]
  exact meter_alike alike request.monotonic

theorem dispatch_elsewhere {key : String} {request : HttpRequest}
    (other : m.chargedTo runtime key request = false) (s : MeterState) :
    Alikeness key (m.dispatch runtime s request).1 s := by
  unfold dispatch
  cases screened : m.screen runtime request with
  | exempt => exact ⟨rfl, rfl⟩
  | raised => exact ⟨rfl, rfl⟩
  | refused refusal => exact ⟨rfl, rfl⟩
  | charged license =>
    refine meter_elsewhere (fun same => ?_) s request.monotonic
    rw [chargedTo_iff.mpr ⟨license, screened, same⟩] at other
    cases other

/-- What becomes of the requests charged to a key id is what would become of them alone. -/
theorem serve_alone {key : String} {s s' : MeterState} (alike : Alikeness key s s')
    (requests : List HttpRequest) :
    (m.serve runtime s requests).2.filter (fun e => m.chargedTo runtime key e.1) =
      (m.serve runtime s' (requests.filter (m.chargedTo runtime key))).2 := by
  induction requests generalizing s s' with
  | nil => rfl
  | cons request rest ih =>
    cases charged : m.chargedTo runtime key request with
    | true =>
      obtain ⟨same, next⟩ := dispatch_alike alike charged
      simp only [serve, List.filter_cons, charged, if_true, same]
      rw [ih next]
    | false =>
      have unmoved := dispatch_elsewhere charged s
      have still : Alikeness key (m.dispatch runtime s request).1 s' :=
        ⟨unmoved.window.trans alike.window, unmoved.hits.trans alike.hits⟩
      simp only [serve, List.filter_cons, charged, Bool.false_eq_true, if_false]
      exact ih still

/-! ## The counters -/

def ofTier (runtime : Runtime) (m : LicenseKeyMiddleware) (tier : Text) (e : Exchange) : Bool :=
  match m.screen runtime e.1 with
  | .charged license => license.tier = tier
  | _ => false

def admits : Disposal → Bool
  | .admitted _ _ => true
  | _ => false

/-- What the counters say of the exchanges. -/
structure Tallied (runtime : Runtime) (m : LicenseKeyMiddleware) (s : MeterState)
    (final : MeterState) (served : List Exchange) : Prop where
  rejections : ∀ reason, final.rejections reason =
    s.rejections reason + served.countP fun e => e.2.refusedFor reason
  admitted : ∀ tier, final.decisions (tier, "admitted") =
    s.decisions (tier, "admitted") + served.countP fun e => ofTier runtime m tier e && admits e.2
  throttled : ∀ tier, final.decisions (tier, "throttled") = s.decisions (tier, "throttled") +
    served.countP fun e => ofTier runtime m tier e && e.2.refusedFor "quota_exceeded"

theorem dispatch_tallied (s : MeterState) (request : HttpRequest) :
    Tallied runtime m s (m.dispatch runtime s request).1
      [(request, (m.dispatch runtime s request).2)] := by
  unfold dispatch
  cases screened : m.screen runtime request with
  | exempt => constructor <;> simp [Disposal.refusedFor, ofTier, screened]
  | raised => constructor <;> simp [Disposal.refusedFor, ofTier, screened]
  | refused refusal =>
    constructor
    · intro reason
      by_cases same : refusal.code = reason
      · subst same
        simp [Disposal.refusedFor, MeterState.reject]
      · simp [Disposal.refusedFor, MeterState.reject, same, Ne.symm same]
    · simp [ofTier, screened, MeterState.reject]
    · simp [ofTier, screened, MeterState.reject]
  | charged license =>
    unfold meter
    dsimp only
    generalize s.limiter.check request.monotonic license.keyID license.quotaPerMinute = checked
    obtain ⟨limiter, verdict⟩ := checked
    cases verdict with
    | none => constructor <;> simp [Disposal.refusedFor, admits]
    | some verdict =>
      obtain ⟨allowed, remaining, wait⟩ := verdict
      cases allowed with
      | true =>
        constructor
        · simp [Disposal.refusedFor, MeterState.decide]
        · intro tier
          by_cases same : license.tier = tier
          · subst same
            simp [ofTier, screened, admits, MeterState.decide]
          · simp [ofTier, screened, MeterState.decide, same, Ne.symm same]
        · simp [Disposal.refusedFor, MeterState.decide]
      | false =>
        constructor
        · intro reason
          by_cases same : "quota_exceeded" = reason
          · subst same
            simp [Disposal.refusedFor, MeterState.reject, MeterState.decide,
              LicenseRecord.quotaExceeded]
          · simp [Disposal.refusedFor, MeterState.reject, MeterState.decide,
              LicenseRecord.quotaExceeded, same, Ne.symm same]
        · simp [admits, MeterState.reject, MeterState.decide]
        · intro tier
          by_cases same : license.tier = tier
          · subst same
            simp [ofTier, screened, Disposal.refusedFor, MeterState.reject, MeterState.decide,
              LicenseRecord.quotaExceeded]
          · simp [ofTier, screened, MeterState.reject, MeterState.decide, same, Ne.symm same]

theorem Tallied.append {s middle final : MeterState} {first second : List Exchange}
    (before : Tallied runtime m s middle first) (after : Tallied runtime m middle final second) :
    Tallied runtime m s final (first ++ second) where
  rejections reason := by
    rw [after.rejections, before.rejections, List.countP_append, Nat.add_assoc]
  admitted tier := by rw [after.admitted, before.admitted, List.countP_append, Nat.add_assoc]
  throttled tier := by rw [after.throttled, before.throttled, List.countP_append, Nat.add_assoc]

theorem serve_tallied (s : MeterState) (requests : List HttpRequest) :
    Tallied runtime m s (m.serve runtime s requests).1 (m.serve runtime s requests).2 := by
  induction requests generalizing s with
  | nil => constructor <;> simp [serve]
  | cons request rest ih => exact (dispatch_tallied s request).append (ih _)

/-! ## Where a request raises -/

theorem lookup_error {key : Text} {raised : Raised}
    (failed : m.lookup runtime key = .error raised) : key.strip.toString? = none := by
  unfold lookup digest at failed
  split at failed
  next unencodable => exact unencodable
  next => cases failed

/-- What makes a request raise. -/
def Defective (runtime : Runtime) (m : LicenseKeyMiddleware) (request : HttpRequest) : Prop :=
  (∃ key, m.extractKey runtime request = some key ∧ key.strip.toString? = none) ∨
    ∃ license ∈ m.registry, (∃ expiry, license.expiresAt = .naive expiry) ∨
      license.quotaPerMinute ≤ 0

theorem screen_raised {request : HttpRequest} (raised : m.screen runtime request = .raised) :
    Defective runtime m request := by
  have shown := @screens runtime m request
  rw [raised] at shown
  cases shown with
  | unencodable extracted failed => exact Or.inl ⟨_, extracted, lookup_error failed⟩
  | @naive _ license _ looked naive =>
    refine Or.inr ⟨license, (lookup_some looked).1, Or.inl ?_⟩
    unfold LicenseRecord.isExpired at naive
    split at naive
    next expiry dated => exact ⟨expiry, dated⟩
    next => cases naive

theorem judge_raised {window : Rat} {history : List Exchange} {request : HttpRequest}
    (raised : .raised = m.judge runtime window history request) :
    Defective runtime m request := by
  unfold judge at raised
  split at raised
  next => cases raised
  next screened => exact screen_raised screened
  next => cases raised
  next license screened =>
    refine Or.inr ⟨license, (screen_charged screened).known, Or.inr ?_⟩
    unfold LicenseRecord.settle at raised
    dsimp only at raised
    split at raised
    next full =>
      split at raised
      next empty =>
        rw [List.getLast?_eq_none_iff.mp empty] at full
        exact full
      next => cases raised
    next => cases raised

theorem judge_refused {window : Rat} {history : List Exchange} {request : HttpRequest}
    {refusal : Refusal} (refused : .refused refusal = m.judge runtime window history request) :
    refusal.code ∈ licenseRejectionReasons := by
  cases screened : m.screen runtime request with
  | charged license =>
    obtain ⟨-, oldest, -, rfl⟩ := judge_throttled screened refused
    simp [LicenseRecord.quotaExceeded, licenseRejectionReasons]
  | refused first =>
    rw [judge, screened] at refused
    cases refused
    exact (screen_refused screened).1
  | exempt =>
    rw [judge, screened] at refused
    cases refused
  | raised =>
    rw [judge, screened] at refused
    cases refused

/-! ## What the client is told -/

structure Told (e : Exchange) (response : HttpResponse) : Prop where
  requestID : response.headers "X-Request-ID" = some (requestID e.1)
  metered : ∀ license n, e.2 = .admitted license n →
    response.headers "X-RateLimit-Limit" = some (number license.quotaPerMinute) ∧
      response.headers "X-RateLimit-Remaining" = some (number n) ∧
      response.headers "X-License-Tier" = some license.tier
  refused : ∀ refusal, e.2 = .refused refusal → response.status = refusal.status ∧
    response.error = some ⟨refusal.code, refusal.message, refusal.hint.map Text.ofString⟩ ∧
      response.headers "Retry-After" = refusal.headers.lookup "Retry-After"

theorem respond_told {request : HttpRequest} {disposal : Disposal} {response : HttpResponse}
    (responded : respond request disposal = some response) :
    Told (request, disposal) response := by
  cases disposal with
  | exempt =>
    obtain ⟨handled, -, rfl⟩ := Option.map_eq_some_iff.mp responded
    exact ⟨by simp [finalise, HttpResponse.setHeader], nofun, nofun⟩
  | raised => cases responded
  | refused refusal =>
    cases responded
    refine ⟨by simp [finalise, HttpResponse.setHeader], nofun, fun refusal' same => ?_⟩
    cases same
    simp [finalise, HttpResponse.setHeader, errorResponse]
  | admitted license n =>
    obtain ⟨handled, -, rfl⟩ := Option.map_eq_some_iff.mp responded
    refine ⟨by simp [finalise, HttpResponse.setHeader], fun license' n' same => ?_, nofun⟩
    cases same
    simp [finalise, HttpResponse.setHeader]

/-! ## The guarantees -/

def idle (windowSeconds : Int) : MeterState where
  limiter := SlidingWindowLimiter.ofSeconds windowSeconds

/-- The exchanges of a run that finds the limiter idle. -/
def exchanges (runtime : Runtime) (m : LicenseKeyMiddleware) (windowSeconds : Int)
    (requests : List HttpRequest) : List Exchange :=
  (m.serve runtime (idle windowSeconds) requests).2

structure Governed (runtime : Runtime) (m : LicenseKeyMiddleware) (windowSeconds : Int)
    (requests : List HttpRequest) (served : List Exchange) : Prop where
  /-- only a known, live and entitled licence reaches a handler -/
  authorised : ∀ request license n, (request, .admitted license n) ∈ served →
    Authorised runtime m request license
  /-- no window holds more admissions of a key id than its quota -/
  bounded : ∀ key quota, 0 ≤ quota →
    (∀ l ∈ m.registry, l.keyID = key → l.quotaPerMinute ≤ quota) → ∀ a : Rat,
    ((handedOn key served).filter fun t => a ≤ t ∧ t < a + windowSeconds).length ≤ quota
  /-- what remains is told exactly -/
  remaining : ∀ before request license n after,
    served = before ++ (request, .admitted license n) :: after → 0 ≤ n ∧
      n + 1 + ((held (windowSeconds : Rat) request.monotonic
        (handedOn license.keyID before)).length : Int) = license.quotaPerMinute
  /-- a refusal for the quota names the wait -/
  waits : ∀ before request license refusal after,
    served = before ++ (request, .refused refusal) :: after →
    m.screen runtime request = .charged license → m.SameQuota license →
    ∃ seconds, 1 ≤ seconds ∧ refusal.headers.lookup "Retry-After" = some (number seconds) ∧
      Waits runtime m license request.monotonic seconds after
  /-- other licences, and requests that were refused unmetered, make no difference -/
  alone : ∀ key, served.filter (fun e => m.chargedTo runtime key e.1) =
    exchanges runtime m windowSeconds (requests.filter (m.chargedTo runtime key))
  declared : ∀ request refusal, (request, .refused refusal) ∈ served →
    refusal.code ∈ licenseRejectionReasons
  raised : ∀ request, (request, .raised) ∈ served → Defective runtime m request
  tallied : Tallied runtime m (idle windowSeconds)
    (m.serve runtime (idle windowSeconds) requests).1 served
  told : ∀ e ∈ served, ∀ response, respond e.1 e.2 = some response → Told e response

theorem exchanges_judged (windowSeconds : Int) (positive : 0 < windowSeconds)
    {requests : List HttpRequest}
    (ordered : requests.Pairwise fun a b => a.monotonic ≤ b.monotonic) :
    Judged runtime m windowSeconds [] (exchanges runtime m windowSeconds requests) := by
  have wide : (0 : Rat) < windowSeconds := by exact_mod_cast positive
  cases requests with
  | nil =>
    intro before request disposal after split
    simp [exchanges, serve] at split
  | cons first rest =>
    refine serve_judged (tracks_start windowSeconds first.monotonic) wide ?_ ordered
    intro r member
    rcases List.mem_cons.mp member with rfl | later
    · exact le_rfl
    · exact (List.pairwise_cons.mp ordered).1 r later

/-- One licence for one request a minute, and three requests that present it. -/
def demoGate : LicenseKeyMiddleware where
  registry := [⟨"lic_standard_demo", Text.ofString "key", Text.ofString "rotterdam-polymers",
    Text.ofString "STANDARD", 1, .aware 100, ["ai.intercept"]⟩]
  header := "X-OpenOntology-License-Key"
  exempt := ["/healthz"]
  featureByPrefix := [("/v1/intercept", "ai.intercept")]

def demoRequest (now : Int) (monotonic : Rat) : HttpRequest where
  path := "/v1/intercept"
  headers name := if name = "Authorization" then some (Text.ofString "Bearer key") else none
  now := now
  monotonic := monotonic
  freshID := []
  elapsed := []
  handler _ := some { status := 200 }

end LicenseKeyMiddleware

end OpenOntology.Intercept
