import OpenOntology.Intercept.Middleware

/-!
# The limiter's deques and the history

The deques are a cache of the history: what becomes of a request can be read off the
exchanges before it. From there, no window holds more admissions than a quota allows, and
the wait that a refusal names is the right one.
-/
namespace OpenOntology.Intercept
open Library Python Worker

abbrev Exchange := HttpRequest × Disposal

namespace Disposal

/-- A request of the key id was handed on. -/
def admittedFor (key : String) : Disposal → Bool
  | .admitted license _ => license.keyID = key
  | _ => false

def refusedFor (reason : String) : Disposal → Bool
  | .refused refusal => refusal.code = reason
  | _ => false

end Disposal

/-- When requests of the key id were handed on, latest first. -/
def handedOn (key : String) (history : List Exchange) : List Rat :=
  ((history.filter fun e => e.2.admittedFor key).map fun e => e.1.monotonic).reverse

/-- What the limiter's part comes to, on the admissions of the licence's key id so far. -/
def LicenseRecord.settle (license : LicenseRecord) (window : Rat) (log : List Rat) (now : Rat) :
    Disposal :=
  let covered := held window now log
  if license.quotaPerMinute ≤ covered.length then
    match covered.getLast? with
    | none => .raised
    | some oldest => .refused (license.quotaExceeded (max 0 (oldest + window - now)))
  else .admitted license (max 0 (license.quotaPerMinute - (covered.length + 1)))

section
variable {license : LicenseRecord} {window now : Rat} {log : List Rat}

theorem settle_admitted_iff {n : Int} {l : LicenseRecord} :
    license.settle window log now = .admitted l n ↔
      (held window now log).length < license.quotaPerMinute ∧ license = l ∧
        n = license.quotaPerMinute - ((held window now log).length + 1) := by
  unfold LicenseRecord.settle
  dsimp only
  split
  next full =>
    refine iff_of_false ?_ fun room => by omega
    split <;> nofun
  next room =>
    rw [max_eq_right (by omega)]
    constructor
    · intro same
      cases same
      exact ⟨by omega, rfl, rfl⟩
    · rintro ⟨-, same, counted⟩
      rw [same] at counted ⊢
      rw [counted]

theorem settle_full (full : license.quotaPerMinute ≤ (held window now log).length)
    {oldest : Rat} (last : (held window now log).getLast? = some oldest) :
    license.settle window log now =
      .refused (license.quotaExceeded (max 0 (oldest + window - now))) := by
  unfold LicenseRecord.settle
  dsimp only
  rw [if_pos full, last]

theorem settle_refused {refusal : Refusal}
    (refused : license.settle window log now = .refused refusal) :
    license.quotaPerMinute ≤ (held window now log).length ∧
      ∃ oldest, (held window now log).getLast? = some oldest ∧
        refusal = license.quotaExceeded (max 0 (oldest + window - now)) := by
  unfold LicenseRecord.settle at refused
  dsimp only at refused
  split at refused
  next full =>
    refine ⟨full, ?_⟩
    split at refused
    next => cases refused
    next oldest last =>
      cases refused
      exact ⟨oldest, last, rfl⟩
  next => cases refused

end

/-! ## The deques and the history -/

/-- Each deque holds the admissions of its key that some earlier window covered. -/
structure Tracks (window now : Rat) (logs : String → List Rat) (l : SlidingWindowLimiter) :
    Prop where
  span : l.window = window
  bucket : ∀ key, ∃ at_t ≤ now, l.hits key = (held window at_t (logs key)).reverse
  sorted : ∀ key, (logs key).Pairwise (· ≥ ·)
  past : ∀ key, ∀ t ∈ logs key, t ≤ now

theorem tracks_start (window : Int) (now : Rat) :
    Tracks window now (fun _ => []) (SlidingWindowLimiter.ofSeconds window) where
  span := rfl
  bucket _ := ⟨now, le_rfl, rfl⟩
  sorted _ := List.Pairwise.nil
  past _ _ member := absurd member List.not_mem_nil

section
variable {window now t : Rat} {logs : String → List Rat} {l : SlidingWindowLimiter}

theorem Tracks.trims (h : Tracks window now logs l) (le : now ≤ t) (key : String) :
    (l.hits key).dropWhile (· ≤ t - l.window) = (held window t (logs key)).reverse := by
  obtain ⟨at_t, earlier, same⟩ := h.bucket key
  rw [same, h.span]
  exact dropWhile_reverse_held (h.sorted key) (earlier.trans le)

/-- A deque that is replaced by what the window covers of a log. -/
theorem Tracks.update (h : Tracks window now logs l) (le : now ≤ t) (key : String)
    (log : List Rat) (sorted : log.Pairwise (· ≥ ·)) (past : ∀ x ∈ log, x ≤ t) :
    Tracks window t (Function.update logs key log)
      ⟨window, Function.update l.hits key (held window t log).reverse⟩ where
  span := rfl
  bucket key' := by
    dsimp only
    by_cases same : key' = key
    · subst same
      exact ⟨t, le_rfl, by simp⟩
    · obtain ⟨at_t, earlier, unchanged⟩ := h.bucket key'
      exact ⟨at_t, earlier.trans le, by simpa [same] using unchanged⟩
  sorted key' := by
    by_cases same : key' = key
    · subst same
      simpa using sorted
    · simpa [same] using h.sorted key'
  past key' := by
    by_cases same : key' = key
    · subst same
      simpa using past
    · simpa [same] using fun x member => (h.past key' x member).trans le

/-- Metering a request does what the history says, and the deques follow it. -/
theorem Tracks.meter {s : MeterState} (h : Tracks window now logs s.limiter) (le : now ≤ t)
    (positive : 0 < window) (license : LicenseRecord) :
    (LicenseKeyMiddleware.meter s license t).2 =
        license.settle window (logs license.keyID) t ∧
      Tracks window t
        (if (license.settle window (logs license.keyID) t).admittedFor license.keyID then
          Function.update logs license.keyID (t :: logs license.keyID) else logs)
        (LicenseKeyMiddleware.meter s license t).1.limiter := by
  have trimmed := h.trims le license.keyID
  have sorted := h.sorted license.keyID
  have past : ∀ x ∈ logs license.keyID, x ≤ t := fun x member =>
    (h.past license.keyID x member).trans le
  unfold LicenseKeyMiddleware.meter SlidingWindowLimiter.check LicenseRecord.settle
  dsimp only
  rw [trimmed, List.length_reverse, h.span]
  by_cases full : license.quotaPerMinute ≤ (held window t (logs license.keyID)).length
  · rw [if_pos full, if_pos full, List.head?_reverse]
    have kept := h.update le license.keyID (logs license.keyID) sorted past
    rw [Function.update_eq_self] at kept
    cases (held window t (logs license.keyID)).getLast? with
    | none => exact ⟨rfl, kept⟩
    | some oldest => exact ⟨rfl, kept⟩
  · rw [if_neg full, if_neg full]
    refine ⟨by simp, ?_⟩
    have grown := h.update le license.keyID (t :: logs license.keyID)
      (List.pairwise_cons.mpr ⟨past, sorted⟩) (by simpa using past)
    rw [held_cons_of_pos positive, List.reverse_cons] at grown
    simpa [Disposal.admittedFor, MeterState.decide] using grown

theorem Tracks.later (h : Tracks window now logs l) (le : now ≤ t) : Tracks window t logs l where
  span := h.span
  bucket key := by
    obtain ⟨at_t, earlier, same⟩ := h.bucket key
    exact ⟨at_t, earlier.trans le, same⟩
  sorted := h.sorted
  past key x member := (h.past key x member).trans le

end

/-! ## The screening -/

/-- What a request that is charged to a licence has shown. -/
structure Authorised (runtime : Runtime) (m : LicenseKeyMiddleware) (request : HttpRequest)
    (license : LicenseRecord) : Prop where
  guarded : request.path ∉ m.exempt
  known : license ∈ m.registry
  presented : ∃ key, m.extractKey runtime request = some key ∧
    digest runtime key = .ok license.keyDigest
  live : ∃ expiry, license.expiresAt = .aware expiry ∧ request.now < expiry
  entitled : ∀ feature, m.requiredFeature request.path = some feature → feature ≠ "" →
    feature ∈ license.features

namespace LicenseKeyMiddleware
variable {runtime : Runtime} {m : LicenseKeyMiddleware}

theorem lookup_some {key : Text} {license : LicenseRecord}
    (found : m.lookup runtime key = .ok (some license)) :
    license ∈ m.registry ∧ digest runtime key = .ok license.keyDigest := by
  unfold lookup at found
  cases shown : digest runtime key with
  | error raised =>
    rw [shown] at found
    cases found
  | ok presented =>
    rw [shown] at found
    have held := Except.ok.inj found
    have same := List.find?_some held
    rw [decide_eq_true_eq] at same
    rw [same]
    exact ⟨List.mem_reverse.mp (List.mem_of_find?_eq_some held), rfl⟩

theorem isExpired_false {license : LicenseRecord} {now : Int}
    (live : license.isExpired now = .ok false) :
    ∃ expiry, license.expiresAt = .aware expiry ∧ now < expiry := by
  unfold LicenseRecord.isExpired at live
  split at live
  next => cases live
  next expiry dated =>
    simp only [Except.ok.injEq, decide_eq_false_iff_not, not_le] at live
    exact ⟨expiry, dated, live⟩

/-- How the screening comes to its result; the refusals stand in the order of the checks. -/
inductive Screens (runtime : Runtime) (m : LicenseKeyMiddleware) (request : HttpRequest) :
    Screening → Prop where
  | exempt : Screens runtime m request .exempt
  | keyMissing : Screens runtime m request (.refused (keyMissing m.header))
  | unencodable {key : Text} {raised : Raised} (extracted : m.extractKey runtime request = some key)
      (failed : m.lookup runtime key = .error raised) : Screens runtime m request .raised
  | keyInvalid : Screens runtime m request (.refused keyInvalid)
  | naive {key : Text} {license : LicenseRecord} {raised : Raised}
      (looked : m.lookup runtime key = .ok (some license))
      (naive : license.isExpired request.now = .error raised) : Screens runtime m request .raised
  | expired (license : LicenseRecord) :
      Screens runtime m request (.refused (license.expired runtime))
  | featureMissing (license : LicenseRecord) (feature : String) :
      Screens runtime m request (.refused (license.featureMissing feature))
  | charged {key : Text} {license : LicenseRecord} (guarded : m.isExempt request.path = false)
      (extracted : m.extractKey runtime request = some key)
      (looked : m.lookup runtime key = .ok (some license))
      (live : license.isExpired request.now = .ok false)
      (entitled : ∀ feature, m.requiredFeature request.path = some feature → feature ≠ "" →
        license.has feature = true) : Screens runtime m request (.charged license)

theorem screens (request : HttpRequest) :
    Screens runtime m request (m.screen runtime request) := by
  unfold screen
  split
  next => exact .exempt
  next guarded =>
    rw [Bool.not_eq_true] at guarded
    split
    next => exact .keyMissing
    next key extracted =>
      split
      next failed => exact .unencodable extracted failed
      next => exact .keyInvalid
      next license looked =>
        split
        next naive => exact .naive looked naive
        next => exact .expired license
        next live =>
          split
          next feature needed =>
            obtain ⟨required, -⟩ := Option.filter_eq_some_iff.mp needed
            split
            next has =>
              refine .charged guarded extracted looked live fun feature' required' _ => ?_
              rw [required] at required'
              cases required'
              exact has
            next => exact .featureMissing license feature
          next free =>
            refine .charged guarded extracted looked live fun feature required filled => ?_
            rw [required] at free
            simp [filled] at free

theorem screen_charged {request : HttpRequest} {license : LicenseRecord}
    (charged : m.screen runtime request = .charged license) :
    Authorised runtime m request license := by
  have shown := @screens runtime m request
  rw [charged] at shown
  cases shown with
  | charged guarded extracted looked live entitled =>
    obtain ⟨known, same⟩ := lookup_some looked
    exact {
      guarded := by simpa [isExempt] using guarded
      known := known
      presented := ⟨_, extracted, same⟩
      live := isExpired_false live
      entitled := fun feature required filled => by
        simpa [LicenseRecord.has] using entitled feature required filled }

theorem screen_refused {request : HttpRequest} {refusal : Refusal}
    (refused : m.screen runtime request = .refused refusal) :
    refusal.code ∈ licenseRejectionReasons ∧ refusal.code ≠ "quota_exceeded" := by
  have shown := @screens runtime m request
  rw [refused] at shown
  cases shown with
  | keyMissing => simp [keyMissing, licenseRejectionReasons]
  | keyInvalid => exact ⟨by decide, by decide⟩
  | expired license => simp [LicenseRecord.expired, licenseRejectionReasons]
  | featureMissing license feature =>
    simp [LicenseRecord.featureMissing, licenseRejectionReasons]

/-! ## One dispatch -/

section
variable (runtime m)

/-- What becomes of a request, read off the exchanges before it. -/
def judge (window : Rat) (history : List Exchange) (request : HttpRequest) : Disposal :=
  match m.screen runtime request with
  | .exempt => .exempt
  | .raised => .raised
  | .refused refusal => .refused refusal
  | .charged license =>
    license.settle window (handedOn license.keyID history) request.monotonic

def chargedTo (key : String) (request : HttpRequest) : Bool :=
  match m.screen runtime request with
  | .charged license => license.keyID = key
  | _ => false

end

theorem handedOn_snoc (key : String) (history : List Exchange) (e : Exchange) :
    handedOn key (history ++ [e]) =
      if e.2.admittedFor key then e.1.monotonic :: handedOn key history
      else handedOn key history := by
  unfold handedOn
  rw [List.filter_append, List.map_append, List.reverse_append]
  split
  next admitted => rw [List.filter_cons_of_pos (by simpa using admitted)]; rfl
  next other => rw [List.filter_cons_of_neg (by simpa using other)]; rfl

/-- A settled licence is handed on under its own key id, or not at all. -/
theorem settle_admittedFor (license : LicenseRecord) (window : Rat) (log : List Rat) (now : Rat)
    (key : String) : (license.settle window log now).admittedFor key =
      ((license.settle window log now).admittedFor license.keyID && license.keyID = key) := by
  cases settled : license.settle window log now with
  | admitted l n =>
    obtain ⟨-, rfl, -⟩ := settle_admitted_iff.mp settled
    simp [Disposal.admittedFor]
  | exempt => rfl
  | raised => rfl
  | refused refusal => rfl

/-- A dispatch does what the history says, and the deques follow it. -/
theorem dispatch_judged {window now : Rat} {history : List Exchange} {s : MeterState}
    {request : HttpRequest} (h : Tracks window now (handedOn · history) s.limiter)
    (le : now ≤ request.monotonic) (positive : 0 < window) :
    (m.dispatch runtime s request).2 = m.judge runtime window history request ∧
      Tracks window request.monotonic
        (handedOn · (history ++ [(request, m.judge runtime window history request)]))
        (m.dispatch runtime s request).1.limiter := by
  have idle : ∀ d : Disposal, (∀ key, d.admittedFor key = false) →
      Tracks window request.monotonic (handedOn · (history ++ [(request, d)])) s.limiter := by
    intro d other
    have same : (handedOn · (history ++ [(request, d)])) = (handedOn · history) := by
      funext key
      simp [handedOn_snoc, other key]
    rw [same]
    exact h.later le
  unfold dispatch judge
  cases screened : m.screen runtime request with
  | exempt => exact ⟨rfl, idle _ fun _ => rfl⟩
  | raised => exact ⟨rfl, idle _ fun _ => rfl⟩
  | refused refusal => exact ⟨rfl, idle _ fun _ => rfl⟩
  | charged license =>
    obtain ⟨settled, follows⟩ := h.meter le positive license
    refine ⟨settled, ?_⟩
    have logs : (handedOn · (history ++ [(request,
        license.settle window (handedOn license.keyID history) request.monotonic)])) =
        if (license.settle window (handedOn license.keyID history) request.monotonic).admittedFor
            license.keyID then
          Function.update (handedOn · history) license.keyID
            (request.monotonic :: handedOn license.keyID history)
        else (handedOn · history) := by
      funext key
      rw [handedOn_snoc, settle_admittedFor]
      by_cases same : license.keyID = key
      · subst same
        split <;> simp_all
      · rw [decide_eq_false same, Bool.and_false, if_neg Bool.false_ne_true]
        split
        next => simp [Function.update_of_ne (Ne.symm same)]
        next => rfl
    dsimp only
    rw [logs]
    exact follows

/-! ## A whole run -/

/-- Every exchange is as the ones before it say. -/
def Judged (runtime : Runtime) (m : LicenseKeyMiddleware) (window : Rat)
    (history served : List Exchange) : Prop :=
  ∀ before request disposal after, served = before ++ (request, disposal) :: after →
    disposal = m.judge runtime window (history ++ before) request

theorem serve_requests (s : MeterState) (requests : List HttpRequest) :
    (m.serve runtime s requests).2.map Prod.fst = requests := by
  induction requests generalizing s with
  | nil => rfl
  | cons request rest ih => simp [serve, ih]

theorem serve_judged {window now : Rat} {history : List Exchange} {s : MeterState}
    {requests : List HttpRequest} (h : Tracks window now (handedOn · history) s.limiter)
    (positive : 0 < window) (later : ∀ r ∈ requests, now ≤ r.monotonic)
    (ordered : requests.Pairwise fun a b => a.monotonic ≤ b.monotonic) :
    Judged runtime m window history (m.serve runtime s requests).2 := by
  induction requests generalizing now history s with
  | nil =>
    intro before request disposal after split
    simp [serve] at split
  | cons first rest ih =>
    have le := later first List.mem_cons_self
    obtain ⟨judged, follows⟩ := @dispatch_judged runtime m window now history s first h le positive
    obtain ⟨next_later, ordered⟩ := List.pairwise_cons.mp ordered
    have rest_judged := ih follows next_later ordered
    intro before request disposal after split
    cases before with
    | nil =>
      cases split
      rw [List.append_nil]
      exact judged
    | cons e before =>
      simp only [serve, List.cons_append, List.cons.injEq] at split
      obtain ⟨rfl, split⟩ := split
      rw [List.append_cons, judged]
      exact rest_judged before request disposal after split

/-- The times of what was handed on, at a later exchange. -/
theorem handedOn_le {served before after : List Exchange} {e : Exchange}
    (ordered : (served.map Prod.fst).Pairwise fun a b => a.monotonic ≤ b.monotonic)
    (split : served = before ++ e :: after) {key : String} {t : Rat}
    (member : t ∈ handedOn key before) : t ≤ e.1.monotonic := by
  rw [split, List.map_append, List.map_cons, List.pairwise_append] at ordered
  obtain ⟨d, kept, rfl⟩ := List.mem_map.mp (List.mem_reverse.mp member)
  exact ordered.2.2 d.1 (List.mem_map_of_mem (List.mem_of_mem_filter kept)) e.1 List.mem_cons_self

theorem judge_admitted {window : Rat} {history : List Exchange} {request : HttpRequest}
    {license : LicenseRecord} {n : Int}
    (admitted : .admitted license n = m.judge runtime window history request) :
    Authorised runtime m request license ∧
      (held window request.monotonic (handedOn license.keyID history)).length <
        license.quotaPerMinute ∧
      n = license.quotaPerMinute -
        ((held window request.monotonic (handedOn license.keyID history)).length + 1) := by
  unfold judge at admitted
  split at admitted
  next => cases admitted
  next => cases admitted
  next => cases admitted
  next charged =>
    obtain ⟨room, rfl, counted⟩ := settle_admitted_iff.mp admitted.symm
    exact ⟨screen_charged charged, room, counted⟩

/-- The admissions of a key id, under any bound on its quotas. -/
theorem admitted_handedOn {window : Rat} {served : List Exchange}
    (judged : Judged runtime m window [] served)
    (ordered : (served.map Prod.fst).Pairwise fun a b => a.monotonic ≤ b.monotonic) {key : String}
    {quota : Int} (bounded : ∀ l ∈ m.registry, l.keyID = key → l.quotaPerMinute ≤ quota)
    (before after : List Exchange) (split : served = before ++ after) :
    Admitted window quota (handedOn key before) := by
  induction before using List.reverseRecOn generalizing after with
  | nil => exact trivial
  | append_singleton before e ih =>
    rw [List.append_assoc, List.singleton_append] at split
    have earlier := ih (e :: after) split
    rw [handedOn_snoc]
    split
    next admitted =>
      obtain ⟨request, disposal⟩ := e
      cases disposal with
      | admitted license n =>
        obtain ⟨authorised, room, -⟩ := judge_admitted (judged before request _ after split)
        have named : license.keyID = key := by simpa [Disposal.admittedFor] using admitted
        have within := bounded license authorised.known named
        rw [List.nil_append, named] at room
        exact ⟨room.trans_le within, fun t member => handedOn_le ordered split member, earlier⟩
      | exempt => cases admitted
      | raised => cases admitted
      | refused refusal => cases admitted
    next => exact earlier

/-! ## The wait that a refusal names -/

theorem handedOn_append (key : String) (first second : List Exchange) :
    handedOn key (first ++ second) = handedOn key second ++ handedOn key first := by
  simp [handedOn]

theorem handedOn_of_none {key : String} {middle : List Exchange}
    (none_admitted : ∀ e ∈ middle, e.2.admittedFor key = false) : handedOn key middle = [] := by
  unfold handedOn
  rw [List.filter_eq_nil_iff.mpr fun e member => by simp [none_admitted e member]]
  rfl

/-- The oldest of a log is at its end. -/
theorem last_le {log : List Rat} (sorted : log.Pairwise (· ≥ ·)) {oldest : Rat}
    (last : log.getLast? = some oldest) : ∀ t ∈ log, oldest ≤ t := by
  intro t member
  rw [List.getLast?_eq_head?_reverse] at last
  obtain ⟨rest, turned⟩ := List.head?_eq_some_iff.mp last
  have ascending : log.reverse.Pairwise (· ≤ ·) := List.pairwise_reverse.mpr sorted
  rw [← List.mem_reverse, turned] at member
  rw [turned, List.pairwise_cons] at ascending
  rcases List.mem_cons.mp member with rfl | later
  · exact le_rfl
  · exact ascending.1 t later

section
variable {window now later oldest : Rat} {quota : Int} {log : List Rat}

theorem lt_retryAfter (wait : Rat) : wait < LicenseRecord.retryAfter wait := by
  have most : wait.floor + 1 ≤ LicenseRecord.retryAfter wait := le_max_right 1 _
  calc wait < wait.floor + 1 := Int.lt_floor_add_one wait
    _ ≤ LicenseRecord.retryAfter wait := by exact_mod_cast most

theorem retryAfter_le {wait : Rat} (nonneg : 0 ≤ wait) :
    (LicenseRecord.retryAfter wait : Rat) ≤ wait + 1 := by
  have least : 0 ≤ wait.floor := Int.floor_nonneg.mpr nonneg
  have exact : LicenseRecord.retryAfter wait = wait.floor + 1 := max_eq_right (by omega)
  have floor : (wait.floor : Rat) ≤ wait := Int.floor_le wait
  rw [exact]
  push_cast
  linarith

/-- Once the oldest admission has left the window, there is room. -/
theorem held_lt_quota (admitted : Admitted window quota log) (past : ∀ t ∈ log, t ≤ now)
    (last : (held window now log).getLast? = some oldest) (le : now ≤ later)
    (passed : oldest + window ≤ later) : (held window later log).length < quota := by
  have member := List.mem_of_getLast? last
  have nonneg : 0 ≤ quota := by
    cases log with
    | nil => cases member
    | cons t rest =>
      have room := admitted.1
      omega
  have fewer := held_length_lt le member passed
  have bounded := admitted.held_le nonneg past
  omega

/-- Until the oldest admission leaves the window, all of them stay. -/
theorem held_le_held (sorted : log.Pairwise (· ≥ ·))
    (last : (held window now log).getLast? = some oldest) (newer : List Rat)
    (early : later < oldest + window) :
    (held window now log).length ≤ (held window later (newer ++ log)).length := by
  have least := last_le (sorted.sublist List.filter_sublist) last
  have stays : (held window now log).length ≤ (held window later log).length := by
    unfold held
    rw [← List.countP_eq_length_filter, ← List.countP_eq_length_filter]
    refine List.countP_mono_left fun t member covered => ?_
    have above := least t (List.mem_filter.mpr ⟨member, covered⟩)
    simp only [decide_eq_true_eq] at covered ⊢
    linarith
  calc (held window now log).length ≤ (held window later log).length := stays
    _ ≤ (held window later newer ++ held window later log).length := by simp
    _ = (held window later (newer ++ log)).length := by rw [held, held, held, List.filter_append]

end

theorem judge_throttled {window : Rat} {history : List Exchange} {request : HttpRequest}
    {license : LicenseRecord} {refusal : Refusal}
    (charged : m.screen runtime request = .charged license)
    (refused : .refused refusal = m.judge runtime window history request) :
    let covered := held window request.monotonic (handedOn license.keyID history)
    license.quotaPerMinute ≤ covered.length ∧ ∃ oldest, covered.getLast? = some oldest ∧
      refusal = license.quotaExceeded (max 0 (oldest + window - request.monotonic)) := by
  unfold judge at refused
  rw [charged] at refused
  exact settle_refused refused.symm

theorem handedOn_sorted {served : List Exchange}
    (ordered : (served.map Prod.fst).Pairwise fun a b => a.monotonic ≤ b.monotonic)
    (key : String) : (handedOn key served).Pairwise (· ≥ ·) := by
  unfold handedOn
  rw [List.pairwise_reverse, List.pairwise_map]
  exact (List.pairwise_map.mp ordered).filter _

theorem chargedTo_iff {key : String} {request : HttpRequest} :
    m.chargedTo runtime key request = true ↔
      ∃ license, m.screen runtime request = .charged license ∧ license.keyID = key := by
  unfold chargedTo
  cases m.screen runtime request <;> simp

/-- All licences of the key id allow the same number of requests. -/
def SameQuota (m : LicenseKeyMiddleware) (license : LicenseRecord) : Prop :=
  ∀ l ∈ m.registry, l.keyID = license.keyID → l.quotaPerMinute = license.quotaPerMinute

/-- The wait is long enough, and at most a second too long. -/
structure Waits (runtime : Runtime) (m : LicenseKeyMiddleware) (license : LicenseRecord)
    (at_t : Rat) (seconds : Int) (rest : List Exchange) : Prop where
  enough : ∀ middle request disposal after, rest = middle ++ (request, disposal) :: after →
    m.chargedTo runtime license.keyID request → at_t + seconds ≤ request.monotonic →
    (∀ e ∈ middle, e.2.admittedFor license.keyID = false) →
    disposal.admittedFor license.keyID = true
  needed : ∀ middle request disposal after, rest = middle ++ (request, disposal) :: after →
    m.chargedTo runtime license.keyID request → request.monotonic < at_t + (seconds - 1) →
    disposal.refusedFor "quota_exceeded" = true

theorem settle_room {license : LicenseRecord} {window now : Rat} {log : List Rat}
    (room : (held window now log).length < license.quotaPerMinute) :
    license.settle window log now = .admitted license
      (license.quotaPerMinute - ((held window now log).length + 1)) :=
  settle_admitted_iff.mpr ⟨room, rfl, rfl⟩

theorem throttled_waits {window : Rat} {served before rest : List Exchange}
    {request : HttpRequest} {refusal : Refusal} {license : LicenseRecord}
    (judged : Judged runtime m window [] served)
    (ordered : (served.map Prod.fst).Pairwise fun a b => a.monotonic ≤ b.monotonic)
    (split : served = before ++ (request, .refused refusal) :: rest)
    (charged : m.screen runtime request = .charged license) (same : m.SameQuota license) :
    ∃ seconds, 1 ≤ seconds ∧ refusal.headers.lookup "Retry-After" = some (number seconds) ∧
      Waits runtime m license request.monotonic seconds rest := by
  have here := judged before request _ rest split
  rw [List.nil_append] at here
  obtain ⟨full, oldest, last, rfl⟩ := judge_throttled charged here
  have admitted := admitted_handedOn judged ordered
    (fun l known named => (same l known named).le) before _ split
  have past : ∀ t ∈ handedOn license.keyID before, t ≤ request.monotonic :=
    fun t member => handedOn_le ordered split member
  have sorted : (handedOn license.keyID before).Pairwise (· ≥ ·) := by
    rw [split, List.map_append, List.pairwise_append] at ordered
    exact handedOn_sorted ordered.1 _
  have charges : ∀ {middle r d after}, rest = middle ++ (r, d) :: after →
      m.chargedTo runtime license.keyID r → ∃ l : LicenseRecord, l.keyID = license.keyID ∧
        l.quotaPerMinute = license.quotaPerMinute ∧ request.monotonic ≤ r.monotonic ∧
        d = l.settle window (handedOn license.keyID middle ++ handedOn license.keyID before)
          r.monotonic := by
    intro middle r d after later of_key
    obtain ⟨l, screened, named⟩ := chargedTo_iff.mp of_key
    rw [later, List.append_cons, ← List.append_assoc] at split
    have there := judged _ r d after split
    rw [List.nil_append, judge, screened] at there
    have quota := same l (screen_charged screened).known named
    rw [split] at ordered
    simp only [List.map_append, List.map_cons, List.pairwise_append] at ordered
    refine ⟨l, named, quota, ?_, ?_⟩
    · exact ordered.2.2 request (by simp) r List.mem_cons_self
    · simpa [named, handedOn_append, handedOn, Disposal.admittedFor] using there
  refine ⟨LicenseRecord.retryAfter (Max.max 0 (oldest + window - request.monotonic)),
    le_max_left _ _, rfl, ?_, ?_⟩
  · intro middle r d after later of_key waited idle
    obtain ⟨l, named, quota, le, rfl⟩ := charges later of_key
    rw [handedOn_of_none idle, List.nil_append]
    have passed : oldest + window ≤ r.monotonic := by
      have waits := lt_retryAfter (Max.max 0 (oldest + window - request.monotonic))
      have most := le_max_right 0 (oldest + window - request.monotonic)
      linarith
    have room := held_lt_quota admitted past last le passed
    rw [settle_room (quota ▸ room)]
    simpa [Disposal.admittedFor] using named
  · intro middle r d after later of_key early
    obtain ⟨l, named, quota, le, rfl⟩ := charges later of_key
    have inside : request.monotonic - window < oldest := by
      simpa using (List.mem_filter.mp (List.mem_of_getLast? last)).2
    have early' : r.monotonic < oldest + window := by
      rw [max_eq_right (by linarith)] at early
      have short : (LicenseRecord.retryAfter (oldest + window - request.monotonic) : Rat) ≤
          oldest + window - request.monotonic + 1 := retryAfter_le (by linarith)
      linarith
    have stay := held_le_held sorted last (handedOn license.keyID middle) early'
    obtain ⟨oldest', last'⟩ : ∃ o, (held window r.monotonic
        (handedOn license.keyID middle ++ handedOn license.keyID before)).getLast? = some o := by
      refine Option.ne_none_iff_exists'.mp fun empty => ?_
      rw [List.getLast?_eq_none_iff] at empty
      rw [empty, List.length_nil, Nat.le_zero, List.length_eq_zero_iff] at stay
      rw [stay] at last
      cases last
    have none_left : l.quotaPerMinute ≤ (held window r.monotonic
        (handedOn license.keyID middle ++ handedOn license.keyID before)).length := by
      rw [quota]
      omega
    rw [settle_full none_left last']
    rfl

end LicenseKeyMiddleware

end OpenOntology.Intercept
