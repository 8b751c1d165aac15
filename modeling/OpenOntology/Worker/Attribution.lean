import OpenOntology.Intercept.Licenses
import OpenOntology.Worker.Survival

/-!
# Whose key the worker presents

The gatekeeper authorises a record under the key the record carries, and stamps that
subscription's tenant on its commands. The client presents the worker's own key for the
destination, and the interceptor plans for the tenant of that one.
-/
namespace OpenOntology.Worker
open Python Library Intercept

/-- The record's own key: in its payload, or lifted onto it from a header. -/
def carriedKey (w : CommandWorker) (record : Record) (payload : Members) : Option Text :=
  (keyCandidates w.runtime w.gatekeeper (injectLicenseKey w payload record.headers)).findSome?
    nonBlank

/-- `_extract_key`, as the interceptor reads the worker's request. -/
def presentedBy (settings : InterceptorSettings) (request : Request) : Option Text :=
  ((request.headers.lookup settings.licenseHeader).map Text.strip).filter fun key => key ≠ []

/-- The key `_destination` picks. -/
def destinationKey (settings : InterceptorSettings) (unicode : Unicode) (own : String)
    (s : Subscription) : String :=
  if routesToEnterprise settings unicode s.plan = true ∧ strip settings.enterpriseLicenseKey ≠ ""
  then strip settings.enterpriseLicenseKey
  else own

section
variable (w : CommandWorker) (licenses : LicenseRegistry) (correlation : Text) (issuedAt : Int)

/-- The request presents the record's key, and whatever plan the interceptor returns for the
tenant of the key it was presented, the commands carry that tenant. -/
structure Attributed (payload : Members) (mutation : MutationEnvelope) (s : Subscription)
    (key : Text) : Prop where
  credential : ∀ request,
    planRequest w.interceptor w.runtime.unicode s payload correlation = .ok request →
      presentedBy w.interceptor request = some key
  tenant : ∀ request presented license plan commands,
    planRequest w.interceptor w.runtime.unicode s payload correlation = .ok request →
      presentedBy w.interceptor request = some presented →
        licenses.lookup w.runtime presented = .ok (some license) →
          text? license.tenant = some plan.tenant →
            translatePlan w.runtime.unicode w.texts mutation plan s w.settings correlation issuedAt =
                .ok commands →
              ∀ command ∈ commands, Text.ofString command.tenant = plan.tenant

/-- Some plan of the mutation becomes commands. -/
def Issuable (mutation : MutationEnvelope) (s : Subscription) : Prop :=
  ∃ plan commands,
    translatePlan w.runtime.unicode w.texts mutation plan s w.settings correlation issuedAt =
      .ok commands

/-- The worker's key for the destination is the record's, and the interceptor has the tenant
for it that a command carries. -/
structure SharesKey (own : String) (mutation : MutationEnvelope) (s : Subscription)
    (key : Text) : Prop where
  credential : Text.strip (Text.ofString (destinationKey w.interceptor w.runtime.unicode own s)) =
    key
  tenant : ∀ license tenant, licenses.lookup w.runtime key = .ok (some license) →
    text? license.tenant = some tenant → Issuable w correlation issuedAt mutation s →
      (strippedStr 1 s.tenant).map Text.ofString = some tenant

variable {w licenses correlation issuedAt} {payload : Members} {mutation : MutationEnvelope}
  {s : Subscription} {key : Text} {own : String}

theorem planRequest_presents (configured : w.interceptor.licenseKey = some own) :
    ∃ request, planRequest w.interceptor w.runtime.unicode s payload correlation = .ok request ∧
      request.headers.lookup w.interceptor.licenseHeader =
        some (Text.ofString (destinationKey w.interceptor w.runtime.unicode own s)) := by
  unfold planRequest destination destinationKey presentedKey
  rw [configured]
  by_cases routed : routesToEnterprise w.interceptor w.runtime.unicode s.plan = true
  · by_cases keyed : strip w.interceptor.enterpriseLicenseKey = ""
    · rw [if_neg (by rw [routed]; decide), if_pos keyed, if_neg fun both => both.2 keyed]
      exact ⟨_, rfl, List.lookup_cons_self⟩
    · rw [if_neg (by rw [routed]; decide), if_neg keyed, if_pos ⟨routed, keyed⟩]
      exact ⟨_, rfl, List.lookup_cons_self⟩
  · rw [if_pos (Bool.eq_false_iff.mpr routed), if_neg fun both => routed both.1]
    exact ⟨_, rfl, List.lookup_cons_self⟩

/-- The tenant of a plan has no part in its translation. -/
theorem translatePlan_tenant (plan : ActionPlan) (tenant : Text) :
    translatePlan w.runtime.unicode w.texts mutation { plan with tenant := tenant } s w.settings
        correlation issuedAt =
      translatePlan w.runtime.unicode w.texts mutation plan s w.settings correlation issuedAt := rfl

/-- Every command carries the tenant as the contract strips it. -/
theorem translatePlan_stamps {plan : ActionPlan} {commands : List (CommandPayload w.runtime.unicode)}
    (translated : translatePlan w.runtime.unicode w.texts mutation plan s w.settings correlation
      issuedAt = .ok commands) :
    ∀ command ∈ commands, strippedStr 1 s.tenant = some command.tenant := by
  intro command member
  obtain ⟨entry, -, stepped⟩ := forall₂_exists_left (translatePlan_ok.mp translated) member
  obtain ⟨action, priority, -, -, built⟩ := translateStep_ok.mp stepped
  exact CommandDraft.texts_tenant (CommandPayload.build_carries built).texts

theorem translatePlan_issues {plan : ActionPlan} {commands : List (CommandPayload w.runtime.unicode)}
    (translated : translatePlan w.runtime.unicode w.texts mutation plan s w.settings correlation
      issuedAt = .ok commands) : ∃ command, command ∈ commands := by
  have related := translatePlan_ok.mp translated
  cases commands with
  | nil =>
    cases steps : (plan.commands.take w.settings.maxCommands).zipIdx 1 with
    | nil => exact absurd steps commands_taken_ne_nil
    | cons entry rest =>
      rw [steps] at related
      cases related
  | cons command rest => exact ⟨command, List.mem_cons_self⟩

theorem attributed_iff_sharesKey (configured : w.interceptor.licenseKey = some own)
    (carried : key ≠ []) :
    Attributed w licenses correlation issuedAt payload mutation s key ↔
      SharesKey w licenses correlation issuedAt own mutation s key := by
  have presented : ∃ request,
      planRequest w.interceptor w.runtime.unicode s payload correlation = .ok request ∧
        request.headers.lookup w.interceptor.licenseHeader =
          some (Text.ofString (destinationKey w.interceptor w.runtime.unicode own s)) :=
    planRequest_presents configured
  obtain ⟨request, planned, header⟩ := presented
  have presents (presented : Text) : presentedBy w.interceptor request = some presented ↔
      Text.strip (Text.ofString (destinationKey w.interceptor w.runtime.unicode own s)) =
          presented ∧ presented ≠ [] := by
    unfold presentedBy
    rw [header, Option.map_some, Option.filter_eq_some_iff, Option.some.injEq]
    constructor
    · rintro ⟨same, solid⟩
      exact ⟨same, of_decide_eq_true solid⟩
    · rintro ⟨same, solid⟩
      exact ⟨same, decide_eq_true solid⟩
  constructor
  · intro attributed
    have shown := attributed.credential request planned
    refine ⟨((presents key).mp shown).1, fun license tenant found owner issuable => ?_⟩
    obtain ⟨plan, commands, translated⟩ := issuable
    obtain ⟨command, member⟩ := translatePlan_issues translated
    have stamped := attributed.tenant request key license { plan with tenant := tenant } commands
      planned shown found owner translated command member
    rw [translatePlan_stamps translated command member, Option.map_some]
    exact congrArg some stamped
  · intro shares
    constructor
    · intro request' planned'
      cases planned.symm.trans planned'
      exact (presents key).mpr ⟨shares.credential, carried⟩
    · intro request' presented license plan commands planned' shown found owner translated command
        member
      cases planned.symm.trans planned'
      obtain ⟨same, -⟩ := (presents presented).mp shown
      rw [shares.credential] at same
      subst same
      have stamped := shares.tenant license plan.tenant found owner ⟨plan, commands, translated⟩
      rw [translatePlan_stamps translated command member, Option.map_some] at stamped
      exact Option.some.inj stamped

end

/-! ## Two keys on one worker -/

def tankMutation : MutationEnvelope where
  eventID := "evt-tank"
  assetID := "TANK-4"
  sensorID := "level"
  transition := .raised
  severity := .high
  degraded := false
  identified := by decide
  stripped := by
    refine ⟨?_, ?_, ?_⟩ <;> apply trimSpace_eq_self <;> simp [OpenOntology.isSpace]

/-- The digests of two keys. -/
def demoDigest (key : String) : String :=
  if key = "oo-live-standard-demo-key" then
    "2618dab2aa4659740ade9a517a84435c9816449b36143050fc0545c7095670e2"
  else if key = "oo-live-enterprise-demo-key" then
    "1cd60411b26ee4aab0bc97772b53a6268e19bfcfabe5f353148650b4bb7592f4"
  else key

/-- A worker that runs under the enterprise key. -/
def enterpriseWorker : CommandWorker :=
  { bareWorker with
    runtime := { bareWorker.runtime with sha256 := demoDigest }
    gatekeeper := {
      licenseHeader := "X-License-Key"
      entitledPlans := [Text.ofString "STANDARD", Text.ofString "ENTERPRISE"]
      defaultKey := some "oo-live-enterprise-demo-key" }
    interceptor := { bareWorker.interceptor with
      licenseKey := some "oo-live-enterprise-demo-key" }
    modelValidate := fun _ => .ok tankMutation
    toJSONBytes := fun _ => .ok ByteArray.empty }

def standardSubscription : Subscription where
  keyID := Text.ofString "lic_standard_demo"
  keyDigest := Text.ofString "2618dab2aa4659740ade9a517a84435c9816449b36143050fc0545c7095670e2"
  tenant := Text.ofString "rotterdam-polymers"
  plan := Text.ofString "STANDARD"
  active := true
  expiresAt := .aware 1

/-- A payload with the standard key. -/
def standardPayload : Members :=
  [(Text.ofString "license_key", .str (Text.ofString "oo-live-standard-demo-key"))]

/-- Over HTTP, a record that carries its own recognised key is planned for under that key, and
its commands carry the tenant of the plan, exactly when the worker shares the key. -/
theorem attribution_iff (w : CommandWorker) (licenses : LicenseRegistry) (cache : LicenseCache)
    (now : Int) (record : Record) (payload : Members) (correlation : Text) (issuedAt : Int)
    (key : Text) (own : String) (configured : w.interceptor.licenseKey = some own)
    (carried : carriedKey w record payload = some key) :
    (∀ s mutation,
        authorize w.runtime w.gatekeeper cache now (injectLicenseKey w payload record.headers) =
          .ok s →
        w.modelValidate (injectLicenseKey w payload record.headers) = .ok mutation →
          Attributed w licenses correlation issuedAt
            (injectLicenseKey w payload record.headers) mutation s key) ↔
      ∀ s mutation,
        authorize w.runtime w.gatekeeper cache now (injectLicenseKey w payload record.headers) =
          .ok s →
        w.modelValidate (injectLicenseKey w payload record.headers) = .ok mutation →
          SharesKey w licenses correlation issuedAt own mutation s key := by
  have solid : key ≠ [] := by
    obtain ⟨candidate, -, spelled⟩ := List.exists_of_findSome?_eq_some carried
    unfold nonBlank at spelled
    split at spelled
    · split at spelled
      · cases spelled
      · rename_i solid
        cases spelled
        exact solid
    · cases spelled
  constructor
  · intro attributed s mutation recognised valid
    exact (attributed_iff_sharesKey configured solid).mp (attributed s mutation recognised valid)
  · intro shares s mutation recognised valid
    exact (attributed_iff_sharesKey configured solid).mpr (shares s mutation recognised valid)

theorem attribution_iff_standard :
    (∀ s mutation,
        authorize enterpriseWorker.runtime enterpriseWorker.gatekeeper
            (LicenseCache.fresh ⟨[standardSubscription]⟩ 300 1024) 0
            (injectLicenseKey enterpriseWorker standardPayload []) = .ok s →
        enterpriseWorker.modelValidate (injectLicenseKey enterpriseWorker standardPayload []) =
            .ok mutation →
          Attributed enterpriseWorker ⟨[]⟩ (Text.ofString "req-1") 0
            (injectLicenseKey enterpriseWorker standardPayload []) mutation s
            (Text.ofString "oo-live-standard-demo-key")) ↔
      ∀ s mutation,
        authorize enterpriseWorker.runtime enterpriseWorker.gatekeeper
            (LicenseCache.fresh ⟨[standardSubscription]⟩ 300 1024) 0
            (injectLicenseKey enterpriseWorker standardPayload []) = .ok s →
        enterpriseWorker.modelValidate (injectLicenseKey enterpriseWorker standardPayload []) =
            .ok mutation →
          SharesKey enterpriseWorker ⟨[]⟩ (Text.ofString "req-1") 0 "oo-live-enterprise-demo-key"
            mutation s (Text.ofString "oo-live-standard-demo-key") :=
  attribution_iff enterpriseWorker ⟨[]⟩ (LicenseCache.fresh ⟨[standardSubscription]⟩ 300 1024) 0
    { value := none } standardPayload (Text.ofString "req-1") 0
    (Text.ofString "oo-live-standard-demo-key") "oo-live-enterprise-demo-key" rfl
    (by decide +kernel)

/-- A record of one tenant is planned for under the key of another. -/
theorem attribution_lost :
    carriedKey enterpriseWorker { value := none } standardPayload =
        some (Text.ofString "oo-live-standard-demo-key") ∧
      authorize enterpriseWorker.runtime enterpriseWorker.gatekeeper
          (LicenseCache.fresh ⟨[standardSubscription]⟩ 300 1024) 0
          (injectLicenseKey enterpriseWorker standardPayload []) = .ok standardSubscription ∧
        ¬Attributed enterpriseWorker ⟨[]⟩ (Text.ofString "req-1") 0
          (injectLicenseKey enterpriseWorker standardPayload []) tankMutation standardSubscription
          (Text.ofString "oo-live-standard-demo-key") := by
  refine ⟨by decide +kernel, by rfl, fun attributed => ?_⟩
  have configured : enterpriseWorker.interceptor.licenseKey =
      some "oo-live-enterprise-demo-key" := rfl
  have shares := (attributed_iff_sharesKey configured (by decide)).mp attributed
  exact absurd shares.credential (by decide +kernel)

end OpenOntology.Worker
