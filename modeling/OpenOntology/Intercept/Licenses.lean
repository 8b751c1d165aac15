import OpenOntology.Library.Partial
import OpenOntology.Worker.Gatekeeper

/-!
# One billing export, two registries

`LicenseRegistry.from_file` keeps an entry's digest, key id and tenant as the export spells
them and prefers `tier` to `plan`; `SubscriptionRegistry.from_file` makes text of all of
them and prefers `plan` to `tier`.
-/
namespace OpenOntology.Intercept
open Library Python Worker

/-! ## The interceptor's registry -/

structure License where
  keyID : PyJson
  keyDigest : PyJson
  tenant : PyJson
  tier : Text
  expiresAt : DateTime

/-- `is_expired` at an aware time. -/
def License.isExpired (l : License) (now : Int) : Except Raised Bool :=
  match l.expiresAt with
  | .naive _ => .error (.escaped .typeError)
  | .aware expiry => .ok (expiry ≤ now)

/-- A value a set or the keys of a mapping may hold. -/
def hashable : PyJson → Bool
  | .arr _ => false
  | .obj _ => false
  | _ => true

/-- `frozenset(value)` succeeds. -/
def isFeatures : PyJson → Bool
  | .arr items => items.all hashable
  | .str _ => true
  | .obj _ => true
  | _ => false

def tierAliases : List (String × String) :=
  [("SMALL_BUSINESS", "STANDARD"), ("SMALLBUSINESS", "STANDARD"), ("SMB", "STANDARD"),
    ("BUSINESS", "STANDARD"), ("FREE", "COMMUNITY"), ("OSS", "COMMUNITY")]

def text? : PyJson → Option Text
  | .str text => some text
  | _ => none

section
variable (runtime : Runtime)

/-- `digest`. -/
def digest (key : Text) : Except Raised Text :=
  match key.strip.toString? with
  | none => .error (.escaped .unicodeEncodeError)
  | some stripped => .ok (Text.ofString (runtime.sha256 stripped))

/-- `normalise_tier`. -/
def normaliseTier (value : Text) : Text :=
  let tier := replaceChar ' ' '_' (replaceChar '-' '_' (runtime.unicode.upper value.strip))
  match (Text.toString? tier).bind fun name => tierAliases.lookup name with
  | some canonical => Text.ofString canonical
  | none => tier

/-- `entry.get("key_digest") or digest(entry["key"])`. -/
def digestField (entry : Members) : Option PyJson :=
  (truthyField entry "key_digest").or
    ((((field entry "key").bind text?).bind fun key => (digest runtime key).toOption).map .str)

/-- `entry.get("tier") or entry["plan"]`. -/
def tierField (entry : Members) : Option PyJson :=
  (truthyField entry "tier").or (field entry "plan")

def licenseEntry : PyJson → Option License
  | .obj entry => do
    let keyDigest ← (digestField runtime entry).filter hashable
    let keyID ← field entry "key_id"
    let tenant ← field entry "tenant"
    let level ← (tierField entry).bind text?
    let quota ← field entry "quota_per_minute"
    guard (runtime.isInt quota)
    let expiresAt ← ((field entry "expires_at").bind text?).bind runtime.fromisoformat
    guard (((field entry "features").map isFeatures).getD true)
    pure {
      keyID := keyID
      keyDigest := keyDigest
      tenant := tenant
      tier := normaliseTier runtime level
      expiresAt := expiresAt }
  | _ => none

/-- `LicenseRegistry`, in the order of the export. -/
structure LicenseRegistry where
  licenses : List License

namespace LicenseRegistry

/-- The mapping by digest keeps the last licence of a digest. -/
def lookup (registry : LicenseRegistry) (presentedKey : Text) : Except Raised (Option License) :=
  (digest runtime presentedKey).map fun presented =>
    registry.licenses.reverse.find? fun held => text? held.keyDigest = some presented

/-- `from_file`, on the text of the file: nothing where it raises. -/
def fromFile (document : String) : Option LicenseRegistry :=
  match loads runtime.interpreter document with
  | .ok (.arr entries) => (entries.mapM (licenseEntry runtime)).map .mk
  | _ => none

end LicenseRegistry

/-- The worker's answer to the same key: `key_digest`, then `lookup`. -/
def subscriptionOf (registry : SubscriptionRegistry) (presentedKey : Text) :
    Except Raised (Option Subscription) :=
  (keyDigest runtime presentedKey).map registry.lookup

end

/-- The same key id, tenant and canonical tier, expired at the same times. -/
structure Same (l : License) (s : Subscription) : Prop where
  keyID : text? l.keyID = some s.keyID
  tenant : text? l.tenant = some s.tenant
  tier : l.tier = s.plan
  expired : ∀ now, l.isExpired now = s.isExpired now

/-- A presented key means the same to both services. -/
def Alike : Except Raised (Option License) → Except Raised (Option Subscription) → Prop
  | .ok none, .ok none => True
  | .ok (some l), .ok (some s) => Same l s
  | .error raised, .error raised' => raised = raised'
  | _, _ => False

/-! ## Reading one entry twice -/

section
variable (runtime : Runtime)

def membersOf : PyJson → Members
  | .obj members => members
  | _ => []

/-- `entry.get("plan") or entry["tier"]`, as the worker reads the level. -/
def planField (entry : Members) : Option PyJson :=
  (truthyField entry "plan").or (field entry "tier")

/-- `datetime.fromisoformat(entry["expires_at"])`. -/
def expiryField (entry : Members) : Option DateTime :=
  ((field entry "expires_at").bind text?).bind runtime.fromisoformat

structure LicenseReads (entry : Members) (l : License) : Prop where
  keyDigest : digestField runtime entry = some l.keyDigest
  keyID : field entry "key_id" = some l.keyID
  tenant : field entry "tenant" = some l.tenant
  tier : ∃ level, tierField entry = some (.str level) ∧ l.tier = normaliseTier runtime level
  expiresAt : expiryField runtime entry = some l.expiresAt

structure SubscriptionReads (entry : Members) (s : Subscription) : Prop where
  keyDigest : (digestField runtime entry).map (strOf runtime) = some s.keyDigest
  keyID : (field entry "key_id").map (strOf runtime) = some s.keyID
  tenant : (field entry "tenant").map (strOf runtime) = some s.tenant
  plan : ∃ level, planField entry = some level ∧
    s.plan = normalisePlan runtime (strOf runtime level)
  expiresAt : expiryField runtime entry = some s.expiresAt

theorem text?_eq_some {value : PyJson} {text : Text} :
    text? value = some text ↔ value = .str text := by
  cases value <;> simp [text?]

variable {runtime}

theorem licenseReads {e : PyJson} {l : License} (read : licenseEntry runtime e = some l) :
    LicenseReads runtime (membersOf e) l := by
  cases e with
  | obj entry =>
    simp only [licenseEntry, Option.bind_eq_bind, Option.bind_eq_some_iff,
      Option.pure_def, Option.some.injEq] at read
    obtain ⟨keyDigest, kept, keyID, id, tenant, owner, level, named, quota, -, -, -, expiresAt,
      expiry, -, -, rfl⟩ := read
    obtain ⟨value, tiered, spelled⟩ := named
    rw [text?_eq_some.mp spelled] at tiered
    exact ⟨(Option.filter_eq_some_iff.mp kept).1, id, owner, ⟨level, tiered, rfl⟩, by
      obtain ⟨text, raw, parsed⟩ := expiry
      exact Option.bind_eq_some_iff.mpr ⟨text, Option.bind_eq_some_iff.mpr raw, parsed⟩⟩
  | _ => cases read

theorem digest_eq_keyDigest (key : Text) : digest runtime key = keyDigest runtime key := rfl

theorem normaliseTier_eq_normalisePlan (value : Text) :
    normaliseTier runtime value = normalisePlan runtime value := rfl

/-- The worker's loader, one field after the other. -/
theorem subscriptionEntry_obj (entry : Members) :
    subscriptionEntry runtime (.obj entry) = (do
      let digest ← (digestField runtime entry).map (strOf runtime)
      let level ← planField entry
      let keyID ← field entry "key_id"
      let tenant ← field entry "tenant"
      guard (((field entry "seats").map runtime.isInt).getD true)
      let expiresAt ← expiryField runtime entry
      pure {
        keyID := strOf runtime keyID
        keyDigest := digest
        tenant := strOf runtime tenant
        plan := normalisePlan runtime (strOf runtime level)
        active := ((field entry "active").map PyJson.truthy).getD true
        expiresAt := expiresAt }) := by
  unfold subscriptionEntry digestField planField expiryField
  dsimp only [Option.bind_eq_bind, Option.pure_def]
  -- the same lookups decide both sides: the digest, the level, the expiry
  cases truthyField entry "key_digest" with
  | some digest =>
    cases truthyField entry "plan" <;> rcases field entry "expires_at" with - | (_ | _) <;> rfl
  | none =>
    rcases field entry "key" with - | (_ | _ | _ | _ | plaintext | _ | _)
    case some.str =>
      dsimp only [text?, Option.bind_some]
      rw [digest_eq_keyDigest]
      cases (keyDigest runtime plaintext).toOption with
      | none => rfl
      | some hashed =>
        cases truthyField entry "plan" <;> rcases field entry "expires_at" with - | (_ | _) <;> rfl
    all_goals rfl

theorem subscriptionReads {e : PyJson} {s : Subscription}
    (read : subscriptionEntry runtime e = some s) :
    SubscriptionReads runtime (membersOf e) s := by
  cases e with
  | obj entry =>
    rw [subscriptionEntry_obj] at read
    simp only [Option.bind_eq_bind, Option.bind_eq_some_iff, Option.pure_def,
      Option.some.injEq] at read
    obtain ⟨digest, named, level, levelled, keyID, id, tenant, owner, -, -, expiresAt, expiry,
      rfl⟩ := read
    exact ⟨named, congrArg _ id, congrArg _ owner, ⟨level, levelled, rfl⟩, expiry⟩
  | _ => cases read

/-! ## What both registries keep -/

variable (runtime)

/-- The entry's digest is written as this string. -/
def writesDigest (presented : Text) (e : PyJson) : Bool :=
  (digestField runtime (membersOf e)).bind text? = some presented

/-- The entry's digest becomes this string. -/
def rendersDigest (presented : Text) (e : PyJson) : Bool :=
  (digestField runtime (membersOf e)).map (strOf runtime) = some presented

/-- The entry the interceptor keeps for a digest. -/
def keptLicense (presented : Text) (entries : List PyJson) : Option PyJson :=
  entries.reverse.find? (writesDigest runtime presented)

/-- The entry the worker keeps for it. -/
def keptSubscription (presented : Text) (entries : List PyJson) : Option PyJson :=
  entries.reverse.find? (rendersDigest runtime presented)

/-- Two expiries that fall at the same moment, or that no aware time compares with. -/
def SameExpiry : Option DateTime → Option DateTime → Prop
  | some (.naive _), some (.naive _) => True
  | a, b => a = b

/-- Read by the interceptor the first entry says what the second says to the worker. -/
structure ReadsAs (e e' : PyJson) : Prop where
  keyID : (field (membersOf e) "key_id").bind text? =
    (field (membersOf e') "key_id").map (strOf runtime)
  tenant : (field (membersOf e) "tenant").bind text? =
    (field (membersOf e') "tenant").map (strOf runtime)
  level : (tierField (membersOf e)).map (normaliseTier runtime ∘ strOf runtime) =
    (planField (membersOf e')).map (normalisePlan runtime ∘ strOf runtime)
  expiry : SameExpiry (expiryField runtime (membersOf e)) (expiryField runtime (membersOf e'))

/-- The entry writes its digest, key id and tenant as strings, and `tier` or `plan` folds to
the same name as `plan` or `tier`. -/
structure Unambiguous (e : PyJson) : Prop where
  digest : ∃ text, digestField runtime (membersOf e) = some (.str text)
  keyID : ∃ text, field (membersOf e) "key_id" = some (.str text)
  tenant : ∃ text, field (membersOf e) "tenant" = some (.str text)
  level : (tierField (membersOf e)).map (normaliseTier runtime ∘ strOf runtime) =
    (planField (membersOf e)).map (normalisePlan runtime ∘ strOf runtime)

/-- The last entry of the digest is unambiguous. An entry whose digest is no string may
also repeat one the interceptor keeps. -/
def ExportAgrees (presented : Text) (entries : List PyJson) : Prop :=
  ∀ e, keptSubscription runtime presented entries = some e →
    Unambiguous runtime e ∨
      ((∀ text, digestField runtime (membersOf e) ≠ some (.str text)) ∧
        ∃ e', keptLicense runtime presented entries = some e' ∧ ReadsAs runtime e' e)

variable {runtime}

theorem writesDigest_iff {presented : Text} {e : PyJson} :
    writesDigest runtime presented e = true ↔
      digestField runtime (membersOf e) = some (.str presented) := by
  unfold writesDigest
  rw [decide_eq_true_iff, Option.bind_eq_some_iff]
  constructor
  · rintro ⟨value, written, same⟩
    rw [written, text?_eq_some.mp same]
  · intro written
    exact ⟨_, written, rfl⟩

theorem rendersDigest_of_writesDigest {presented : Text} {e : PyJson}
    (written : writesDigest runtime presented e = true) :
    rendersDigest runtime presented e = true := by
  unfold rendersDigest
  rw [writesDigest_iff.mp written]
  exact decide_eq_true rfl

theorem expired_iff {a b : DateTime} {l : License} {s : Subscription} (left : l.expiresAt = a)
    (right : s.expiresAt = b) :
    (∀ now, l.isExpired now = s.isExpired now) ↔ SameExpiry (some a) (some b) := by
  unfold License.isExpired Subscription.isExpired
  rw [left, right]
  cases a with
  | naive first =>
    cases b with
    | naive second => exact ⟨fun _ => trivial, fun _ _ => rfl⟩
    | aware second =>
      constructor
      · intro same
        cases same 0
      · intro same
        cases Option.some.inj same
  | aware first =>
    cases b with
    | naive second =>
      constructor
      · intro same
        cases same 0
      · intro same
        cases Option.some.inj same
    | aware second =>
      constructor
      · intro same
        have le : second ≤ first := by simpa using (same first).symm
        have ge : first ≤ second := by simpa using same second
        rw [le_antisymm ge le]
        exact rfl
      · intro same now
        cases same
        rfl

/-- A licence and a subscription are the same when their entries read alike. -/
theorem same_iff {e e' : PyJson} {l : License} {s : Subscription}
    (license : LicenseReads runtime (membersOf e) l)
    (subscription : SubscriptionReads runtime (membersOf e') s) :
    Same l s ↔ ReadsAs runtime e e' := by
  obtain ⟨level, tiered, tier⟩ := license.tier
  obtain ⟨level', planned, plan⟩ := subscription.plan
  have expiry := expired_iff (l := l) (s := s) rfl rfl
  rw [← license.expiresAt, ← subscription.expiresAt] at expiry
  constructor
  · intro same
    refine ⟨?_, ?_, ?_, expiry.mp same.expired⟩
    · rw [license.keyID, subscription.keyID]
      exact same.keyID
    · rw [license.tenant, subscription.tenant]
      exact same.tenant
    · rw [tiered, planned]
      show some (normaliseTier runtime level) = some (normalisePlan runtime (strOf runtime level'))
      rw [← tier, ← plan, same.tier]
  · intro reads
    refine ⟨?_, ?_, ?_, expiry.mpr reads.expiry⟩
    · have same := reads.keyID
      rw [license.keyID, subscription.keyID] at same
      exact same
    · have same := reads.tenant
      rw [license.tenant, subscription.tenant] at same
      exact same
    · have same := reads.level
      rw [tiered, planned] at same
      rw [tier, plan]
      exact Option.some.inj same

/-- An unambiguous entry reads the same to both. -/
theorem unambiguous_iff {e : PyJson} {text : Text} {l : License}
    (written : digestField runtime (membersOf e) = some (.str text))
    (license : LicenseReads runtime (membersOf e) l) :
    Unambiguous runtime e ↔ ReadsAs runtime e e := by
  have spelled {name : String} {value : PyJson} (present : field (membersOf e) name = some value) :
      (∃ text, field (membersOf e) name = some (.str text)) ↔
        (field (membersOf e) name).bind text? =
          (field (membersOf e) name).map (strOf runtime) := by
    rw [present]
    cases value <;> simp [text?, strOf]
  constructor
  · intro clear
    refine ⟨(spelled license.keyID).mp clear.keyID, (spelled license.tenant).mp clear.tenant,
      clear.level, ?_⟩
    cases expiry : expiryField runtime (membersOf e) with
    | none => exact rfl
    | some date => cases date <;> trivial
  · intro reads
    exact ⟨⟨text, written⟩, (spelled license.keyID).mpr reads.keyID,
      (spelled license.tenant).mpr reads.tenant, reads.level⟩

/-- What the two registries keep for a digest, in terms of the entries. -/
theorem kept_alike_iff {entries : List PyJson} {licenses : LicenseRegistry}
    {subscriptions : SubscriptionRegistry} (presented : Text)
    (read : List.Forall₂ (fun e l => licenseEntry runtime e = some l) entries licenses.licenses)
    (read' : List.Forall₂ (fun e s => subscriptionEntry runtime e = some s) entries
      subscriptions.subscriptions) :
    Alike (.ok (licenses.licenses.reverse.find? fun held => text? held.keyDigest = some presented))
        (.ok (subscriptions.lookup presented)) ↔
      ExportAgrees runtime presented entries := by
  have held : Option.Rel (fun e l => licenseEntry runtime e = some l)
      (keptLicense runtime presented entries)
      (licenses.licenses.reverse.find? fun held => text? held.keyDigest = some presented) := by
    refine find?_rel (List.rel_reverse read) fun e l same => ?_
    rw [writesDigest, (licenseReads same).keyDigest, Option.bind_some]
  have held' : Option.Rel (fun e s => subscriptionEntry runtime e = some s)
      (keptSubscription runtime presented entries) (subscriptions.lookup presented) := by
    refine find?_rel (List.rel_reverse read') fun e s same => ?_
    rw [rendersDigest, (subscriptionReads same).keyDigest, Bool.eq_iff_iff]
    simp
  generalize licenses.licenses.reverse.find? _ = license at held
  generalize subscriptions.lookup presented = subscription at held'
  unfold ExportAgrees
  cases last : keptSubscription runtime presented entries with
  | none =>
    -- an entry that writes the digest would also render it
    have unwritten : keptLicense runtime presented entries = none := by
      unfold keptSubscription at last
      unfold keptLicense
      rw [List.find?_eq_none] at last ⊢
      exact fun e member written => last e member (rendersDigest_of_writesDigest written)
    rw [last] at held'
    rw [unwritten] at held
    cases held
    cases held'
    exact ⟨fun _ => nofun, fun _ => trivial⟩
  | some e =>
    have renders : rendersDigest runtime presented e = true := List.find?_some last
    rw [last] at held'
    obtain ⟨s, read_s, rfl⟩ := rel_some_iff.mp held'
    have reads_s := subscriptionReads read_s
    have only {P : PyJson → Prop} : (∀ e', some e = some e' → P e') ↔ P e := by simp
    rw [only]
    by_cases written : ∃ text, digestField runtime (membersOf e) = some (.str text)
    · -- the interceptor keeps the same entry
      obtain ⟨text, written⟩ := written
      have same_text : text = presented := by
        unfold rendersDigest at renders
        rw [written] at renders
        exact Option.some.inj (of_decide_eq_true renders)
      have kept : keptLicense runtime presented entries = some e :=
        find?_of_imp last (writesDigest_iff.mpr (same_text ▸ written))
          fun _ => rendersDigest_of_writesDigest
      rw [kept] at held
      obtain ⟨l, read_l, rfl⟩ := rel_some_iff.mp held
      have reads_l := licenseReads read_l
      show Same l s ↔ _
      rw [same_iff reads_l reads_s, ← unambiguous_iff written reads_l]
      refine ⟨Or.inl, fun agrees => agrees.resolve_right fun other => ?_⟩
      exact other.1 text written
    · have odd : ∀ text, digestField runtime (membersOf e) ≠ some (.str text) :=
        fun text same => written ⟨text, same⟩
      have ambiguous : ¬Unambiguous runtime e := fun clear => written clear.digest
      cases kept : keptLicense runtime presented entries with
      | none =>
        rw [kept] at held
        cases held
        refine ⟨False.elim, fun agrees => ?_⟩
        obtain ⟨-, e', impossible, -⟩ := agrees.resolve_left ambiguous
        cases impossible
      | some e' =>
        rw [kept] at held
        obtain ⟨l, read_l, rfl⟩ := rel_some_iff.mp held
        show Same l s ↔ _
        rw [same_iff (licenseReads read_l) reads_s]
        constructor
        · exact fun reads => Or.inr ⟨odd, e', rfl, reads⟩
        · intro agrees
          obtain ⟨-, other, same, reads⟩ := agrees.resolve_left ambiguous
          cases same
          exact reads

end

/-! ## One entry, with the levels it names -/

/-- A library that knows one key and one date. -/
def demoRuntime : Runtime where
  interpreter := { scanDepth := 990, strDepth := 990, maxStrDigits := 4300 }
  unicode := asciiUnicode
  sha256 key :=
    if key = "k" then "8254c329a92850f6d539dd376f4816ee2764517da5e0235514af433164480d7a" else key
  str _ := Text.ofString "None"
  isInt _ := true
  fromisoformat text :=
    if text = Text.ofString "2027-01-01" then some (.naive 1798761600000000) else none
  isoformat _ := Text.ofString "2027-01-01T00:00:00"

def billingExport (levels : String) : String :=
  "[\x7b\"key\":\"k\",\"key_id\":\"lic\",\"tenant\":\"t\",\"quota_per_minute\":60," ++
    "\"expires_at\":\"2027-01-01\"," ++ levels ++ "\x7d]"

def standardKey : Text := Text.ofString "k"

/-- The tiers under which the two services know the key. -/
def levelsOf (document : String) : Option (Text × Text) := do
  let licenses ← LicenseRegistry.fromFile demoRuntime document
  let subscriptions ← SubscriptionRegistry.fromFile demoRuntime document
  let license ← (licenses.lookup demoRuntime standardKey).toOption.join
  let subscription ← (subscriptionOf demoRuntime subscriptions standardKey).toOption.join
  pure (license.tier, subscription.plan)

theorem loaded_of_accepted {runtime : Runtime} {document : String} {licenses : LicenseRegistry}
    (accepted : LicenseRegistry.fromFile runtime document = some licenses) :
    ∃ entries, loads runtime.interpreter document = .ok (.arr entries) := by
  unfold LicenseRegistry.fromFile at accepted
  split at accepted
  · exact ⟨_, ‹_›⟩
  · cases accepted

/-- A document with levels is accepted by both services, which agree on it only if the
levels are one. -/
theorem accepted_of_levelsOf {document : String} {levels : Text × Text}
    (found : levelsOf document = some levels) :
    ∃ licenses subscriptions, LicenseRegistry.fromFile demoRuntime document = some licenses ∧
      SubscriptionRegistry.fromFile demoRuntime document = some subscriptions ∧
      (Alike (licenses.lookup demoRuntime standardKey)
        (subscriptionOf demoRuntime subscriptions standardKey) → levels.1 = levels.2) := by
  simp only [levelsOf, Option.bind_eq_bind, Option.bind_eq_some_iff, Option.pure_def,
    Option.some.injEq] at found
  obtain ⟨licenses, accepted, subscriptions, accepted', license, known, subscription, known',
    rfl⟩ := found
  refine ⟨licenses, subscriptions, accepted, accepted', fun alike => ?_⟩
  have looked : licenses.lookup demoRuntime standardKey = .ok (some license) := by
    revert known
    cases licenses.lookup demoRuntime standardKey with
    | error raised => exact nofun
    | ok held => exact fun known => congrArg Except.ok (Option.some.inj (Option.join_eq_some_iff.mp known))
  have looked' : subscriptionOf demoRuntime subscriptions standardKey = .ok (some subscription) := by
    revert known'
    cases subscriptionOf demoRuntime subscriptions standardKey with
    | error raised => exact nofun
    | ok held => exact fun known => congrArg Except.ok (Option.some.inj (Option.join_eq_some_iff.mp known))
  rw [looked, looked'] at alike
  exact Same.tier alike

/-- For every export that both services accept, a presented key means the same to both
exactly when the last entry of its digest agrees with itself. -/
theorem export_alike_iff (runtime : Runtime) (document : String) (entries : List PyJson)
    (loaded : loads runtime.interpreter document = .ok (.arr entries))
    (licenses : LicenseRegistry) (subscriptions : SubscriptionRegistry)
    (accepted : LicenseRegistry.fromFile runtime document = some licenses)
    (accepted' : SubscriptionRegistry.fromFile runtime document = some subscriptions)
    (presented : Text) :
    Alike (licenses.lookup runtime presented) (subscriptionOf runtime subscriptions presented) ↔
      ∀ hashed, digest runtime presented = .ok hashed → ExportAgrees runtime hashed entries := by
  unfold LicenseRegistry.fromFile at accepted
  unfold SubscriptionRegistry.fromFile at accepted'
  rw [loaded] at accepted accepted'
  obtain ⟨read, all, rfl⟩ := Option.map_eq_some_iff.mp accepted
  obtain ⟨read', all', rfl⟩ := Option.map_eq_some_iff.mp accepted'
  unfold LicenseRegistry.lookup subscriptionOf
  rw [← digest_eq_keyDigest]
  cases hashes : digest runtime presented with
  | error raised => exact ⟨fun _ => nofun, fun _ => rfl⟩
  | ok hashed =>
    have kept : Alike (.ok (read.reverse.find? fun held => text? held.keyDigest = some hashed))
        (.ok (SubscriptionRegistry.lookup ⟨read'⟩ hashed)) ↔ _ :=
      kept_alike_iff hashed (mapM_some_iff.mp all) (mapM_some_iff.mp all')
    refine kept.trans ⟨fun agrees other same => ?_, fun agrees => agrees hashed rfl⟩
    cases same
    exact agrees

theorem export_alike_iff_standard : ∃ (entries : List PyJson) (licenses : LicenseRegistry)
      (subscriptions : SubscriptionRegistry),
    loads demoRuntime.interpreter (billingExport "\"tier\":\"SMB\"") =
        .ok (.arr entries) ∧
      (Alike (licenses.lookup demoRuntime standardKey)
          (subscriptionOf demoRuntime subscriptions standardKey) ↔
        ∀ hashed, digest demoRuntime standardKey = .ok hashed →
          ExportAgrees demoRuntime hashed entries) := by
  have found : levelsOf (billingExport "\"tier\":\"SMB\"") =
      some (Text.ofString "STANDARD", Text.ofString "STANDARD") := by decide +kernel
  obtain ⟨licenses, subscriptions, accepted, accepted', -⟩ := accepted_of_levelsOf found
  obtain ⟨entries, loaded⟩ := loaded_of_accepted accepted
  exact ⟨entries, licenses, subscriptions, loaded, export_alike_iff demoRuntime
    (billingExport "\"tier\":\"SMB\"") entries loaded licenses subscriptions accepted
    accepted' standardKey⟩

/-- An entry that names two levels: `STANDARD` to the interceptor, `COMMUNITY` to the
worker. -/
theorem export_not_alike : ∃ licenses subscriptions,
    LicenseRegistry.fromFile demoRuntime
        (billingExport "\"tier\":\"SMB\",\"plan\":\"OSS\"") = some licenses ∧
      SubscriptionRegistry.fromFile demoRuntime
        (billingExport "\"tier\":\"SMB\",\"plan\":\"OSS\"") = some subscriptions ∧
      ¬Alike (licenses.lookup demoRuntime standardKey)
        (subscriptionOf demoRuntime subscriptions standardKey) := by
  have found : levelsOf (billingExport "\"tier\":\"SMB\",\"plan\":\"OSS\"") =
      some (Text.ofString "STANDARD", Text.ofString "COMMUNITY") := by decide +kernel
  obtain ⟨licenses, subscriptions, accepted, accepted', one⟩ := accepted_of_levelsOf found
  exact ⟨licenses, subscriptions, accepted, accepted', fun alike =>
    absurd (one alike) (by decide +kernel)⟩

end OpenOntology.Intercept
