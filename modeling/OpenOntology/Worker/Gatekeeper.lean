import OpenOntology.Python.Json

/-!
# The worker's licence gatekeeper

Subscriptions, the registry read from a billing export, the cache in front of it, and the
authorisation of one payload. The exceptions are those of the source: `LicenseRejected` and
the errors of the language that a partial operation may raise.
-/
namespace OpenOntology.Worker

open Python

/-! ## Exceptions -/

/-- An exception that no handler of the worker's loop names. -/
inductive Escape where
  | recursionError
  | valueError
  | unicodeEncodeError
  | typeError
  | serializationError
  deriving DecidableEq, Repr

/-- The message can never succeed. -/
structure PermanentMessageError where
  reason : String
  message : Text
  deriving DecidableEq

inductive Raised where
  /-- `LicenseRejected` -/
  | license (code : String) (message : Text)
  | permanent (error : PermanentMessageError)
  /-- `TransientFailure` -/
  | transient (reason : String)
  | escaped (exception : Escape)
  deriving DecidableEq

/-! ## Subscriptions -/

/-- A `datetime`, in microseconds; a naive one belongs to no time zone. -/
inductive DateTime where
  | naive (microseconds : Int)
  | aware (microseconds : Int)
  deriving DecidableEq

structure Subscription where
  keyID : Text
  keyDigest : Text
  tenant : Text
  plan : Text
  active : Bool
  expiresAt : DateTime
  deriving DecidableEq

namespace Subscription

/-- `is_expired` at an aware time: comparing it with a naive one is a `TypeError`. -/
def isExpired (s : Subscription) (now : Int) : Except Raised Bool :=
  match s.expiresAt with
  | .naive _ => .error (.escaped .typeError)
  | .aware expiry => .ok (expiry ≤ now)

def autonomousPlans : List String := ["ENTERPRISE"]

def autonomousExecutionAllowed (s : Subscription) : Bool :=
  autonomousPlans.any fun plan => s.plan == Text.ofString plan

end Subscription

/-- The library calls the gatekeeper makes. -/
structure Runtime where
  interpreter : Interpreter
  unicode : Unicode
  /-- `hashlib.sha256(s.encode("utf-8")).hexdigest()` -/
  sha256 : String → String
  /-- `str(value)` where it is not a string already -/
  str : PyJson → Text
  /-- `int(value)` succeeds -/
  isInt : PyJson → Bool
  fromisoformat : Text → Option DateTime
  isoformat : DateTime → Text

section
variable (runtime : Runtime)

def strOf : PyJson → Text
  | .str text => text
  | value => runtime.str value

/-- `key_digest`. -/
def keyDigest (plaintext : Text) : Except Raised Text :=
  match plaintext.strip.toString? with
  | none => .error (.escaped .unicodeEncodeError)
  | some key => .ok (Text.ofString (runtime.sha256 key))

def planAliases : List (String × String) :=
  [("SMALL_BUSINESS", "STANDARD"), ("SMALLBUSINESS", "STANDARD"), ("SMB", "STANDARD"),
    ("BUSINESS", "STANDARD"), ("FREE", "COMMUNITY"), ("OSS", "COMMUNITY")]

def replaceChar (old new : Char) (s : Text) : Text :=
  s.map fun c => if c = CodePoint.ofChar old then CodePoint.ofChar new else c

/-- `normalise_plan`. -/
def normalisePlan (value : Text) : Text :=
  let plan := replaceChar ' ' '_' (replaceChar '-' '_' (runtime.unicode.upper value.strip))
  match (Text.toString? plan).bind fun name => planAliases.lookup name with
  | some canonical => Text.ofString canonical
  | none => plan

/-! ## The registry -/

def field (members : Members) (name : String) : Option PyJson := members.get (Text.ofString name)

/-- `members.get(name) or …`. -/
def truthyField (members : Members) (name : String) : Option PyJson :=
  (field members name).filter PyJson.truthy

/-- One entry of the export; an entry that raises is refused with the whole file. -/
def subscriptionEntry : PyJson → Option Subscription
  | .obj entry => do
    let digest ← match truthyField entry "key_digest" with
      | some digest => pure (strOf runtime digest)
      | none => match field entry "key" with
        | some (.str plaintext) => (keyDigest runtime plaintext).toOption
        | _ => none
    let level ← match truthyField entry "plan" with
      | some level => pure level
      | none => field entry "tier"
    let keyID ← field entry "key_id"
    let tenant ← field entry "tenant"
    guard (((field entry "seats").map runtime.isInt).getD true)
    let expiresAt ← match field entry "expires_at" with
      | some (.str expiry) => runtime.fromisoformat expiry
      | _ => none
    pure {
      keyID := strOf runtime keyID
      keyDigest := digest
      tenant := strOf runtime tenant
      plan := normalisePlan runtime (strOf runtime level)
      active := ((field entry "active").map PyJson.truthy).getD true
      expiresAt := expiresAt }
  | _ => none

/-- `SubscriptionRegistry`, in the order of the export. -/
structure SubscriptionRegistry where
  subscriptions : List Subscription

namespace SubscriptionRegistry

/-- The mapping by digest keeps the last subscription of a digest. -/
def lookup (registry : SubscriptionRegistry) (digest : Text) : Option Subscription :=
  registry.subscriptions.reverse.find? fun held => held.keyDigest == digest

/-- `from_file`, on the text of the file: nothing where it raises. -/
def fromFile (document : String) : Option SubscriptionRegistry :=
  match loads runtime.interpreter document with
  | .ok (.arr entries) => (entries.mapM (subscriptionEntry runtime)).map .mk
  | _ => none

end SubscriptionRegistry

/-! ## The cache -/

structure CacheEntry where
  subscription : Option Subscription
  expiresAt : Int

/-- `LicenseCache`, least recently used entry first. What it holds is what the registry
says. -/
structure LicenseCache where
  registry : SubscriptionRegistry
  ttl : Int
  maxEntries : Nat
  entries : List (Text × CacheEntry)
  faithful : ∀ entry ∈ entries, entry.2.subscription = registry.lookup entry.1

namespace LicenseCache

def fresh (registry : SubscriptionRegistry) (ttl : Int) (maxEntries : Nat) : LicenseCache where
  registry := registry
  ttl := ttl
  maxEntries := maxEntries
  entries := []
  faithful _ member := absurd member List.not_mem_nil

/-- The entry becomes the most recently used one. -/
def touch (cache : LicenseCache) (digest : Text) (entry : CacheEntry) : List (Text × CacheEntry) :=
  (cache.entries.filter fun held => held.1 != digest) ++ [(digest, entry)]

theorem touch_faithful (cache : LicenseCache) (digest : Text) (entry : CacheEntry)
    (truthful : entry.subscription = cache.registry.lookup digest) :
    ∀ held ∈ cache.touch digest entry, held.2.subscription = cache.registry.lookup held.1 := by
  intro held member
  rcases List.mem_append.mp member with kept | added
  · exact cache.faithful held (List.mem_of_mem_filter kept)
  · rw [List.mem_singleton.mp added]
    exact truthful

def live (cache : LicenseCache) (digest : Text) (now : Int) : Option CacheEntry :=
  (cache.entries.lookup digest).filter fun entry => now < entry.expiresAt

theorem mem_of_live {cache : LicenseCache} {digest : Text} {now : Int} {entry : CacheEntry}
    (held : cache.live digest now = some entry) : (digest, entry) ∈ cache.entries := by
  obtain ⟨found, -⟩ := Option.filter_eq_some_iff.mp held
  obtain ⟨before, after, split, -⟩ := List.lookup_eq_some_iff.mp found
  rw [split]
  exact List.mem_append_right before List.mem_cons_self

/-- `resolve`: the answer and the cache after it. -/
def resolve (cache : LicenseCache) (digest : Text) (now : Int) :
    Option Subscription × LicenseCache :=
  match held : cache.live digest now with
  | some entry =>
    (entry.subscription,
      { cache with
        entries := cache.touch digest entry
        faithful := cache.touch_faithful digest entry (cache.faithful _ (mem_of_live held)) })
  | none =>
    let loaded : CacheEntry := ⟨cache.registry.lookup digest, now + cache.ttl⟩
    let entries := cache.touch digest loaded
    (loaded.subscription,
      { cache with
        entries := entries.drop (entries.length - cache.maxEntries)
        faithful := fun entry member =>
          cache.touch_faithful digest loaded rfl entry (List.mem_of_mem_drop member) })

/-- Served from the cache or not, the answer is the registry's. -/
@[simp] theorem resolve_fst (cache : LicenseCache) (digest : Text) (now : Int) :
    (cache.resolve digest now).1 = cache.registry.lookup digest := by
  unfold resolve
  split
  next entry held => exact cache.faithful _ (mem_of_live held)
  next => rfl

@[simp] theorem resolve_registry (cache : LicenseCache) (digest : Text) (now : Int) :
    (cache.resolve digest now).2.registry = cache.registry := by
  unfold resolve
  split <;> rfl

end LicenseCache

/-! ## The gatekeeper -/

/-- The settings the gatekeeper reads; the plans are normalised. -/
structure GatekeeperSettings where
  licenseHeader : String
  entitledPlans : List Text
  defaultKey : Option String

def nonBlank (candidate : Option PyJson) : Option Text :=
  match candidate with
  | some (.str text) => if text.strip = [] then none else some text.strip
  | _ => none

/-- The places a payload may carry its key, in the order they are tried. -/
def keyCandidates (settings : GatekeeperSettings) (payload : Members) : List (Option PyJson) :=
  [field payload "license_key", field payload "licence_key"] ++
    ["license", "licence", "headers", "meta"].flatMap fun container =>
      match field payload container with
      | some (.obj members) =>
        ["license_key", "licence_key", "key", settings.licenseHeader].flatMap fun name =>
          [field members name, Members.get members (runtime.unicode.lower (Text.ofString name))]
      | _ => []

/-- `extract_key`, with the fallback to the worker's own key. -/
def extractKey (settings : GatekeeperSettings) (payload : Members) : Option Text :=
  match (keyCandidates runtime settings payload).findSome? nonBlank with
  | some key => some key
  | none => nonBlank (settings.defaultKey.map fun key => .str (Text.ofString key))

namespace Subscription

def suspendedMessage (s : Subscription) : Text :=
  Text.ofString "Subscription " ++ s.keyID ++ Text.ofString " for tenant " ++ s.tenant ++
    Text.ofString " is suspended."

def expiredMessage (s : Subscription) : Text :=
  Text.ofString "Subscription for tenant " ++ s.tenant ++ Text.ofString " expired at " ++
    runtime.isoformat s.expiresAt ++ Text.ofString "."

def notEntitledMessage (s : Subscription) : Text :=
  Text.ofString "Plan " ++ s.plan ++ Text.ofString " does not include the command closure loop."

end Subscription

/-- The checks on a subscription that was found: liveness, then entitlement. -/
def entitle (settings : GatekeeperSettings) (now : Int) (s : Subscription) :
    Except Raised Subscription :=
  if s.active = false then .error (.license "license_suspended" s.suspendedMessage)
  else (s.isExpired now).bind fun expired =>
    if expired then .error (.license "license_expired" (s.expiredMessage runtime))
    else if s.plan ∉ settings.entitledPlans then
      .error (.license "plan_not_entitled" s.notEntitledMessage)
    else .ok s

/-- `authorize`. -/
def authorize (settings : GatekeeperSettings) (cache : LicenseCache) (now : Int)
    (payload : Members) : Except Raised Subscription :=
  match extractKey runtime settings payload with
  | none =>
    .error (.license "license_key_missing" (Text.ofString
      ("No subscription key on the payload and no " ++ settings.licenseHeader ++ " configured.")))
  | some presented =>
    (keyDigest runtime presented).bind fun digest =>
      match (cache.resolve digest now).1 with
      | none =>
        .error (.license "license_key_invalid"
          (Text.ofString "The supplied subscription key is not recognised."))
      | some subscription => entitle runtime settings now subscription

end

end OpenOntology.Worker
