import OpenOntology.Worker.Survival

/-!
# A refusal of the worker's own key

A record without a key of its own runs under the operator's subscription. When that one is
unknown, suspended, expired or not entitled, the gatekeeper raises the `LicenseRejected` it
raises for a record's key, and `_handle` dead-letters the record.
-/
namespace OpenOntology.Worker
open Python Library

/-- `_handle` raised, so the loop does not commit the record. -/
def StaysUncommitted {unicode : Unicode} (result : Except Raised (Handled unicode)) : Prop :=
  ∃ raised, result = .error raised

/-- No key in the payload, after a key in the headers was lifted onto it. -/
def Keyless (w : CommandWorker) (record : Record) (payload : Members) : Prop :=
  (keyCandidates w.runtime w.gatekeeper (injectLicenseKey w payload record.headers)).findSome?
    nonBlank = none

/-- The key the worker is configured with. -/
def ownKey (w : CommandWorker) : Option Text :=
  nonBlank (w.gatekeeper.defaultKey.map fun key => .str (Text.ofString key))

/-- What the registry has for it. -/
def ownSubscription (w : CommandWorker) (registry : SubscriptionRegistry) (key : Text) :
    Option Subscription :=
  (keyDigest w.runtime key).toOption.bind registry.lookup

/-- Unknown, suspended, expired or not entitled. -/
def Lapsed (w : CommandWorker) (now : Int) : Option Subscription → Prop
  | none => True
  | some s => s.active = false ∨ (∃ t, s.expiresAt = .aware t ∧ t ≤ now) ∨
      s.plan ∉ w.gatekeeper.entitledPlans

/-- An active subscription whose expiry belongs to no time zone. -/
def Undated : Option Subscription → Prop
  | none => False
  | some s => s.active = true ∧ ∃ t, s.expiresAt = .naive t

/-- The code and the message of the first check that fails. -/
def refusal (w : CommandWorker) (now : Int) : Option Subscription → String × Text
  | none =>
    ("license_key_invalid", Text.ofString "The supplied subscription key is not recognised.")
  | some s =>
    if s.active = false then ("license_suspended", s.suspendedMessage)
    else if (s.isExpired now).toOption = some true then ("license_expired", s.expiredMessage w.runtime)
    else ("plan_not_entitled", s.notEntitledMessage)

/-- Naming the event raises, or comparing the expiry, or the headers of the dead letter. -/
def Unwritable (w : CommandWorker) (outcomes : Outcomes) (payload : Members)
    (subscription : Option Subscription) : Prop :=
  (∃ raised, nameEvent w payload = .error raised) ∨ Undated subscription ∨
    outcomes.started = true ∧ ¬Sendable (refusal w outcomes.now subscription).2

section
variable {w : CommandWorker} {cache : LicenseCache} {outcomes : Outcomes} {record : Record}
  {payload : Members} {key : Text}

/-- What stripping leaves of a text that encodes, encodes. -/
theorem encodes_strip {text : Text} (encodes : Text.encodes text = true) :
    Text.encodes text.strip = true := by
  unfold Text.encodes at encodes ⊢
  rw [List.all_eq_true] at encodes ⊢
  exact fun c member => encodes c (trimBoth_subset Text.isSpace text member)

/-- A key of the configuration can be hashed. -/
theorem keyDigest_ownKey (configured : ownKey w = some key) :
    ∃ digest, keyDigest w.runtime key = .ok digest := by
  have encodes : Text.encodes key = true := by
    unfold ownKey nonBlank at configured
    cases default : w.gatekeeper.defaultKey with
    | none =>
      rw [default] at configured
      cases configured
    | some name =>
      rw [default] at configured
      dsimp only [Option.map_some] at configured
      split at configured
      · cases configured
      · cases configured
        exact encodes_strip (Text.encodes_ofString name)
  cases hashed : keyDigest w.runtime key with
  | ok digest => exact ⟨digest, rfl⟩
  | error raised =>
    obtain ⟨-, unencodable⟩ := keyDigest_error_iff.mp hashed
    rw [encodes_strip encodes] at unencodable
    cases unencodable

/-- The gate as it opens for a record without a key. -/
theorem authorize_keyless (keyless : Keyless w record payload) (configured : ownKey w = some key) :
    authorize w.runtime w.gatekeeper cache outcomes.now (injectLicenseKey w payload record.headers) =
      match ownSubscription w cache.registry key with
      | none => .error (.license (refusal w outcomes.now none).1 (refusal w outcomes.now none).2)
      | some s => entitle w.runtime w.gatekeeper outcomes.now s := by
  have presented : extractKey w.runtime w.gatekeeper (injectLicenseKey w payload record.headers) =
      some key := by
    unfold extractKey
    rw [keyless]
    exact configured
  obtain ⟨digest, hashed⟩ := keyDigest_ownKey configured
  unfold authorize ownSubscription
  rw [presented]
  dsimp only
  rw [hashed]
  dsimp only [Except.bind, Except.toOption, Option.bind_some]
  rw [LicenseCache.resolve_fst]
  cases cache.registry.lookup digest <;> rfl

/-- A lapsed subscription is refused, unless its expiry cannot be compared. -/
theorem entitle_lapsed {s : Subscription} {now : Int} (lapsed : Lapsed w now (some s))
    (dated : ¬Undated (some s)) :
    entitle w.runtime w.gatekeeper now s =
      .error (.license (refusal w now (some s)).1 (refusal w now (some s)).2) := by
  unfold entitle refusal
  dsimp only
  by_cases inactive : s.active = false
  · rw [if_pos inactive, if_pos inactive]
  · rw [if_neg inactive, if_neg inactive]
    cases expiry : s.expiresAt with
    | naive t => exact absurd ⟨Bool.not_eq_false _ ▸ inactive, t, expiry⟩ dated
    | aware t =>
      have compared : s.isExpired now = .ok (t ≤ now) := by
        unfold Subscription.isExpired
        rw [expiry]
      rw [compared]
      by_cases passed : t ≤ now
      · simp [Except.bind, Except.toOption, passed]
      · obtain inactive' | ⟨t', same, passed'⟩ | unlisted := lapsed
        · exact absurd inactive' inactive
        · rw [expiry] at same
          cases same
          exact absurd passed' passed
        · simp [Except.bind, Except.toOption, passed, unlisted]

/-- What becomes of a record whose own gate refuses it. -/
theorem handle_keyless (decoded : decode w record = .ok (some payload))
    (keyless : Keyless w record payload) (configured : ownKey w = some key)
    (lapsed : Lapsed w outcomes.now (ownSubscription w cache.registry key))
    (dated : ¬Undated (ownSubscription w cache.registry key))
    (named : nameEvent w (injectLicenseKey w payload record.headers) = .ok ()) :
    handle w cache outcomes record =
      deadLetter w outcomes.started
        ("license_" ++ (refusal w outcomes.now (ownSubscription w cache.registry key)).1)
        (refusal w outcomes.now (ownSubscription w cache.registry key)).2 := by
  have refused : authorize w.runtime w.gatekeeper cache outcomes.now
      (injectLicenseKey w payload record.headers) =
        .error (.license (refusal w outcomes.now (ownSubscription w cache.registry key)).1
          (refusal w outcomes.now (ownSubscription w cache.registry key)).2) := by
    rw [authorize_keyless keyless configured]
    cases held : ownSubscription w cache.registry key with
    | none => rfl
    | some s =>
      rw [held] at lapsed dated
      exact entitle_lapsed lapsed dated
  unfold handle
  rw [decoded]
  dsimp only [Except.bind]
  rw [named]
  dsimp only
  rw [closeLoop_unauthorized refused]
  rfl

theorem deadLetter_error_iff (started : Bool) (reason : String) (detail : Text) :
    StaysUncommitted (deadLetter w started reason detail) ↔
      started = true ∧ ¬Sendable detail := by
  unfold deadLetter StaysUncommitted Sendable
  cases started with
  | false => simp
  | true =>
    rw [if_neg (by decide)]
    cases Text.encodes (detail.take 900) <;> simp

end

/-! ## A key the registry does not know -/

/-- A worker whose own key nobody has subscribed. -/
def operator : CommandWorker :=
  { bareWorker with
    gatekeeper := { bareWorker.gatekeeper with defaultKey := some "oo-live-retired-key" } }

/-- A mutation without any member. -/
def emptyMutation : Record where
  value := some "\x7b\x7d".toUTF8

theorem decode_emptyMutation : decode operator emptyMutation = .ok (some []) := by
  unfold decode
  dsimp only [emptyMutation]
  rw [if_neg (by decide +kernel), fromUTF8?_toUTF8]
  rfl

/-- A record without a key of its own stays uncommitted under a lapsed subscription of the
worker exactly when not even a dead letter can be written for it. -/
theorem lapsed_stays_iff (w : CommandWorker) (cache : LicenseCache) (outcomes : Outcomes)
    (record : Record) (payload : Members) (key : Text)
    (decoded : decode w record = .ok (some payload)) (keyless : Keyless w record payload)
    (configured : ownKey w = some key)
    (lapsed : Lapsed w outcomes.now (ownSubscription w cache.registry key)) :
    StaysUncommitted (handle w cache outcomes record) ↔
      Unwritable w outcomes (injectLicenseKey w payload record.headers)
        (ownSubscription w cache.registry key) := by
  unfold Unwritable
  cases named : nameEvent w (injectLicenseKey w payload record.headers) with
  | error raised =>
    have stays : StaysUncommitted (handle w cache outcomes record) := by
      refine ⟨raised, ?_⟩
      unfold handle
      rw [decoded]
      dsimp only [Except.bind]
      rw [named]
    exact ⟨fun _ => Or.inl ⟨raised, rfl⟩, fun _ => stays⟩
  | ok _ =>
    by_cases dated : Undated (ownSubscription w cache.registry key)
    · refine ⟨fun _ => Or.inr (Or.inl dated), fun _ => ⟨.escaped .typeError, ?_⟩⟩
      have refused : authorize w.runtime w.gatekeeper cache outcomes.now
          (injectLicenseKey w payload record.headers) = .error (.escaped .typeError) := by
        rw [authorize_keyless keyless configured]
        cases held : ownSubscription w cache.registry key with
        | none =>
          rw [held] at dated
          cases dated
        | some s =>
          rw [held] at dated
          obtain ⟨active, t, naive⟩ := dated
          exact entitle_naive active naive
      unfold handle
      rw [decoded]
      dsimp only [Except.bind]
      rw [named]
      dsimp only
      rw [closeLoop_unauthorized refused]
      rfl
    · rw [handle_keyless decoded keyless configured lapsed dated named, deadLetter_error_iff]
      constructor
      · exact fun unsendable => Or.inr (Or.inr unsendable)
      · rintro (⟨raised, impossible⟩ | undated | unsendable)
        · cases impossible
        · exact absurd undated dated
        · exact unsendable

theorem lapsed_stays_iff_unknown :
    StaysUncommitted (handle operator (LicenseCache.fresh ⟨[]⟩ 300 1024) quietOutcomes
        emptyMutation) ↔
      Unwritable operator quietOutcomes (injectLicenseKey operator [] emptyMutation.headers)
        (ownSubscription operator ⟨[]⟩ (Text.ofString "oo-live-retired-key")) :=
  lapsed_stays_iff operator (LicenseCache.fresh ⟨[]⟩ 300 1024) quietOutcomes emptyMutation []
    (Text.ofString "oo-live-retired-key") decode_emptyMutation (by rfl) (by decide +kernel) trivial

/-- The operator's key was retired: the record is dead-lettered. -/
theorem lapsed_not_stays :
    Keyless operator emptyMutation [] ∧
      Lapsed operator quietOutcomes.now
        (ownSubscription operator ⟨[]⟩ (Text.ofString "oo-live-retired-key")) ∧
      handle operator (LicenseCache.fresh ⟨[]⟩ 300 1024) quietOutcomes emptyMutation =
        .ok (.deadLettered "license_license_key_invalid"
          (Text.ofString "The supplied subscription key is not recognised.")) := by
  have configured : ownKey operator = some (Text.ofString "oo-live-retired-key") := by
    decide +kernel
  refine ⟨rfl, trivial, ?_⟩
  refine (handle_keyless decode_emptyMutation rfl configured ?_ ?_ rfl).trans ?_
  · exact trivial
  · exact id
  · rfl

end OpenOntology.Worker
