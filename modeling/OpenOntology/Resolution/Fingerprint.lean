import OpenOntology.Resolution.Accounting

/-!
# Readings on one claim

A claim is under the digest of the asset, the sensor and the time in whole milliseconds. The
identifiers cannot run into each other, so two readings share a claim where they have the
channel and the millisecond in common. Readings of one channel inside of a millisecond do.
-/
namespace OpenOntology.Resolution

open Library

/-- The fields a reading is told apart by. -/
structure SameCoordinate (e other : TelemetryEvent) : Prop where
  asset : e.assetID = other.assetID
  sensor : e.sensorID = other.sensorID
  timestamp : e.timestamp = other.timestamp

/-- One channel at two instants of a millisecond. -/
structure SharesMillisecond (e other : TelemetryEvent) : Prop where
  asset : e.assetID = other.assetID
  sensor : e.sensorID = other.sensorID
  millisecond : unixMilli e.timestamp = unixMilli other.timestamp
  apart : e.timestamp ≠ other.timestamp

/-- The text that is digested under the `asset_sensor` scope. -/
def coordinateText (e : TelemetryEvent) : String :=
  e.assetID ++ "|" ++ (e.sensorID ++ "|") ++ toString (unixMilli e.timestamp)

theorem identifier_solid {s : String} (valid : identifierPattern s = true) :
    ∀ c ∈ s.toList, isSpace c = false := by
  intro c member
  have allowed := Engine.identifier_allows valid c member
  unfold Char.isAlphanum Char.isAlpha Char.isUpper Char.isLower Char.isDigit at allowed
  simp only [Bool.or_eq_true, Bool.and_eq_true, decide_eq_true_eq, beq_iff_eq,
    UInt32.le_iff_toNat_le, ge_iff_le] at allowed
  have code : c.val.toNat = c.toNat := rfl
  unfold isSpace
  simp only [Bool.or_eq_false_iff, Bool.and_eq_false_iff, decide_eq_false_iff_not,
    beq_eq_false_iff_ne]
  obtain ((((upper | lower) | digit) | rfl) | rfl) | rfl := allowed
  · have top : ('Z' : Char).val.toNat = 90 := by decide
    have bottom : ('A' : Char).val.toNat = 65 := by decide
    omega
  · have top : ('z' : Char).val.toNat = 122 := by decide
    have bottom : ('a' : Char).val.toNat = 97 := by decide
    omega
  · have top : ('9' : Char).val.toNat = 57 := by decide
    have bottom : ('0' : Char).val.toNat = 48 := by decide
    omega
  all_goals decide

theorem pipe_notMem {s : String} (valid : identifierPattern s = true) : '|' ∉ s.toList :=
  fun pipe => absurd (Engine.identifier_allows valid '|' pipe) (by decide)

theorem identifier_trimmed {s : String} (valid : identifierPattern s = true) :
    trimSpace s = s :=
  trimSpace_eq_self s (identifier_solid valid)

theorem identifier_ne_empty {s : String} (valid : identifierPattern s = true) : s ≠ "" := by
  intro empty
  subst empty
  revert valid
  decide

theorem repr_inj_of_pos {n m : Int} (positive : 0 < n) (positive' : 0 < m)
    (same : toString n = toString m) : n = m := by
  rw [Int.toString_eq_repr, Int.toString_eq_repr, Int.repr_eq_if, Int.repr_eq_if,
    if_pos positive.le, if_pos positive'.le] at same
  have digits := Nat.repr_injective same
  omega

section
variable {c : IdempotencyConfig} {md5 : String → String} {e other : TelemetryEvent} {key : String}

theorem identifiers (valid : e.validate = true) :
    identifierPattern e.assetID = true ∧ identifierPattern e.sensorID = true := by
  unfold TelemetryEvent.validate at valid
  simp only [Bool.and_eq_true] at valid
  exact valid.1.1

/-- The key of a reading that the filter accepts. -/
theorem key_eq (scope : c.scope = "asset_sensor") (valid : e.validate = true)
    (named : c.key md5 e = some key) :
    key = c.keyPrefix ++ md5 (coordinateText e) ∧ 0 < unixMilli e.timestamp := by
  obtain ⟨asset, sensor⟩ := identifiers valid
  unfold IdempotencyConfig.key IdempotencyConfig.fingerprintFor at named
  rw [if_pos scope] at named
  unfold idempotencyFingerprint at named
  dsimp only at named
  rw [identifier_trimmed asset, identifier_trimmed sensor, if_neg (identifier_ne_empty sensor)]
    at named
  split at named
  next => cases named
  next accepted =>
    obtain ⟨-, positive⟩ := not_or.mp accepted
    exact ⟨(Option.some.inj named).symm, not_le.mp positive⟩

/-- The text gives the asset, the sensor and the millisecond away. -/
theorem coordinateText_inj (valid : e.validate = true) (valid' : other.validate = true)
    (positive : 0 < unixMilli e.timestamp) (positive' : 0 < unixMilli other.timestamp) :
    coordinateText e = coordinateText other ↔ e.assetID = other.assetID ∧
      e.sensorID = other.sensorID ∧ unixMilli e.timestamp = unixMilli other.timestamp := by
  obtain ⟨asset, sensor⟩ := identifiers valid
  obtain ⟨asset', sensor'⟩ := identifiers valid'
  constructor
  · intro same
    have lists : e.assetID.toList ++ '|' ::
          (e.sensorID.toList ++ '|' :: (toString (unixMilli e.timestamp)).toList) =
        other.assetID.toList ++ '|' ::
          (other.sensorID.toList ++ '|' :: (toString (unixMilli other.timestamp)).toList) := by
      simpa [coordinateText, ← String.toList_inj] using same
    obtain ⟨assets, rest⟩ :=
      append_cons_inj_of_not_mem _ _ _ _ (pipe_notMem asset) (pipe_notMem asset') lists
    obtain ⟨sensors, digits⟩ :=
      append_cons_inj_of_not_mem _ _ _ _ (pipe_notMem sensor) (pipe_notMem sensor') rest
    exact ⟨String.toList_injective assets, String.toList_injective sensors,
      repr_inj_of_pos positive positive' (String.toList_injective digits)⟩
  · intro ⟨assets, sensors, milliseconds⟩
    unfold coordinateText
    rw [assets, sensors, milliseconds]

end

/-! ## Two readings of a nanosecond -/

/-- A nanosecond after the spike, the vibration is back to normal. -/
def settled : TelemetryEvent := vibration 2 63840000000000000001

theorem settled_carried : Engine.validated Char.toLower (some settled) =
    some (settled.normalize Char.toLower) :=
  Option.filter_eq_some_iff.mpr ⟨rfl, by decide +kernel⟩

/-- The digest of the text of both, and no two texts on one digest. -/
def spikeDigest : Equiv.Perm String :=
  Equiv.swap "HP-TUBING-P104|vibration_index|1704403200000" "2a74adf5858847835d7e38a1e58d0dcb"

/-- Under the `asset_sensor` scope, two valid readings have one key exactly when they agree in
asset, sensor and timestamp, but for two instants of one channel in one millisecond. -/
theorem keys_agree_iff (c : IdempotencyConfig) (md5 : String → String)
    (injective : Function.Injective md5) (scope : c.scope = "asset_sensor") (toLower : Char → Char)
    (sent sent' e other : TelemetryEvent)
    (valid : Engine.validated toLower (some sent) = some e)
    (valid' : Engine.validated toLower (some sent') = some other) (key key' : String)
    (named : c.key md5 e = some key) (named' : c.key md5 other = some key') :
    (key = key' ↔ SameCoordinate e other) ↔ ¬SharesMillisecond e other := by
  have passes := (Option.filter_eq_some_iff.mp valid).2
  have passes' := (Option.filter_eq_some_iff.mp valid').2
  obtain ⟨rfl, positive⟩ := key_eq scope passes named
  obtain ⟨rfl, positive'⟩ := key_eq scope passes' named'
  have keys : c.keyPrefix ++ md5 (coordinateText e) = c.keyPrefix ++ md5 (coordinateText other) ↔
      e.assetID = other.assetID ∧ e.sensorID = other.sensorID ∧
        unixMilli e.timestamp = unixMilli other.timestamp := by
    rw [← coordinateText_inj passes passes' positive positive']
    constructor
    · intro same
      exact injective (by simpa using same)
    · intro same
      rw [same]
  rw [keys]
  constructor
  · intro told shares
    exact shares.apart (told.mp ⟨shares.asset, shares.sensor, shares.millisecond⟩).timestamp
  · intro alone
    constructor
    · intro ⟨asset, sensor, millisecond⟩
      refine ⟨asset, sensor, ?_⟩
      by_contra apart
      exact alone ⟨asset, sensor, millisecond, apart⟩
    · intro same
      exact ⟨same.asset, same.sensor, congrArg unixMilli same.timestamp⟩

theorem keys_agree_iff_settled :
    ("dedupe:2a74adf5858847835d7e38a1e58d0dcb" = "dedupe:2a74adf5858847835d7e38a1e58d0dcb" ↔
        SameCoordinate (Engine.spike.normalize Char.toLower) (settled.normalize Char.toLower)) ↔
      ¬SharesMillisecond (Engine.spike.normalize Char.toLower)
        (settled.normalize Char.toLower) :=
  keys_agree_iff Intake.spikeSetting.filter spikeDigest spikeDigest.injective rfl Char.toLower
    Engine.spike settled _ _ Intake.spike_carried settled_carried _ _ (by decide +kernel)
    (by decide +kernel)

/-- Both readings are valid, and the second meets the claim of the first. -/
theorem settled_swallowed :
    Engine.validated Char.toLower (some Engine.spike) =
        some (Engine.spike.normalize Char.toLower) ∧
      Engine.validated Char.toLower (some settled) = some (settled.normalize Char.toLower) ∧
        Intake.spikeSetting.filter.key spikeDigest (Engine.spike.normalize Char.toLower) =
            some "dedupe:2a74adf5858847835d7e38a1e58d0dcb" ∧
          Intake.spikeSetting.filter.key spikeDigest (settled.normalize Char.toLower) =
              some "dedupe:2a74adf5858847835d7e38a1e58d0dcb" ∧
            ¬SameCoordinate (Engine.spike.normalize Char.toLower)
              (settled.normalize Char.toLower) := by
  refine ⟨Intake.spike_carried, settled_carried, by decide +kernel, by decide +kernel, ?_⟩
  intro same
  exact absurd same.timestamp (by decide)

end OpenOntology.Resolution
