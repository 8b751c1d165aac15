import OpenOntology.Library.Run
import OpenOntology.Resolution.Timestamps

/-!
# The sensor index of one asset

Redis holds a hash for each live sensor of the asset and the set of their names. The apply
script writes both at once; `Snapshot` lists the names, reads the hashes and drops the names
whose hash was gone, one command after the other.
-/
namespace OpenOntology.Resolution

open Library

/-- A `Snapshot` between two of its commands. -/
structure Scan where
  unread : List String
  expired : List String
  readings : List SensorReading

/-- One reply to the pipeline of `HGETALL`s. -/
def Scan.read (scan : Scan) (sensor : String) (rest : List String) : Option Twin → Scan
  | none => { scan with unread := rest, expired := scan.expired ++ [sensor] }
  | some twin =>
    { scan with
      unread := rest
      readings := scan.readings ++
        [{ sensorID := sensor, value := twin.value, unit := twin.unit
           observedAt := timeOfMilli twin.observedAtMs }] }

/-- The keys of one asset, in Redis's clock, and the `Snapshot` calls in progress. A key is
gone once the clock reaches its deadline. -/
structure AssetKeys where
  clock : Int
  twins : String → Option (Twin × Int)
  index : Finset String
  indexDeadline : Int
  scans : Nat → Option Scan

inductive KeyEvent where
  | tick (millis : Nat)
  | expire (sensor : String)
  | apply (ev : TelemetryEvent) (ingestedAt : Time)
  | smembers (call : Nat) (order : List String)
  | hgetall (call : Nat)
  | srem (call : Nat)
  | leave (call : Nat)

namespace AssetKeys

def start (clock : Int) : AssetKeys where
  clock
  twins _ := none
  index := ∅
  indexDeadline := clock
  scans _ := none

/-- `twin:<asset>:<sensor>`, unless it has expired. -/
def hash (s : AssetKeys) (sensor : String) : Option Twin :=
  match s.twins sensor with
  | none => none
  | some (twin, deadline) => if s.clock < deadline then some twin else none

/-- `twinindex:<asset>`, unless it has expired. -/
def members (s : AssetKeys) : Finset String :=
  if s.clock < s.indexDeadline then s.index else ∅

/-- `applyReadingScript`. -/
def applyReading (ttl : Nat) (s : AssetKeys) (ev : TelemetryEvent) (ingestedAt : Time) :
    AssetKeys × ApplyOutcome :=
  let incoming := unixMilli ev.timestamp
  let twin : Twin := ⟨ev.assetID, ev.sensorID, ev.value, ev.unit, incoming, unixMilli ingestedAt⟩
  let written : AssetKeys :=
    { s with
      twins := Function.update s.twins ev.sensorID (some (twin, s.clock + ttl))
      index := insert ev.sensorID s.members
      indexDeadline := s.clock + ttl }
  match s.hash ev.sensorID with
  | none => (written, .written)
  | some held =>
    if held.observedAtMs > incoming then (s, .stale)
    else if held.observedAtMs = incoming then (s, .unchanged)
    else (written, .written)

def srem (s : AssetKeys) (sensors : List String) : AssetKeys :=
  { s with index := s.members \ sensors.toFinset }

def setScan (s : AssetKeys) (call : Nat) (scan : Option Scan) : AssetKeys :=
  { s with scans := Function.update s.scans call scan }

/-- One command at Redis, or a `Snapshot` that returns or gives up. -/
def step (asset : String) (ttl : Nat) (s : AssetKeys) : KeyEvent → Option AssetKeys
  | .tick millis => some { s with clock := s.clock + millis }
  | .expire sensor => some { s with twins := Function.update s.twins sensor none }
  | .apply ev ingestedAt =>
    if ev.assetID = asset then some (s.applyReading ttl ev ingestedAt).1 else none
  | .smembers call order =>
    if s.scans call = none ∧ order.Nodup ∧ order.toFinset = s.members then
      if order = [] then some s
      else some (s.setScan call (some ⟨order, [], []⟩))
    else none
  | .hgetall call =>
    match s.scans call with
    | some scan =>
      match scan.unread with
      | sensor :: rest =>
        some (s.setScan call (some (scan.read sensor rest (s.hash sensor))))
      | [] => none
    | none => none
  | .srem call =>
    match s.scans call with
    | some scan =>
      if scan.unread = [] ∧ scan.expired ≠ [] then some ((s.srem scan.expired).setScan call none)
      else none
    | none => none
  | .leave call => some (s.setScan call none)

/-- No call is in progress. -/
def Quiet (s : AssetKeys) : Prop := ∀ call, s.scans call = none

/-- Every sensor with a hash is in the index. -/
def Complete (s : AssetKeys) : Prop := ∀ sensor, s.hash sensor ≠ none → sensor ∈ s.members

/-- An `SREM` names no sensor whose hash has come back since it was found gone. -/
def SparesRevived (s : AssetKeys) (event : KeyEvent) (_ : AssetKeys) : Prop :=
  ∀ call scan, event = .srem call → s.scans call = some scan →
    ∀ sensor ∈ scan.expired, s.hash sensor = none

/-! ## The invariant -/

variable {asset : String} {ttl : Nat} {s next : AssetKeys} {event : KeyEvent}

/-- The index holds every sensor with a hash and outlives it. -/
structure Indexed (ttl : Nat) (s : AssetKeys) : Prop where
  named : ∀ sensor twin deadline, s.twins sensor = some (twin, deadline) → s.clock < deadline →
    sensor ∈ s.index ∧ deadline ≤ s.indexDeadline
  bounded : ∀ sensor twin deadline, s.twins sensor = some (twin, deadline) →
    deadline ≤ s.clock + ttl

theorem hash_ne_none_iff {sensor : String} : s.hash sensor ≠ none ↔
    ∃ twin deadline, s.twins sensor = some (twin, deadline) ∧ s.clock < deadline := by
  unfold hash
  cases s.twins sensor with
  | none => exact iff_of_false (fun present => present rfl) nofun
  | some kept =>
    obtain ⟨twin, deadline⟩ := kept
    by_cases live : s.clock < deadline
    · dsimp only
      rw [if_pos live]
      exact iff_of_true nofun ⟨twin, deadline, rfl, live⟩
    · dsimp only
      rw [if_neg live]
      refine iff_of_false (fun present => present rfl) fun ⟨_, _, same, later⟩ => ?_
      cases same
      exact live later

theorem indexed_start (ttl : Nat) (clock : Int) : (start clock).Indexed ttl :=
  ⟨nofun, nofun⟩

theorem Indexed.complete (indexed : s.Indexed ttl) : s.Complete := by
  intro sensor present
  obtain ⟨twin, deadline, held, live⟩ := hash_ne_none_iff.mp present
  obtain ⟨named, outlives⟩ := indexed.named sensor twin deadline held live
  unfold members
  rwa [if_pos (lt_of_lt_of_le live outlives)]

theorem mem_members {sensor : String} : sensor ∈ s.members → sensor ∈ s.index := by
  unfold members
  split
  · exact id
  · nofun

/-! ## The commands -/

theorem Indexed.setScan (indexed : s.Indexed ttl) (call : Nat) (scan : Option Scan) :
    (s.setScan call scan).Indexed ttl :=
  ⟨indexed.named, indexed.bounded⟩

theorem Indexed.tick (indexed : s.Indexed ttl) (millis : Nat) :
    ({ s with clock := s.clock + millis } : AssetKeys).Indexed ttl where
  named sensor twin deadline held live :=
    indexed.named sensor twin deadline held (by dsimp only at live; omega)
  bounded sensor twin deadline held := by
    have bounded := indexed.bounded sensor twin deadline held
    dsimp only
    omega

theorem Indexed.expire (indexed : s.Indexed ttl) (sensor : String) :
    ({ s with twins := Function.update s.twins sensor none } : AssetKeys).Indexed ttl := by
  have kept : ∀ other, Function.update s.twins sensor none other ≠ none →
      Function.update s.twins sensor none other = s.twins other := by
    intro other present
    refine Function.update_of_ne (fun same => present ?_) _ _
    rw [same, Function.update_self]
  refine ⟨fun other twin deadline held => ?_, fun other twin deadline held => ?_⟩
  · dsimp only at held
    rw [kept other (held ▸ Option.some_ne_none _)] at held
    exact indexed.named other twin deadline held
  · dsimp only at held
    rw [kept other (held ▸ Option.some_ne_none _)] at held
    exact indexed.bounded other twin deadline held

/-- The script leaves the keys alone, or writes the hash and the index together. -/
theorem Indexed.applyReading (indexed : s.Indexed ttl) (ev : TelemetryEvent) (ingestedAt : Time) :
    (s.applyReading ttl ev ingestedAt).1.Indexed ttl := by
  have written : ∀ twin : Twin, ({ s with
      twins := Function.update s.twins ev.sensorID (some (twin, s.clock + ttl))
      index := insert ev.sensorID s.members
      indexDeadline := s.clock + ttl } : AssetKeys).Indexed ttl := by
    intro twin
    refine ⟨fun other found deadline held live => ?_, fun other found deadline held => ?_⟩
    · dsimp only at held live ⊢
      by_cases same : other = ev.sensorID
      · rw [same, Function.update_self] at held
        cases held
        exact ⟨same ▸ Finset.mem_insert_self _ _, le_refl _⟩
      · rw [Function.update_of_ne same] at held
        have present : s.hash other ≠ none := hash_ne_none_iff.mpr ⟨found, deadline, held, live⟩
        exact ⟨Finset.mem_insert_of_mem (indexed.complete other present),
          indexed.bounded other found deadline held⟩
    · dsimp only at held ⊢
      by_cases same : other = ev.sensorID
      · rw [same, Function.update_self] at held
        cases held
        exact le_refl _
      · rw [Function.update_of_ne same] at held
        exact indexed.bounded other found deadline held
  unfold AssetKeys.applyReading
  dsimp only
  split
  · exact written _
  · split
    · exact indexed
    · split
      · exact indexed
      · exact written _

theorem members_srem {sensors : List String} :
    (s.srem sensors).members = s.members \ sensors.toFinset := by
  unfold members srem
  dsimp only
  split
  next live =>
    unfold members
    rw [if_pos live]
  next => exact (Finset.empty_sdiff _).symm

/-- Removing names keeps the index complete exactly when none of them has a hash. -/
theorem Indexed.srem_iff (indexed : s.Indexed ttl) (sensors : List String) :
    (s.srem sensors).Complete ↔ ∀ sensor ∈ sensors, s.hash sensor = none := by
  unfold Complete
  rw [members_srem]
  constructor
  · intro complete sensor gone
    by_contra present
    have named := complete sensor present
    exact (Finset.mem_sdiff.mp named).2 (List.mem_toFinset.mpr gone)
  · intro spared sensor present
    have outside : sensor ∉ sensors.toFinset :=
      fun inside => present (spared sensor (List.mem_toFinset.mp inside))
    exact Finset.mem_sdiff.mpr ⟨indexed.complete sensor present, outside⟩

theorem Indexed.srem (indexed : s.Indexed ttl) {sensors : List String}
    (spared : ∀ sensor ∈ sensors, s.hash sensor = none) : (s.srem sensors).Indexed ttl where
  named sensor twin deadline held live := by
    have present : s.hash sensor ≠ none := hash_ne_none_iff.mpr ⟨twin, deadline, held, live⟩
    have complete := (indexed.srem_iff sensors).mpr spared sensor present
    exact ⟨mem_members complete, (indexed.named sensor twin deadline held live).2⟩
  bounded := indexed.bounded

/-! ## Runs -/

theorem step_srem {call : Nat} (stepped : s.step asset ttl (.srem call) = some next) :
    ∃ scan, s.scans call = some scan ∧ next = (s.srem scan.expired).setScan call none := by
  unfold step at stepped
  dsimp only at stepped
  split at stepped
  next scan running =>
    obtain ⟨-, same⟩ := Option.ite_none_right_eq_some.mp stepped
    exact ⟨scan, running, (Option.some.inj same).symm⟩
  next => cases stepped

/-- Every command but a misguided `SREM` keeps the invariant. -/
theorem Indexed.step (indexed : s.Indexed ttl) (stepped : s.step asset ttl event = some next)
    (spares : s.SparesRevived event next) : next.Indexed ttl := by
  cases event with
  | tick millis =>
    cases stepped
    exact indexed.tick millis
  | expire sensor =>
    cases stepped
    exact indexed.expire sensor
  | apply ev ingestedAt =>
    obtain ⟨-, same⟩ := Option.ite_none_right_eq_some.mp stepped
    cases same
    exact indexed.applyReading ev ingestedAt
  | smembers call order =>
    obtain ⟨-, same⟩ := Option.ite_none_right_eq_some.mp stepped
    split at same
    · cases same
      exact indexed
    · cases same
      exact indexed.setScan call _
  | hgetall call =>
    unfold AssetKeys.step at stepped
    dsimp only at stepped
    split at stepped
    next =>
      split at stepped
      next =>
        cases stepped
        exact indexed.setScan call _
      next => cases stepped
    next => cases stepped
  | srem call =>
    obtain ⟨scan, running, rfl⟩ := step_srem stepped
    exact (indexed.srem (spares call scan rfl running)).setScan call none
  | leave call =>
    cases stepped
    exact indexed.setScan call none

theorem Indexed.complete_iff (indexed : s.Indexed ttl)
    (stepped : s.step asset ttl event = some next) :
    next.Complete ↔ s.SparesRevived event next := by
  constructor
  · intro complete call scan removed running
    cases removed
    obtain ⟨other, running', rfl⟩ := step_srem stepped
    cases running.symm.trans running'
    exact (indexed.srem_iff scan.expired).mp complete
  · intro spares
    exact (indexed.step stepped spares).complete

/-- The index is complete after every command, and so between the calls, exactly when no `SREM`
names a revived sensor. -/
theorem index_complete (asset : String) (ttl : Nat) (clock : Int) (events : List KeyEvent) :
    (EveryStep (step asset ttl) SparesRevived (start clock) events →
      EveryStep (step asset ttl) (fun _ _ next => next.Quiet → next.Complete) (start clock) events) ∧
    (EveryStep (step asset ttl) (fun _ _ next => next.Complete) (start clock) events ↔
      EveryStep (step asset ttl) SparesRevived (start clock) events) := by
  have exact_condition := everyStep_iff (step asset ttl) (Indexed ttl) events
    (P := fun _ _ next => next.Complete) (Q := SparesRevived)
    (fun _ _ _ _ indexed stepped => indexed.complete_iff stepped)
    (fun _ _ _ _ indexed stepped spares => indexed.step stepped spares)
    (indexed_start ttl clock)
  refine ⟨fun spares => ?_, exact_condition⟩
  exact (exact_condition.mpr spares).imp _ fun _ _ _ complete _ => complete

def vibrationAt (value : Float) (millis : Int) : TelemetryEvent where
  assetID := "pump-1"
  sensorID := "vibration"
  value
  unit := "mm/s"
  timestamp := timeOfMilli millis

/-- A sensor comes back after a snapshot has found its hash gone. -/
def revived : List KeyEvent :=
  [.apply (vibrationAt 1 0) 0, .expire "vibration", .smembers 0 ["vibration"], .hgetall 0,
    .apply (vibrationAt 2 5) 0, .srem 0]

theorem revived_not_complete : ¬EveryStep (step "pump-1" 60000)
    (fun _ _ next => next.Quiet → next.Complete) (start 0) revived := by
  intro every
  obtain ⟨-, expired⟩ := every _ rfl
  obtain ⟨-, listed⟩ := expired _ rfl
  obtain ⟨-, read⟩ := listed _ rfl
  obtain ⟨-, applied⟩ := read _ rfl
  obtain ⟨-, removed⟩ := applied _ rfl
  obtain ⟨complete, -⟩ := removed _ rfl
  have quiet : ∀ call (one two : Option Scan), Function.update (Function.update
      (Function.update (fun _ => none) 0 one) 0 two) 0 none call = none := by
    intro call one two
    cases call <;> rfl
  have named := complete (fun call => quiet call _ _) "vibration" (by decide +kernel)
  exact absurd named (by decide +kernel)

end AssetKeys
end OpenOntology.Resolution
