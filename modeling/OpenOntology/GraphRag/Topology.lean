import OpenOntology.GraphRag.Contracts

/-!
# The topology kernel

The deterministic analysis that runs before any agent: channel bands, the join of the
replicas' stamps, the upstream walk and the verdict derived from them. `formatG` is the
`:g` presentation of a float, which appears in the texts only.
-/
namespace OpenOntology.GraphRag

/-! ## Channel limits -/

/-- A channel that is not `physical` measures the graph, never the asset. -/
structure ChannelLimit where
  channel : String
  unit : String
  warn : Float
  critical : Float
  hard : Float
  physical : Bool

def ChannelLimit.band (l : ChannelLimit) (value : Float) : Band :=
  if value ≥ l.hard then .hard
  else if value ≥ l.critical then .critical
  else if value ≥ l.warn then .warn
  else .nominal

def channelLimits : List ChannelLimit :=
  [⟨"vibration_index", "mm/s", 4.5, 7.0, 9.5, true⟩,
    ⟨"temperature_celsius", "degC", 85.0, 110.0, 130.0, true⟩,
    ⟨"pressure_bar", "bar", 12.0, 16.0, 19.0, true⟩,
    ⟨"flow_deviation_pct", "%", 8.0, 18.0, 30.0, true⟩,
    ⟨"rpm_deviation_pct", "%", 5.0, 12.0, 20.0, true⟩,
    ⟨"current_draw_amps", "A", 60.0, 85.0, 110.0, true⟩,
    ⟨"acoustic_emission_db", "dB", 78.0, 92.0, 105.0, true⟩,
    ⟨"oil_particulate_ppm", "ppm", 120.0, 260.0, 400.0, true⟩,
    ⟨"torque_nm", "N.m", 320.0, 420.0, 500.0, true⟩,
    ⟨"differential_pressure_bar", "bar", 1.5, 2.8, 4.0, true⟩,
    ⟨"crdt_collision_rate", "ratio", 0.05, 0.15, 0.35, false⟩,
    ⟨"lamport_skew_ops", "ops", 25.0, 120.0, 400.0, false⟩,
    ⟨"replica_lag_seconds", "s", 30.0, 300.0, 1800.0, false⟩]

structure Exceedance where
  channel : String
  value : Float
  band : Band
  limit : Option ChannelLimit
  node : String

def Exceedance.physical (e : Exceedance) : Bool :=
  match e.limit with
  | none => true
  | some limit => limit.physical

/-- The order of the scored channels: worst band first, then by name. -/
def Exceedance.before (a b : Exceedance) : Bool :=
  a.band.rank > b.band.rank || (a.band.rank == b.band.rank && a.channel ≤ b.channel)

def evaluateChannels (channels : List (String × Float)) (node : String) : List Exceedance :=
  (channels.map fun entry =>
    let limit := channelLimits.find? fun limit => limit.channel == entry.1
    let band := match limit with
      | none => .unknown
      | some limit => limit.band entry.2
    (⟨entry.1, entry.2, band, limit, node⟩ : Exceedance)).mergeSort Exceedance.before

def worstBand (exceedances : List Exceedance) : Band :=
  exceedances.foldl (fun worst item => if item.band.rank > worst.rank then item.band else worst)
    .nominal

/-! ## The join of the replicas' stamps -/

/-- The verdict on the vertex, the rule that broke a tie, and the reason given for it. -/
def joinStamps (add remove : Nat) (hasLiveDownstream : Bool) : CRDTPresence × TieBreaker × String :=
  if add > remove then
    (.live, .notRequired,
      "highest add stamp " ++ toString add ++ " exceeds highest remove stamp " ++ toString remove)
  else if remove > add then
    (.tombstoned, .notRequired,
      "highest remove stamp " ++ toString remove ++ " exceeds highest add stamp " ++ toString add)
  else if add = 0 then (.unobserved, .notRequired, "no replica has stamped this vertex")
  else if hasLiveDownstream then
    (.live, .addWins,
      "add and remove stamps tie at " ++ toString add ++ "; the vertex still feeds live downstream " ++
      "dependents, so add-wins keeps a physically present asset visible to operators")
  else
    (.tombstoned, .removedWins,
      "add and remove stamps tie at " ++ toString add ++ " on a leaf vertex; removed-wins matches " ++
      "the replication core, and a later add can always resurrect it")

def CRDTPresence.value : CRDTPresence → String
  | .live => "LIVE"
  | .tombstoned => "TOMBSTONED"
  | .unobserved => "UNOBSERVED"

/-- One deduction from the trust in the graph, with its note. -/
def deduct (applies : Bool) (amount : Float) (note : String) (state : Float × List String) :
    Float × List String :=
  if applies then (state.1 - amount, state.2 ++ [note]) else state

section
variable (formatG : Float → String)

/-- The assessment; an error where the model refuses its own explanation as too long. -/
def resolveCrdtPresence (observations : List ReplicaObservation) (hasLiveDownstream : Bool)
    (collisionRate : Float) (telemetryIsLive : Bool) : Except String CRDTAssessment :=
  let assessment : CRDTAssessment :=
    if observations = [] then
      { presence := .unobserved, tieBreakerRule := .notRequired, contested := false
        highestAddStamp := 0, highestRemoveStamp := 0, divergingReplicas := [], collisionRate
        graphTrust :=
          Python.round (Python.max 0 (0.7 - Python.min 0.4 (collisionRate * 2))) 3
        explanation := "No replica observations accompanied the mutation; vertex liveness is " ++
          "unverified. Treating the topology as provisional." }
    else
      let highestAdd := (observations.map ReplicaObservation.addStamp).foldl Nat.max 0
      let highestRemove := (observations.map ReplicaObservation.removeStamp).foldl Nat.max 0
      let contested := highestAdd == highestRemove && highestAdd > 0
      let (presence, rule, reason) := joinStamps highestAdd highestRemove hasLiveDownstream
      let diverging := ((observations.filter fun o =>
        o.localPresence != .unobserved && o.localPresence != presence).map
          ReplicaObservation.replicaID).mergeSort
      let state : Float × List String := (1.0, [])
      let state := deduct contested 0.25 "stamp tie required a policy tie-breaker" state
      let state := deduct (rule == .addWins) 0.10
        "topology overrode the default removed-wins policy" state
      let state := deduct (!diverging.isEmpty)
        (Python.min 0.30 (0.10 * Float.ofNat diverging.length))
        (toString diverging.length ++ " replica(s) have not converged: " ++
          ", ".intercalate diverging) state
      let state := deduct (collisionRate > 0) (Python.min 0.40 (collisionRate * 2))
        ("merge collision rate " ++ formatG collisionRate) state
      let state := deduct (presence == .tombstoned && telemetryIsLive) 0.25
        "vertex is tombstoned but still emitting telemetry" state
      { presence, tieBreakerRule := rule, contested, highestAddStamp := highestAdd
        highestRemoveStamp := highestRemove, divergingReplicas := diverging, collisionRate
        graphTrust := Python.round (Python.max 0 (Python.min 1 state.1)) 3
        explanation :=
          "Vertex resolves " ++ presence.value ++ ": " ++ reason ++ "." ++
            if state.2 = [] then "" else " Trust reduced by: " ++ "; ".intercalate state.2 ++ "." }
  if assessment.accepted then .ok assessment else .error "crdt assessment refused"

/-! ## The analysis -/

structure TopologyAnalysis where
  assetID : String
  knownNodes : List String
  faultedUpstream : List String
  cascadePath : List String
  classification : FaultClassification
  rootCauseNode : String
  localizedComponents : List String
  severityBand : Band
  crdt : CRDTAssessment
  blastRadius : List String
  priority : ExecutionPriority
  recommendedAction : ActionType
  irreversiblePermitted : Bool
  confidence : Float

/-- A neighbour faults by its status, or by a physical channel in its critical band. -/
def nodeIsFaulted (context : OntologyContext) (telemetry : TelemetrySnapshot) (node : String) :
    Bool :=
  (context.health node).any AssetStatus.isFaulted ||
    (evaluateChannels (telemetry.attributedChannels node) node).any fun item =>
      item.physical && item.band.rank ≥ Band.critical.rank

def analyseTopology (settings : InterceptorSettings) (payload : EnrichedGraphPayload) :
    Except String TopologyAnalysis := do
  let asset := payload.assetMetadata
  let context := payload.ontologyContext
  let telemetry := payload.telemetrySnapshot
  let localChannels := telemetry.localChannels
  let scored := evaluateChannels localChannels asset.uuid
  let physical := scored.filter Exceedance.physical
  let severityBand := worstBand physical
  let integrityBand := worstBand (scored.filter fun item => !item.physical)
  let liveDownstream := context.downstreamImpacts.filter fun node =>
    (context.health node).getD .unknown != .offline
  let crdt ← resolveCrdtPresence formatG context.replicaObservations (!liveDownstream.isEmpty)
    ((telemetry.get "crdt_collision_rate").getD 0) (!localChannels.isEmpty)
  let faultedUpstream := context.upstreamDependencies.filter (nodeIsFaulted context telemetry)
  let graphUntrusted := crdt.graphTrust < settings.minGraphTrustForIrreversible
  let localPhysicalFault : Bool := severityBand.rank ≥ Band.warn.rank
  -- the origin of a cascade is the furthest faulting node
  let (classification, cascadePath, rootCauseNode) :=
    match faultedUpstream.getLast? with
    | some origin =>
      (FaultClassification.inheritedCascade,
        (context.upstreamDependencies.take
          (context.upstreamDependencies.idxOf origin + 1)).reverse ++ [asset.uuid], origin)
    | none =>
      if localPhysicalFault then (.localizedComponent, [], asset.uuid)
      else if integrityBand.rank ≥ Band.warn.rank ∨ graphUntrusted then
        (.indeterminate, [], asset.uuid)
      else (.noFaultDetected, [], asset.uuid)
  let hardBreach : Bool := severityBand.rank ≥ Band.hard.rank
  let criticalBreach : Bool := severityBand.rank ≥ Band.critical.rank
  let wideBlast : Bool := context.downstreamImpacts.length ≥ 3
  let assetAlarming := asset.currentStatus == .alarm || asset.currentStatus == .offline
  let priority : ExecutionPriority :=
    if hardBreach || (criticalBreach && (wideBlast || assetAlarming)) then .critical
    else if criticalBreach || (classification == .inheritedCascade && localPhysicalFault) then .high
    else if localPhysicalFault || classification == .indeterminate then
      if wideBlast then .high else .routine
    else .routine
  let irreversiblePermitted := !graphUntrusted && crdt.presence != .unobserved &&
    !(crdt.presence == .tombstoned && !localChannels.isEmpty)
  let recommendedAction : ActionType :=
    if classification == .indeterminate || !irreversiblePermitted then .degradeThrottle
    else if hardBreach && priority == .critical then .emergencyShutdown
    else if (classification == .localizedComponent || classification == .inheritedCascade) &&
        (priority == .critical || priority == .high) then .isolateValve
    else .degradeThrottle
  let confidence : Float := 0.9
  let confidence := if classification == .indeterminate then confidence - 0.35 else confidence
  let confidence := if payload.degraded then confidence - 0.15 else confidence
  let confidence :=
    if context.replicaObservations.isEmpty then confidence - 0.10 else confidence
  let confidence :=
    if classification == .inheritedCascade && context.dependencyHealth.isEmpty then
      confidence - 0.10
    else confidence
  return {
    assetID := asset.uuid
    knownNodes := payload.knownNodes
    faultedUpstream, cascadePath, classification, rootCauseNode
    localizedComponents := (physical.filter fun item =>
      item.band.rank ≥ Band.warn.rank).map Exceedance.channel
    severityBand, crdt
    blastRadius := context.downstreamImpacts
    priority, recommendedAction, irreversiblePermitted
    confidence := Python.round
      (Python.max 0.05 (Python.min 1 (confidence * (0.6 + 0.4 * crdt.graphTrust)))) 3 }

/-- What the analysis permits is decided by its reading of the replication state. -/
structure TopologyAnalysis.Cautious (analysis : TopologyAnalysis) (settings : InterceptorSettings)
    (payload : EnrichedGraphPayload) : Prop where
  permitted : analysis.irreversiblePermitted = true ↔
    ¬analysis.crdt.graphTrust < settings.minGraphTrustForIrreversible ∧
      analysis.crdt.presence ≠ .unobserved ∧
      (analysis.crdt.presence = .tombstoned → payload.telemetrySnapshot.localChannels = [])
  recommended : analysis.irreversiblePermitted = false → analysis.recommendedAction = .degradeThrottle

theorem bind_ok {ε α β : Type} {first : Except ε α} {next : α → Except ε β} {value : β}
    (done : (first >>= next) = .ok value) : ∃ x, first = .ok x ∧ next x = .ok value := by
  cases first with
  | error => cases done
  | ok x => exact ⟨x, rfl, done⟩

theorem analyse_cautious {settings : InterceptorSettings} {payload : EnrichedGraphPayload}
    {analysis : TopologyAnalysis}
    (analysed : analyseTopology formatG settings payload = .ok analysis) :
    analysis.Cautious settings payload ∧
      ∃ live rate, resolveCrdtPresence formatG payload.ontologyContext.replicaObservations live rate
        (!payload.telemetrySnapshot.localChannels.isEmpty) = .ok analysis.crdt := by
  unfold analyseTopology at analysed
  obtain ⟨crdt, resolved, rest⟩ := bind_ok analysed
  cases rest
  refine ⟨⟨?_, ?_⟩, _, _, resolved⟩
  · simp only [Bool.and_eq_true, Bool.not_eq_true', decide_eq_false_iff_not, bne_iff_ne, ne_eq,
      Bool.and_eq_false_imp, beq_iff_eq, Bool.not_eq_false', List.isEmpty_iff, and_assoc]
  · intro forbidden
    dsimp only at forbidden ⊢
    rw [if_pos (by rw [forbidden, Bool.not_false, Bool.or_true])]

/-- Without a single replica observation nothing irreversible is permitted. -/
theorem not_permitted_of_unobserved {settings : InterceptorSettings}
    {payload : EnrichedGraphPayload} {analysis : TopologyAnalysis}
    (analysed : analyseTopology formatG settings payload = .ok analysis)
    (unobserved : payload.ontologyContext.replicaObservations = []) :
    analysis.irreversiblePermitted = false := by
  obtain ⟨cautious, live, rate, resolved⟩ := analyse_cautious formatG analysed
  rw [Bool.eq_false_iff]
  intro permitted
  refine (cautious.permitted.mp permitted).2.1 ?_
  rw [unobserved] at resolved
  unfold resolveCrdtPresence at resolved
  rw [if_pos rfl] at resolved
  dsimp only at resolved
  split at resolved
  next => rw [← Except.ok.inj resolved]
  next => cases resolved

end
end OpenOntology.GraphRag
