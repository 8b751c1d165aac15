import OpenOntology.Bridge.Acceptance

/-!
# Cascades through the bridge

The engine reports the state of each neighbour in its flow references; the projection keeps
the neighbour's id alone. What the kernel can see of a cascade is then left to the channels
that a sensor's name attributes to a neighbour.
-/
namespace OpenOntology.Bridge

open GraphRag (Band EnrichedGraphPayload InterceptorSettings TelemetrySnapshot TopologyAnalysis
  analyseTopology evaluateChannels explanationLength)

/-- The states of `AssetStatus` in which a neighbour is faulted. -/
def faultedStatus (status : String) : Bool := ["DEGRADED", "ALARM", "OFFLINE"].contains status

namespace Mutation
variable (m : Mutation)

/-- An upstream reference reports the node in a faulted state. -/
def reportsFault (node : String) : Bool :=
  m.ontologyContext.upstreamDependencies.any fun ref =>
    validNode ref.assetID == some node && faultedStatus ref.status

def snapshot : TelemetrySnapshot := m.telemetry.validated

/-- A channel attributed to the node is in its critical band. -/
def attributesFault (node : String) : Bool :=
  (evaluateChannels (m.snapshot.attributedChannels node) node).any fun item =>
    item.physical && item.band.rank ≥ Band.critical.rank

def collisionRate : Float := (m.snapshot.get "crdt_collision_rate").getD 0

def observed : List GraphRag.ReplicaObservation :=
  (observations m.ontologyContext).map GraphRag.InboundObservation.validated

/-- The kernel accepts its own assessment of the mutation's replication state. -/
structure Analysable (formatG : Float → String) : Prop where
  rate : ¬m.collisionRate < 0
  explained : m.observed = [] ∨ explanationLength formatG m.observed (!m.downstream.isEmpty)
    m.collisionRate (!m.snapshot.localChannels.isEmpty) ≤ 1200

/-- An upstream reference to a node of its own, not also downstream, reports a fault. -/
def ReportsCascade : Prop :=
  ∃ ref ∈ m.ontologyContext.upstreamDependencies, faultedStatus ref.status = true ∧
    ∃ node, validNode ref.assetID = some node ∧ node ≠ m.asset ∧ node ∉ m.downstream

/-- The kernel finds the cascade, and its origin is the furthest node reported faulted. -/
def ShowsCascade (formatG : Float → String) (settings : InterceptorSettings) : Prop :=
  ∃ payload analysis, mutationToGraphPayload m = some payload ∧
    analyseTopology formatG settings payload = .ok analysis ∧
    analysis.classification = .inheritedCascade ∧
    (m.upstream.filter m.reportsFault).getLast? = some analysis.rootCauseNode

variable {m}

theorem reportsCascade_iff : m.ReportsCascade ↔ m.upstream.filter m.reportsFault ≠ [] := by
  rw [ne_eq, List.filter_eq_nil_iff]
  simp only [not_forall, not_not, exists_prop, mem_upstream, reportsFault, List.any_eq_true,
    Bool.and_eq_true, beq_iff_eq, ReportsCascade]
  constructor
  · intro ⟨ref, listed, faulted, node, mapped, other, below⟩
    exact ⟨node, ⟨below, other, ref, listed, mapped⟩, ref, listed, mapped, faulted⟩
  · intro ⟨node, ⟨below, other, _⟩, ref, listed, mapped, faulted⟩
    exact ⟨ref, listed, faulted, node, mapped, other, below⟩

/-- Without dependency health a node is faulted by its channels alone. -/
theorem faulted_eq (m : Mutation) : m.project.validated.faulted = m.attributesFault := by
  funext node
  unfold EnrichedGraphPayload.faulted GraphRag.nodeIsFaulted GraphRag.OntologyContext.health
  rw [m.validated_context.2.2]
  rfl

theorem assessable_iff (formatG : Float → String) (m : Mutation) :
    m.project.validated.Assessable formatG ↔ m.Analysable formatG := by
  have live : m.project.validated.hasLiveDownstream = !m.downstream.isEmpty := by
    unfold EnrichedGraphPayload.hasLiveDownstream GraphRag.OntologyContext.health
    rw [m.validated_context.2.1, m.validated_context.2.2]
    have all : ∀ node ∈ m.downstream,
        ((([] : List (String × GraphRag.AssetStatus)).lookup node).getD .unknown != .offline) = true :=
      fun _ _ => rfl
    rw [List.filter_eq_self.mpr all]
  unfold EnrichedGraphPayload.Assessable
  rw [live]
  exact ⟨fun both => ⟨both.1, both.2⟩, fun both => ⟨both.rate, both.explained⟩⟩

/-- A reported cascade is shown exactly when the mutation is projected and analysed and the
channels attributed to the neighbours name the same origin. -/
theorem showsCascade_iff (formatG : Float → String) (settings : InterceptorSettings) (m : Mutation)
    (reported : m.ReportsCascade) :
    m.ShowsCascade formatG settings ↔ m.Projectable ∧ m.Analysable formatG ∧
      (m.upstream.filter m.attributesFault).getLast? =
        (m.upstream.filter m.reportsFault).getLast? := by
  obtain ⟨origin, furthest⟩ := Option.ne_none_iff_exists'.mp
    (mt List.getLast?_eq_none_iff.mp (reportsCascade_iff.mp reported))
  have chain := m.validated_context.1
  rw [furthest]
  constructor
  · intro ⟨payload, analysis, projected, analysed, cascade, same⟩
    obtain ⟨projectable, rfl⟩ := (projected_iff m).mp projected
    have assessed := (GraphRag.analyse_ok_iff formatG settings _).mp ⟨analysis, analysed⟩
    refine ⟨projectable, (assessable_iff formatG m).mp assessed, ?_⟩
    rcases GraphRag.analyse_cases analysed with ⟨root, last, -, named, -⟩ | ⟨-, other, -⟩
    · rw [chain, faulted_eq] at last
      rw [last, ← named, ← same, furthest]
    · exact absurd cascade other
  · intro ⟨projectable, analysable, last⟩
    have projected := (projected_iff m).mpr ⟨projectable, rfl⟩
    obtain ⟨analysis, analysed⟩ := (GraphRag.analyse_ok_iff formatG settings _).mpr
      ((assessable_iff formatG m).mpr analysable)
    refine ⟨_, analysis, projected, analysed, ?_⟩
    rcases GraphRag.analyse_cases analysed with ⟨root, last', cascade, named, -⟩ | ⟨none, -⟩
    · rw [chain, faulted_eq, last] at last'
      rw [named, furthest]
      exact ⟨cascade, last'⟩
    · rw [chain, faulted_eq] at none
      rw [none] at last
      cases last

/-! ## The engine's own mutations -/

/-- Where no channel is attributed to a neighbour, none has channels. -/
theorem attributedChannels_eq_nil {telemetry : TelemetrySnapshot}
    (plain : telemetry.attributedNodes = []) (node : String) :
    telemetry.attributedChannels node = [] := by
  unfold TelemetrySnapshot.attributedNodes at plain
  unfold TelemetrySnapshot.attributedChannels
  rw [List.filterMap_eq_nil_iff] at plain
  generalize telemetry.channels = channels at plain
  induction channels with
  | nil => rfl
  | cons entry rest ih =>
    have first := plain entry List.mem_cons_self
    have skipped := ih fun later member => plain later (List.mem_cons_of_mem _ member)
    rw [List.foldl_cons]
    split
    next => exact skipped
    next owner channel parted =>
      simp only [parted, ite_eq_left_iff, not_or, reduceCtorEq, imp_false, not_and, not_not] at first
      have out : Python.strip owner ≠ node ∨ node = "" ∨ Python.strip channel = "" := by
        by_cases own : Python.strip owner = node
        · by_cases anonymous : node = ""
          · exact Or.inr (Or.inl anonymous)
          · exact Or.inr (Or.inr (first (own ▸ anonymous)))
        · exact Or.inl own
      dsimp only
      rw [if_pos out]
      exact skipped

/-- No mutation of the engine shows the cascade it reports. -/
theorem Published.not_showsCascade {m : Mutation} (published : m.Published)
    (formatG : Float → String) (settings : InterceptorSettings) :
    ¬m.ShowsCascade formatG settings := by
  intro ⟨payload, analysis, projected, analysed, cascade, _⟩
  obtain ⟨-, rfl⟩ := (projected_iff m).mp projected
  have calm : m.upstream.filter m.attributesFault = [] := by
    rw [List.filter_eq_nil_iff]
    intro node _
    unfold attributesFault snapshot
    rw [attributedChannels_eq_nil published.attributed]
    simp [evaluateChannels]
  rcases GraphRag.analyse_cases analysed with ⟨root, last, -⟩ | ⟨-, other, -⟩
  · rw [m.validated_context.1, faulted_eq, calm] at last
    cases last
  · exact other cascade

/-- A pump whose compressor is in alarm, with one more reading. -/
def reporting (sensorID : String) : Mutation where
  eventID := "evt_1f"
  assetID := "PUMP-221"
  severity := "HIGH"
  readings := [⟨sensorID, 9⟩]
  trigger := ⟨"vibration_index", 9⟩
  ontologyContext :=
    { site := "PLANT-1", upstreamDependencies := [⟨"COMP-1", "ALARM"⟩] }

theorem reporting_reportsCascade (sensorID : String) : (reporting sensorID).ReportsCascade := by
  have other : "COMP-1" ≠ Python.strip "PUMP-221" := by decide +kernel
  exact ⟨⟨"COMP-1", "ALARM"⟩, List.mem_singleton_self _, by decide +kernel, "COMP-1",
    by decide +kernel, other, List.not_mem_nil⟩

theorem reporting_published : (reporting "temperature_celsius").Published where
  event := by
    have minted : "evt_1f" = "evt_" ++ String.ofList ['1', 'f'] := by decide +kernel
    exact ⟨['1', 'f'], minted, by simp, by simp⟩
  asset := by decide +kernel
  sensor := by
    have both : ((reporting "temperature_celsius").readings ++
        [(reporting "temperature_celsius").trigger]).all (fun reading =>
          Resolution.identifierPattern reading.sensorID && reading.value.isFinite) = true := by
      decide +kernel
    simpa only [List.all_eq_true, Bool.and_eq_true] using both
  neighbour := by
    intro ref member
    obtain rfl : ref = ⟨"COMP-1", "ALARM"⟩ := by simpa [reporting] using member
    decide +kernel

theorem showsCascade_iff_attributed :
    (reporting "COMP-1::vibration_index").ShowsCascade (fun _ => "") GraphRag.defaultSettings := by
  refine (showsCascade_iff _ _ _ (reporting_reportsCascade _)).mpr ⟨?_, ⟨?_, Or.inl rfl⟩, ?_⟩
  · exact (project_accepted_iff _).mp (by decide +kernel)
  · decide +kernel
  · decide +kernel

/-- The engine reports the compressor's alarm, and the kernel sees none of it. -/
theorem not_showsCascade_alarm :
    ¬∀ m : Mutation, m.ReportsCascade →
      m.ShowsCascade (fun _ => "") GraphRag.defaultSettings :=
  fun all => reporting_published.not_showsCascade _ _ (all _ (reporting_reportsCascade _))

end Mutation
end OpenOntology.Bridge
