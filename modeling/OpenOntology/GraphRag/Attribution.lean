import OpenOntology.GraphRag.Assessment
import OpenOntology.GraphRag.Invariants
import OpenOntology.GraphRag.Payload

/-!
# Where the kernel puts the fault

A cascade is reported exactly when an upstream node is faulted; its origin is the furthest
such node, and its path the segment of the chain from there down to the asset.
-/
namespace OpenOntology.GraphRag
open Library

/-! ## The furthest node -/

/-- The last element that meets a test splits a list without duplicates. -/
theorem furthest_split {nodes : List String} {faulted : String → Bool} {origin : String}
    (last : (nodes.filter faulted).getLast? = some origin) :
    ∃ before after, nodes = before ++ origin :: after ∧ faulted origin = true ∧
      ∀ node ∈ after, faulted node = false := by
  induction nodes with
  | nil => cases last
  | cons node rest ih =>
    rw [List.filter_cons] at last
    by_cases none : rest.filter faulted = []
    · have calm : ∀ other ∈ rest, faulted other = false := by
        simpa [List.filter_eq_nil_iff] using none
      rw [none] at last
      split at last
      next holds =>
        obtain rfl : node = origin := by simpa using last
        exact ⟨[], rest, rfl, holds, calm⟩
      next => cases last
    · have later : (rest.filter faulted).getLast? = some origin := by
        split at last
        next =>
          obtain ⟨head, tail, shape⟩ := List.exists_cons_of_ne_nil none
          rw [shape] at last ⊢
          rwa [List.getLast?_cons_cons] at last
        next => exact last
      obtain ⟨before, after, shape, holds, calm⟩ := ih later
      exact ⟨node :: before, after, by rw [shape, List.cons_append], holds, calm⟩

theorem take_idxOf {nodes before after : List String} {origin : String}
    (shape : nodes = before ++ origin :: after) (distinct : nodes.Nodup) :
    nodes.take (nodes.idxOf origin + 1) = before ++ [origin] := by
  subst shape
  have fresh : origin ∉ before := fun member =>
    (List.nodup_append.mp distinct).2.2 origin member origin List.mem_cons_self rfl
  rw [List.idxOf_append_of_notMem fresh, List.idxOf_cons_self, Nat.add_zero, List.take_append]
  simp

/-! ## Bands -/

theorem worst_attained (items : List Exceedance) (worst : Band) :
    items.foldl (fun worst item => if item.band.rank > worst.rank then item.band else worst) worst =
        worst ∨
      ∃ item ∈ items, item.band =
        items.foldl (fun worst item => if item.band.rank > worst.rank then item.band else worst)
          worst := by
  induction items generalizing worst with
  | nil => exact Or.inl rfl
  | cons item rest ih =>
    rw [List.foldl_cons]
    rcases ih (if item.band.rank > worst.rank then item.band else worst) with same | ⟨found, inside, held⟩
    · by_cases worse : item.band.rank > worst.rank
      · rw [if_pos worse] at same ⊢
        exact Or.inr ⟨item, List.mem_cons_self, same.symm⟩
      · rw [if_neg worse] at same ⊢
        exact Or.inl same
    · exact Or.inr ⟨found, List.mem_cons_of_mem _ inside, held⟩

theorem band_hard {b : Band} (high : b.rank ≥ Band.hard.rank) : b = .hard := by
  cases b <;> first | rfl | exact absurd high (by decide)

/-- The worst band is the hard one only where some channel is in it. -/
theorem exists_hard {items : List Exceedance} (high : (worstBand items).rank ≥ Band.hard.rank) :
    ∃ item ∈ items, item.band = .hard := by
  have hard := band_hard high
  rcases worst_attained items .nominal with same | ⟨item, inside, held⟩
  · rw [show worstBand items = .nominal from same] at hard
    cases hard
  · exact ⟨item, inside, held.trans hard⟩

/-! ## The attribution -/

def EnrichedGraphPayload.faulted (p : EnrichedGraphPayload) (node : String) : Bool :=
  nodeIsFaulted p.ontologyContext p.telemetrySnapshot node

/-- Where an analysis puts the fault of a payload. -/
structure TopologyAnalysis.Attribution (analysis : TopologyAnalysis)
    (payload : EnrichedGraphPayload) : Prop where
  cascade : analysis.classification = .inheritedCascade ↔
    ∃ node ∈ payload.ontologyContext.upstreamDependencies, payload.faulted node = true
  origin : analysis.classification = .inheritedCascade → ∃ before after,
    payload.ontologyContext.upstreamDependencies = before ++ analysis.rootCauseNode :: after ∧
      payload.faulted analysis.rootCauseNode = true ∧
      (∀ node ∈ after, payload.faulted node = false) ∧
      analysis.cascadePath =
        (before ++ [analysis.rootCauseNode]).reverse ++ [payload.assetMetadata.uuid]
  distinct : analysis.cascadePath.Nodup
  own : analysis.classification ≠ .inheritedCascade →
    analysis.rootCauseNode = payload.assetMetadata.uuid ∧ analysis.cascadePath = []
  named : ∀ node ∈ analysis.rootCauseNode ::
      (analysis.cascadePath ++ analysis.faultedUpstream ++ analysis.blastRadius),
    node ∈ payload.knownNodes
  shutdown : analysis.recommendedAction = .emergencyShutdown →
    analysis.irreversiblePermitted = true ∧
      ∃ item ∈ evaluateChannels payload.telemetrySnapshot.localChannels payload.assetMetadata.uuid,
        item.physical = true ∧ item.band = .hard

variable {formatG : Float → String} {settings : InterceptorSettings} {payload : EnrichedGraphPayload}
  {analysis : TopologyAnalysis}

/-- The two shapes an analysis can take, and what each of them names. -/
theorem analyse_cases (analysed : analyseTopology formatG settings payload = .ok analysis) :
    (∃ origin, (payload.ontologyContext.upstreamDependencies.filter payload.faulted).getLast? =
        some origin ∧ analysis.classification = .inheritedCascade ∧
        analysis.rootCauseNode = origin ∧
        analysis.cascadePath = (payload.ontologyContext.upstreamDependencies.take
          (payload.ontologyContext.upstreamDependencies.idxOf origin + 1)).reverse ++
            [payload.assetMetadata.uuid]) ∨
      (payload.ontologyContext.upstreamDependencies.filter payload.faulted = [] ∧
        analysis.classification ≠ .inheritedCascade ∧
        analysis.rootCauseNode = payload.assetMetadata.uuid ∧ analysis.cascadePath = []) := by
  unfold analyseTopology at analysed
  obtain ⟨crdt, -, rest⟩ := bind_ok analysed
  cases rest
  dsimp only
  unfold EnrichedGraphPayload.faulted
  split
  next origin last => exact Or.inl ⟨origin, last, rfl, rfl, rfl⟩
  next none =>
    refine Or.inr ⟨List.getLast?_eq_none_iff.mp none, ?_, ?_, ?_⟩
    all_goals split <;> try split
    all_goals first | rfl | nofun

theorem analyse_lists (analysed : analyseTopology formatG settings payload = .ok analysis) :
    analysis.faultedUpstream = payload.ontologyContext.upstreamDependencies.filter payload.faulted ∧
      analysis.blastRadius = payload.ontologyContext.downstreamImpacts := by
  unfold analyseTopology at analysed
  obtain ⟨crdt, -, rest⟩ := bind_ok analysed
  cases rest
  exact ⟨rfl, rfl⟩

theorem chosen_shutdown {a b c : Bool}
    (chosen : (if a then ActionType.degradeThrottle else if b then .emergencyShutdown
      else if c then .isolateValve else .degradeThrottle) = .emergencyShutdown) : b = true := by
  cases b with
  | true => rfl
  | false => cases a <;> cases c <;> cases chosen

/-- An emergency shutdown is recommended for a hard breach only. -/
theorem analyse_shutdown (analysed : analyseTopology formatG settings payload = .ok analysis)
    (shutdown : analysis.recommendedAction = .emergencyShutdown) :
    analysis.irreversiblePermitted = true ∧
      ∃ item ∈ evaluateChannels payload.telemetrySnapshot.localChannels payload.assetMetadata.uuid,
        item.physical = true ∧ item.band = .hard := by
  have cautious := (analyse_cautious formatG analysed).1
  have permitted : analysis.irreversiblePermitted = true := by
    by_contra forbidden
    rw [cautious.recommended (Bool.eq_false_iff.mpr forbidden)] at shutdown
    cases shutdown
  refine ⟨permitted, ?_⟩
  unfold analyseTopology at analysed
  obtain ⟨crdt, -, rest⟩ := bind_ok analysed
  cases rest
  have breach := chosen_shutdown shutdown
  have high := of_decide_eq_true (Bool.and_eq_true_iff.mp breach).1
  obtain ⟨item, inside, hard⟩ := exists_hard high
  obtain ⟨scored, physical⟩ := List.mem_filter.mp inside
  exact ⟨item, scored, physical, hard⟩

theorem mem_knownNodes (payload : EnrichedGraphPayload) (node : String) :
    node ∈ payload.knownNodes ↔ node = payload.assetMetadata.uuid ∨
      node = payload.ontologyContext.parentSystem ∨
      node ∈ payload.ontologyContext.upstreamDependencies ∨
      node ∈ payload.ontologyContext.downstreamImpacts := by
  simp [EnrichedGraphPayload.knownNodes, OntologyContext.neighbourIds]

/-- A cascade: the chain splits at its furthest faulted node. -/
theorem cascade_split (valid : payload.Valid)
    (analysed : analyseTopology formatG settings payload = .ok analysis)
    (cascade : analysis.classification = .inheritedCascade) :
    ∃ before after,
      payload.ontologyContext.upstreamDependencies = before ++ analysis.rootCauseNode :: after ∧
        payload.faulted analysis.rootCauseNode = true ∧
        (∀ node ∈ after, payload.faulted node = false) ∧
        analysis.cascadePath =
          (before ++ [analysis.rootCauseNode]).reverse ++ [payload.assetMetadata.uuid] := by
  rcases analyse_cases analysed with ⟨origin, last, -, rfl, path⟩ | ⟨-, other, -⟩
  · obtain ⟨before, after, shape, holds, calm⟩ := furthest_split last
    refine ⟨before, after, shape, holds, calm, ?_⟩
    rw [path, take_idxOf shape valid.upstream_distinct]
  · exact absurd cascade other

theorem attribution_of_analysed (valid : payload.Valid)
    (analysed : analyseTopology formatG settings payload = .ok analysis) :
    analysis.Attribution payload := by
  obtain ⟨faultedUpstream, blastRadius⟩ := analyse_lists analysed
  have own : analysis.classification ≠ .inheritedCascade →
      analysis.rootCauseNode = payload.assetMetadata.uuid ∧ analysis.cascadePath = [] := by
    intro other
    rcases analyse_cases analysed with ⟨_, -, cascade, -⟩ | ⟨-, -, own⟩
    · exact absurd cascade other
    · exact own
  have inside : ∀ node ∈ analysis.cascadePath,
      node ∈ payload.ontologyContext.upstreamDependencies ∨ node = payload.assetMetadata.uuid := by
    intro node member
    by_cases cascade : analysis.classification = .inheritedCascade
    · obtain ⟨before, after, shape, -, -, path⟩ := cascade_split valid analysed cascade
      rw [path] at member
      rw [shape]
      simp only [List.mem_append, List.mem_reverse, List.mem_cons] at member ⊢
      tauto
    · rw [(own cascade).2] at member
      cases member
  exact {
    cascade := by
      rcases analyse_cases analysed with ⟨origin, last, cascade, -⟩ | ⟨none, other, -⟩
      · obtain ⟨before, after, shape, holds, -⟩ := furthest_split last
        exact iff_of_true cascade ⟨origin, by simp [shape], holds⟩
      · refine iff_of_false other fun ⟨node, member, holds⟩ => ?_
        exact List.not_mem_nil (none ▸ List.mem_filter.mpr ⟨member, holds⟩)
    origin := cascade_split valid analysed
    distinct := by
      by_cases cascade : analysis.classification = .inheritedCascade
      · obtain ⟨before, after, shape, -, -, path⟩ := cascade_split valid analysed cascade
        have chain := valid.upstream_distinct
        have asset := valid.upstream_asset
        rw [shape, List.append_cons] at chain asset
        rw [path, List.nodup_append]
        refine ⟨(List.nodup_reverse).mpr (List.nodup_append.mp chain).1, List.nodup_singleton _, ?_⟩
        intro node member other last same
        rw [List.mem_singleton] at last
        rw [same, last, List.mem_reverse] at member
        exact asset (List.mem_append_left _ member)
      · rw [(own cascade).2]
        exact List.nodup_nil
    own := own
    named := by
      intro node member
      rw [mem_knownNodes]
      simp only [List.mem_cons, List.mem_append, faultedUpstream, blastRadius, List.mem_filter]
        at member
      rcases member with rfl | (path | faulted) | downstream
      · by_cases cascade : analysis.classification = .inheritedCascade
        · obtain ⟨before, after, shape, -⟩ := cascade_split valid analysed cascade
          exact Or.inr (Or.inr (Or.inl (by rw [shape]; simp)))
        · exact Or.inl (own cascade).1
      · rcases inside node path with chain | asset
        · exact Or.inr (Or.inr (Or.inl chain))
        · exact Or.inl asset
      · exact Or.inr (Or.inr (Or.inl faulted.1))
      · exact Or.inr (Or.inr (Or.inr downstream))
    shutdown := analyse_shutdown analysed }

/-- For a validated payload the kernel reaches its attribution exactly when the assessment of
the replication state is one its own model accepts. -/
theorem attributed_iff (formatG : Float → String) (settings : InterceptorSettings)
    (payload : EnrichedGraphPayload) (validated : payload.Validated) :
    (∃ analysis, analyseTopology formatG settings payload = .ok analysis ∧
      analysis.Attribution payload) ↔ payload.Assessable formatG := by
  rw [← analyse_ok_iff formatG settings payload]
  constructor
  · exact fun ⟨analysis, analysed, _⟩ => ⟨analysis, analysed⟩
  · exact fun ⟨analysis, analysed⟩ =>
      ⟨analysis, analysed, attribution_of_analysed validated.valid analysed⟩

/-- A pump below a compressor in alarm, with the collision rate it reports. -/
def fedPump (rate : Float) : InboundPayload where
  eventID := "mutation-1"
  asset := { uuid := "PUMP-221", name := "Boiler feed pump", modelNumber := "BFP-9" }
  context :=
    { parentSystem := "PLANT-1", physicalLocation := "Hall 4", upstreamDependencies := ["COMP-1"],
      assignedOperator := "Unassigned", dependencyHealth := [("COMP-1", .alarm)] }
  telemetry := { vibrationIndex := some 3, crdtCollisionRate := some rate }

theorem fedPump_validated : (fedPump 0.25).validated.Validated ∧ (fedPump (-0.5)).validated.Validated :=
  ⟨⟨_, InboundPayload.modelValidate_eq_some.mpr ⟨by decide +kernel, rfl⟩⟩,
    ⟨_, InboundPayload.modelValidate_eq_some.mpr ⟨by decide +kernel, rfl⟩⟩⟩

theorem attributed_iff_fed :
    ∃ analysis, analyseTopology (fun _ => "0.25") defaultSettings (fedPump 0.25).validated =
      .ok analysis ∧ analysis.Attribution (fedPump 0.25).validated :=
  (attributed_iff _ _ _ fedPump_validated.1).mpr ⟨by decide +kernel, Or.inl (by decide +kernel)⟩

/-- A negative collision rate passes the inbound contract, and no analysis is made. -/
theorem not_attributed_negative :
    ¬∀ payload : EnrichedGraphPayload, payload.Validated → ∃ analysis,
      analyseTopology (fun _ => "-0.5") defaultSettings payload = .ok analysis ∧
        analysis.Attribution payload := by
  intro all
  obtain ⟨analysis, analysed, -⟩ := all _ fedPump_validated.2
  have assessed := (analyse_ok_iff _ _ _).mp ⟨analysis, analysed⟩
  exact assessed.1 (by decide +kernel)

end OpenOntology.GraphRag
