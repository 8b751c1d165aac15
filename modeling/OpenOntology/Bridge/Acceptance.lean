import OpenOntology.Bridge.Language
import OpenOntology.Bridge.Projection

/-!
# Which mutations are projected

The engine's identifiers and the interceptor's node ids differ in their lengths, and the
inbound contract has maxima the engine knows nothing of. Together they decide which of the
engine's mutations the bridge can hand on.
-/
namespace OpenOntology.Bridge

open Library
open GraphRag (EnrichedGraphPayload bounded canonicalIdentifier isNodeChar isNodeID)
open Resolution (identifierPattern)

/-! ## The engine's identifiers -/

theorem isNodeChar_of_part {c : Char} (part : identifierPart c = true) : isNodeChar c = true := by
  unfold identifierPart at part
  unfold isNodeChar
  simp only [Bool.or_eq_true, beq_iff_eq] at part
  rcases part with ((alphanumeric | rfl) | rfl) | rfl
  · rw [alphanumeric, Bool.true_or]
  all_goals decide

theorem nodeChars_of_pattern {s : String} (matched : identifierPattern s = true) :
    ∀ c ∈ s.toList, isNodeChar c = true :=
  fun c member => isNodeChar_of_part (identifierPart_of_pattern matched c member)

/-- Of the engine's identifiers only those of a single character are no node ids. -/
theorem isNodeID_of_pattern {s : String} (matched : identifierPattern s = true) :
    isNodeID s = true ↔ 2 ≤ s.length := by
  obtain ⟨first, rest, spelled, start, short, -⟩ := identifierPattern_iff.mp matched
  have length : s.length = rest.length + 1 := by
    rw [← String.length_toList, spelled, List.length_cons]
  rw [GraphRag.isNodeID_iff]
  constructor
  · exact fun node => node.1.1
  · exact fun long => ⟨⟨long, by omega⟩, ⟨first, rest, spelled, start⟩,
      nodeChars_of_pattern matched⟩

theorem validNode_of_pattern {s node : String} (matched : identifierPattern s = true) :
    validNode s = some node ↔ 2 ≤ s.length ∧ s = node := by
  rw [validNode_eq_some, (strip_of_chars (nodeChars_of_pattern matched)).2.1]
  constructor
  · intro ⟨valid, same⟩
    exact ⟨(isNodeID_of_pattern matched).mp (same ▸ valid), same⟩
  · intro ⟨long, same⟩
    exact ⟨same ▸ (isNodeID_of_pattern matched).mpr long, same⟩

namespace Mutation

/-- What the engine promises of the mutations it publishes. -/
structure Published (m : Mutation) : Prop where
  event : ∃ token : List Char, m.eventID = "evt_" ++ String.ofList token ∧ token.length ≤ 24 ∧
    ∀ c ∈ token, c.isAlphanum = true
  asset : identifierPattern m.assetID = true
  sensor : ∀ reading ∈ m.readings ++ [m.trigger],
    identifierPattern reading.sensorID = true ∧ reading.value.isFinite = true
  neighbour : ∀ ref ∈ m.ontologyContext.upstreamDependencies ++ m.ontologyContext.downstreamImpacts,
    identifierPattern ref.assetID = true

/-- The neighbours of at least two characters. -/
def neighbours (m : Mutation) (refs : List FlowRef) : Finset String :=
  (refs.map FlowRef.assetID).toFinset.filter fun id => 2 ≤ id.length ∧ id ≠ m.assetID

/-- The mutation stays within what the inbound contract asks for. -/
structure Fits (m : Mutation) : Prop where
  asset : 2 ≤ m.assetID.length
  name : bounded 1 256 (firstSet [m.ontologyContext.assetName, m.assetID]) = true
  modelNumber : bounded 1 128
    (firstSet [m.ontologyContext.modelNumber, m.ontologyContext.assetClass, m.assetID]) = true
  parent : (∃ nearest, minBy SystemNode.depth m.ontologyContext.parentSystems = some nearest ∧
      isNodeID (Python.strip nearest.nodeID) = true) ∨
    isNodeID (Python.strip m.ontologyContext.site) = true ∨ m.assetID.length ≤ 119
  location : bounded 1 256 (firstSet [m.ontologyContext.site, "UNKNOWN-SITE"]) = true
  upstream : (m.neighbours m.ontologyContext.upstreamDependencies \
    m.neighbours m.ontologyContext.downstreamImpacts).card ≤ 64
  downstream : (m.neighbours m.ontologyContext.downstreamImpacts).card ≤ 128
  operator : bounded 1 128 (primaryOperator m.ontologyContext) = true
  observed : (observations m.ontologyContext).length ≤ 64 ∧
    ∀ o ∈ observations m.ontologyContext, o.accepted = true
  criticality : bounded 0 64 (firstSet [m.ontologyContext.criticality, "UNKNOWN"]) = true
  window : m.ontologyContext.maintenanceWindow.all (bounded 0 128) = true
  origin : m.originReplica.all (bounded 0 128) = true
  clock : 0 ≤ m.lamportClock
  revision : m.graphRevision.all (bounded 0 128) = true
  own : ∀ ref ∈ m.ontologyContext.upstreamDependencies ++ m.ontologyContext.downstreamImpacts,
    ref.assetID = canonicalIdentifier m.assetID → ref.assetID = m.assetID

variable {m : Mutation}

/-! ## What the engine's promise settles -/

theorem Published.asset_eq (published : m.Published) : m.asset = m.assetID :=
  (strip_of_chars (nodeChars_of_pattern published.asset)).2.1

theorem Published.event_bounded (published : m.Published) : bounded 1 128 m.eventID = true := by
  obtain ⟨token, spelled, short, digits⟩ := published.event
  have chars : ∀ c ∈ m.eventID.toList, isNodeChar c = true := by
    intro c member
    rw [spelled, String.toList_append, String.toList_ofList, List.mem_append] at member
    rcases member with scheme | minted
    · have all : "evt_".toList.all isNodeChar = true := by decide +kernel
      exact List.all_eq_true.mp all c scheme
    · rw [String.toList_ofList] at minted
      rw [isNodeChar, digits c minted, Bool.true_or]
  have length : m.eventID.length = 4 + token.length := by
    have scheme : "evt_".length = 4 := by decide
    have minted : (String.ofList token).length = token.length := String.length_ofList
    rw [spelled, String.length_append, scheme, minted]
  rw [bounded, (strip_of_chars chars).1, GraphRag.lengthWithin]
  simp only [Bool.and_eq_true, decide_eq_true_eq]
  omega

theorem mem_assign {α : Type} {entries : List (String × α)} {key : String} {value : α}
    {found : String × α} (member : found ∈ GraphRag.assign entries key value) :
    found ∈ entries ∨ found = (key, value) := by
  unfold GraphRag.assign at member
  split at member
  next =>
    obtain ⟨held, inside, same⟩ := List.mem_map.mp member
    split at same
    next => exact Or.inr same.symm
    next => exact Or.inl (same ▸ inside)
  next => simpa using member

/-- What a loop leaves was there before it or was added in one of its turns. -/
theorem mem_foldl {α β : Type} {turn : List α → β → List α} {found : α} {adds : β → Prop}
    (each : ∀ held item, found ∈ turn held item → found ∈ held ∨ adds item) (items : List β)
    (held : List α) (left : found ∈ items.foldl turn held) :
    found ∈ held ∨ ∃ item ∈ items, adds item := by
  induction items generalizing held with
  | nil => exact Or.inl left
  | cons item rest ih =>
    rcases ih _ left with turned | ⟨later, inside, added⟩
    · rcases each held item turned with before | now
      · exact Or.inl before
      · exact Or.inr ⟨item, List.mem_cons_self, now⟩
    · exact Or.inr ⟨later, List.mem_cons_of_mem _ inside, added⟩

/-- Every channel is a reading of the mutation. -/
theorem mem_channels {found : String × Float} (member : found ∈ m.channels) :
    ∃ reading ∈ m.readings ++ [m.trigger], found = (reading.sensorID, reading.value) := by
  refine (mem_foldl ?_ _ _ member).resolve_left List.not_mem_nil
  intro held reading turned
  split at turned
  next => exact Or.inl turned
  next => exact mem_assign turned

theorem mem_telemetry {found : String × Float} (member : found ∈ m.telemetry.validated.channels) :
    found.1 ∈ declaredChannels ∨
      ∃ entry ∈ m.channels, found.1 = Python.strip entry.1 := by
  rcases mem_foldl (fun held entry turned => mem_assign turned) _ _ member with
    declared | ⟨entry, extra, rfl⟩
  · left
    simp only [GraphRag.InboundTelemetry.declared, List.mem_append, Option.mem_toList,
      Option.map_eq_some_iff] at declared
    rcases declared with (⟨_, -, rfl⟩ | ⟨_, -, rfl⟩) | ⟨_, -, rfl⟩
    all_goals simp [declaredChannels]
  · exact Or.inr ⟨entry, (List.mem_filter.mp extra).1, rfl⟩

theorem channels_ne_nil (named : m.trigger.sensorID ≠ "") : m.channels ≠ [] := by
  unfold channels
  rw [List.foldl_append, List.foldl_cons, List.foldl_nil, if_neg named]
  exact assign_ne_nil _ _ _

theorem not_colon_of_part {c : Char} (part : identifierPart c = true) : c ≠ ':' := by
  rintro rfl
  exact absurd part (by decide)

/-- The engine's sensors attribute no channel to a neighbour. -/
theorem Published.attributed (published : m.Published) :
    m.telemetry.validated.attributedNodes = [] := by
  unfold GraphRag.TelemetrySnapshot.attributedNodes
  rw [List.filterMap_eq_nil_iff]
  intro found member
  have plain : ':' ∉ found.1.toList := by
    rcases mem_telemetry member with declared | ⟨entry, inside, named⟩
    · simp only [declaredChannels, List.mem_cons, List.not_mem_nil, or_false] at declared
      rcases declared with name | name | name
      all_goals
        rw [name]
        decide +kernel
    · obtain ⟨reading, read, rfl⟩ := mem_channels inside
      intro colon
      rw [named, Python.strip, String.toList_ofList] at colon
      have letter := trimBoth_subset Python.isSpace _ colon
      exact not_colon_of_part (identifierPart_of_pattern (published.sensor reading read).1 _ letter)
        rfl
  have unsplit : Python.partition GraphRag.channelSeparator found.1 = none :=
    Python.partition_eq_none rfl plain
  rw [unsplit]

theorem Published.mem_neighbours (published : m.Published) {refs : List FlowRef} {node : String}
    (among : ∀ ref ∈ refs, identifierPattern ref.assetID = true) :
    node ∈ flowIDs refs m.asset ↔ node ∈ m.neighbours refs := by
  rw [mem_flowIDs, published.asset_eq]
  simp only [neighbours, Finset.mem_filter, List.mem_toFinset, List.mem_map]
  constructor
  · intro ⟨other, ref, member, mapped⟩
    obtain ⟨long, rfl⟩ := (validNode_of_pattern (among ref member)).mp mapped
    exact ⟨⟨ref, member, rfl⟩, long, other⟩
  · intro ⟨⟨ref, member, same⟩, long, other⟩
    exact ⟨other, ref, member, (validNode_of_pattern (among ref member)).mpr ⟨same ▸ long, same⟩⟩

theorem Published.downstream_length (published : m.Published) :
    m.downstream.length = (m.neighbours m.ontologyContext.downstreamImpacts).card := by
  have same : m.downstream.toFinset = m.neighbours m.ontologyContext.downstreamImpacts := by
    ext node
    rw [List.mem_toFinset]
    exact published.mem_neighbours fun ref member =>
      published.neighbour ref (List.mem_append_right _ member)
  have distinct : m.downstream.Nodup := flowIDs_nodup _ _
  rw [← same, List.toFinset_card_of_nodup distinct]

theorem Published.upstream_length (published : m.Published) :
    m.upstream.length = (m.neighbours m.ontologyContext.upstreamDependencies \
      m.neighbours m.ontologyContext.downstreamImpacts).card := by
  have above := fun node => @Published.mem_neighbours _ published _ node fun ref member =>
    published.neighbour ref (List.mem_append_left _ member)
  have below := fun node => @Published.mem_neighbours _ published _ node fun ref member =>
    published.neighbour ref (List.mem_append_right _ member)
  have same : m.upstream.toFinset = m.neighbours m.ontologyContext.upstreamDependencies \
      m.neighbours m.ontologyContext.downstreamImpacts := by
    ext node
    rw [List.mem_toFinset, Finset.mem_sdiff, ← above, ← below]
    simp [upstream, downstream]
  rw [← same, List.toFinset_card_of_nodup m.upstream_nodup]

theorem scoped_node (assetID : String) (matched : identifierPattern assetID = true) :
    isNodeID ("UNSCOPED:" ++ assetID) = true ↔ assetID.length ≤ 119 := by
  have scope : "UNSCOPED:".toList.all isNodeChar = true := by decide +kernel
  have spelled : "UNSCOPED:".toList = 'U' :: "NSCOPED:".toList := by decide +kernel
  have prefixed : "UNSCOPED:".length = 9 := by decide
  have length : ("UNSCOPED:" ++ assetID).length = 9 + assetID.length := by
    rw [String.length_append, prefixed]
  rw [GraphRag.isNodeID_iff, length]
  constructor
  · intro ⟨bounds, _⟩
    omega
  · intro short
    refine ⟨by omega, ⟨'U', "NSCOPED:".toList ++ assetID.toList, ?_, by decide⟩, ?_⟩
    · rw [String.toList_append, spelled, List.cons_append]
    · intro c member
      rw [String.toList_append, List.mem_append] at member
      rcases member with front | own
      · exact List.all_eq_true.mp scope c front
      · exact nodeChars_of_pattern matched c own

/-- The parent is a node id unless the asset has to stand in with its own long id. -/
theorem parent_iff (context : OntologyContext) {assetID : String}
    (matched : identifierPattern assetID = true) :
    isNodeID (nearestParentSystem context assetID) = true ↔
      (∃ nearest, minBy SystemNode.depth context.parentSystems = some nearest ∧
        isNodeID (Python.strip nearest.nodeID) = true) ∨
      isNodeID (Python.strip context.site) = true ∨ assetID.length ≤ 119 := by
  have mapped : ∀ value, isNodeID (Python.strip value) = true ↔ validNode value ≠ none := by
    intro value
    rw [Option.ne_none_iff_exists']
    simp only [validNode_eq_some, exists_eq_right']
  simp only [mapped]
  unfold nearestParentSystem
  split
  next node found =>
    obtain ⟨nearest, least, valid⟩ := Option.bind_eq_some_iff.mp found
    refine iff_of_true (validNode_eq_some.mp valid).1 (Or.inl ⟨nearest, least, ?_⟩)
    rw [valid]
    exact Option.some_ne_none node
  next absent =>
    have orphan : ¬∃ nearest, minBy SystemNode.depth context.parentSystems = some nearest ∧
        validNode nearest.nodeID ≠ none :=
      fun ⟨nearest, least, valid⟩ => valid (Option.bind_eq_none_iff.mp absent nearest least)
    rw [or_iff_right orphan]
    cases site : validNode context.site with
    | some node => simpa using (validNode_eq_some.mp site).1
    | none => simpa using scoped_node assetID matched

/-- The asset's canonical form is no neighbour unless it is spelled otherwise there. -/
theorem Published.own_iff (published : m.Published) (node : isNodeID m.assetID = true) :
    canonicalIdentifier m.assetID ∉ m.upstream ++ m.downstream ↔
      ∀ ref ∈ m.ontologyContext.upstreamDependencies ++ m.ontologyContext.downstreamImpacts,
        ref.assetID = canonicalIdentifier m.assetID → ref.assetID = m.assetID := by
  have canonical : isNodeID (canonicalIdentifier m.assetID) = true := by
    refine GraphRag.canonicalIdentifier_isNodeID (Or.inr ?_)
    rwa [GraphRag.nodeOf_eq_self node]
  have listed : ∀ ref ∈ m.ontologyContext.upstreamDependencies ++ m.ontologyContext.downstreamImpacts,
      ref.assetID = canonicalIdentifier m.assetID →
        validNode ref.assetID = some (canonicalIdentifier m.assetID) := by
    intro ref member same
    refine (validNode_of_pattern (published.neighbour ref member)).mpr ⟨?_, same⟩
    rw [same]
    exact (GraphRag.isNodeID_iff.mp canonical).1.1
  rw [List.mem_append, mem_upstream, mem_downstream, published.asset_eq]
  constructor
  · intro absent ref member same
    by_contra other
    rw [same] at other
    have mapped := listed ref member same
    rcases List.mem_append.mp member with above | below
    · exact absent (Or.inl ⟨fun down => absent (Or.inr down), other, ref, above, mapped⟩)
    · exact absent (Or.inr ⟨other, ref, below, mapped⟩)
  · intro apart either
    rcases either with ⟨_, other, ref, above, mapped⟩ | ⟨other, ref, below, mapped⟩
    · have member := List.mem_append_left m.ontologyContext.downstreamImpacts above
      have same := ((validNode_of_pattern (published.neighbour ref member)).mp mapped).2
      exact other (same ▸ apart ref member same)
    · have member := List.mem_append_right m.ontologyContext.upstreamDependencies below
      have same := ((validNode_of_pattern (published.neighbour ref member)).mp mapped).2
      exact other (same ▸ apart ref member same)

/-- A mutation of the engine is projected exactly when it fits. -/
theorem projects_iff_fits (m : Mutation) (published : m.Published) :
    (mutationToGraphPayload m).isSome = true ↔ m.Fits := by
  have accepted : (mutationToGraphPayload m).isSome = true ↔ m.Projectable := by
    rw [Option.isSome_iff_exists]
    simp only [projected_iff, exists_and_left, exists_eq', and_true]
  have asset := published.asset_eq
  rw [accepted]
  constructor
  · intro ⟨_, node, name, modelNumber, parent, location, upstream, downstream, operator, observed,
      criticality, window, _, _, origin, clock, revision, own, _⟩
    rw [asset] at node name modelNumber parent own
    exact ⟨(isNodeID_of_pattern published.asset).mp node, name, modelNumber,
      (parent_iff _ published.asset).mp parent, location, published.upstream_length ▸ upstream,
      published.downstream_length ▸ downstream, operator, observed, criticality, window, origin,
      clock, revision, (published.own_iff node).mp own⟩
  · intro fits
    have node := (isNodeID_of_pattern published.asset).mpr fits.asset
    have trigger : m.trigger.sensorID ≠ "" := by
      intro empty
      have matched := (published.sensor m.trigger (by simp)).1
      rw [empty] at matched
      exact absurd matched (by decide)
    exact {
      event := published.event_bounded
      asset := asset ▸ node
      name := asset ▸ fits.name
      modelNumber := asset ▸ fits.modelNumber
      parent := asset ▸ (parent_iff _ published.asset).mpr fits.parent
      location := fits.location
      upstream := published.upstream_length ▸ fits.upstream
      downstream := published.downstream_length ▸ fits.downstream
      operator := fits.operator
      observed := fits.observed
      criticality := fits.criticality
      window := fits.window
      measured := channels_ne_nil trigger
      finite := by
        intro entry member _
        obtain ⟨reading, read, rfl⟩ := mem_channels member
        exact (published.sensor reading read).2
      origin := fits.origin
      clock := fits.clock
      revision := fits.revision
      own := asset ▸ (published.own_iff node).mpr fits.own
      attributed := by
        rw [published.attributed]
        simp }

/-- An asset of the given name without ancestry or site, which a compressor feeds. -/
def lonely (assetID : String) : Mutation where
  eventID := "evt_1f"
  assetID := assetID
  severity := "HIGH"
  trigger := ⟨"vibration_index", 9⟩
  ontologyContext := { upstreamDependencies := [⟨"COMP-1", "OPERATIONAL"⟩] }

def longName : String := String.ofList (List.replicate 120 'P')

theorem longName_identifier : identifierPattern longName = true := by
  refine identifierPattern_iff.mpr ⟨'P', List.replicate 119 'P', String.toList_ofList, by decide,
    by simp, ?_⟩
  intro c member
  rw [(List.mem_replicate.mp member).2]
  decide

theorem lonely_published {assetID : String} (matched : identifierPattern assetID = true) :
    (lonely assetID).Published where
  event := by
    have minted : "evt_1f" = "evt_" ++ String.ofList ['1', 'f'] := by decide +kernel
    exact ⟨['1', 'f'], minted, by simp, by simp⟩
  asset := matched
  sensor := by
    intro reading member
    obtain rfl : reading = ⟨"vibration_index", 9⟩ := by simpa [lonely] using member
    exact ⟨by decide +kernel, by decide +kernel⟩
  neighbour := by
    intro ref member
    obtain rfl : ref = ⟨"COMP-1", "OPERATIONAL"⟩ := by simpa [lonely] using member
    decide +kernel

theorem projects_iff_fits_pump : (lonely "PUMP-221").Fits :=
  (projects_iff_fits _ (lonely_published (by decide +kernel))).mp (by decide +kernel)

/-- The parent that stands in for the missing ancestry is the asset's own id with a scope. -/
theorem lonely_short {assetID : String} (matched : identifierPattern assetID = true)
    (projected : (mutationToGraphPayload (lonely assetID)).isSome = true) :
    assetID.length ≤ 119 := by
  obtain ⟨payload, projected⟩ := Option.isSome_iff_exists.mp projected
  have parent := ((projected_iff _).mp projected).1.parent
  rw [(lonely_published matched).asset_eq] at parent
  exact (scoped_node assetID matched).mp parent

/-- An asset of 120 characters without ancestry and site costs the alarm its plan. -/
theorem not_projected_lonely :
    ¬∀ m : Mutation, m.Published → (mutationToGraphPayload m).isSome = true := by
  intro all
  have short := lonely_short longName_identifier (all _ (lonely_published longName_identifier))
  have length : longName.length = 120 := String.length_ofList.trans List.length_replicate
  omega

end Mutation
end OpenOntology.Bridge
