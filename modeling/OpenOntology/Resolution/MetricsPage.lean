import OpenOntology.Crdt.Cascade
import OpenOntology.Crdt.Stability
import OpenOntology.Resolution.Exposition

/-!
# What `/metrics` serves

The page is written by four parts of the engine one after another: its own counters, the
graph provider, the idempotency filter and the topology replica. No part knows the families
of the others.
-/
namespace OpenOntology.Resolution

open Crdt Replica

/-- `round`, to a number of decimal places. -/
def round (v : Float) (places : Nat) : Float :=
  if v.isNaN || v.isInf then 0
  else
    let factor := Float.ofNat (10 ^ places)
    (v * factor).round / factor

def gauge (name help : String) (value : Float) : MetricSample := { name, help, type := "gauge", value }

def counter (name help : String) (value : Nat) : MetricSample :=
  { name, help, type := "counter", value := Float.ofNat value }

def TransitionKind.text : TransitionKind → String
  | .raised => "RAISED"
  | .escalated => "ESCALATED"
  | .sustained => "SUSTAINED"
  | .cleared => "CLEARED"

def Severity.text : Severity → String
  | .info => "INFO"
  | .high => "HIGH"
  | .critical => "CRITICAL"

namespace Metrics

def transitionSample (m : Metrics) (kind : TransitionKind) (severity : Severity) : MetricSample where
  name := "openontology_mutation_transitions_total"
  help := "Enriched context payloads published, by state-machine transition and severity."
  type := "counter"
  value := Float.ofNat (m.count kind severity)
  labels := (∅ : Std.ExtTreeMap String String).insert "transition" kind.text
    |>.insert "severity" severity.text

/-- `samples`; the uptime is read off the clock. -/
def samples (m : Metrics) (uptime : Float) (tracked anomalous graphLookups graphHits graphErrs : Nat) :
    List MetricSample :=
  [gauge "openontology_uptime_seconds" "Process uptime in seconds." uptime,
    counter "openontology_events_consumed_total" "Telemetry events read from the source topic."
      m.eventsConsumed,
    counter "openontology_events_rejected_total"
      "Telemetry events rejected as malformed or invalid." m.eventsRejected,
    counter "openontology_events_duplicate_total"
      "Telemetry events discarded by the distributed idempotency filter." m.eventsDuplicate,
    counter "openontology_events_stale_total" "Telemetry events discarded as out-of-order."
      m.eventsStale,
    counter "openontology_cache_writes_total" "Live-state writes applied to Redis." m.cacheWrites,
    counter "openontology_rules_evaluated_total" "Readings evaluated against an anomaly rule."
      m.rulesEvaluated,
    counter "openontology_anomalies_total" "Readings that breached a threshold." m.anomalies,
    counter "openontology_mutations_emitted_total" "Enriched context payloads published."
      m.mutationsEmitted,
    counter "openontology_mutations_failed_total"
      "Enriched context payloads that failed to publish." m.mutationsFailed,
    counter "openontology_dlq_messages_total" "Messages routed to the dead-letter topic."
      m.dlqMessages,
    counter "openontology_graph_degraded_total" "Mutations emitted without full graph context."
      m.graphDegraded,
    counter "openontology_process_errors_total" "Processing errors encountered by workers."
      m.processErrors,
    counter "openontology_state_pruned_total" "Idle twin channels evicted from the state tracker."
      m.statePruned,
    counter "openontology_graph_lookups_total" "Graph context resolutions attempted." graphLookups,
    counter "openontology_graph_cache_hits_total" "Graph context resolutions served from cache."
      graphHits,
    counter "openontology_graph_errors_total" "Graph context resolutions that failed." graphErrs,
    gauge "openontology_tracked_channels" "Twin channels currently held in the state tracker."
      (Float.ofNat tracked),
    gauge "openontology_anomalous_channels" "Twin channels currently in the ANOMALOUS state."
      (Float.ofNat anomalous)] ++
    transitionKinds.flatMap fun kind => severityKinds.map fun severity =>
      m.transitionSample kind severity

end Metrics

inductive GraphProvider where
  | mock
  | neo4j
  deriving DecidableEq, Repr

def GraphProvider.text : GraphProvider → String
  | .mock => "mock"
  | .neo4j => "neo4j"

/-- `graphProviderMetric`; the names of the providers are quoted as they stand. -/
def graphProviderMetric (provider : GraphProvider) : String :=
  "# HELP openontology_graph_provider_info The graph tier currently backing ontology resolution.\n" ++
    "# TYPE openontology_graph_provider_info gauge\n" ++
    "openontology_graph_provider_info\x7bprovider=\"" ++ provider.text ++ "\"\x7d 1\n"

structure IdempotencyStats where
  enabled : Bool
  ttlSeconds : Float
  checked : Nat
  admitted : Nat
  duplicates : Nat
  released : Nat
  failedOpen : Nat
  errors : Nat
  duplicateRatio : Float

/-- The counters of an `IdempotencyEngine`. -/
structure IdempotencyCounters where
  checked : Nat := 0
  admitted : Nat := 0
  duplicates : Nat := 0
  released : Nat := 0
  failedOpen : Nat := 0
  errs : Nat := 0

/-- `Stats`; `seconds` is `Duration.Seconds`. -/
def IdempotencyConfig.stats (c : IdempotencyConfig) (seconds : Duration → Float)
    (n : IdempotencyCounters) : IdempotencyStats where
  enabled := c.enabled
  ttlSeconds := seconds c.ttl
  checked := n.checked
  admitted := n.admitted
  duplicates := n.duplicates
  released := n.released
  failedOpen := n.failedOpen
  errors := n.errs
  duplicateRatio :=
    round (if n.checked > 0 then Float.ofNat n.duplicates / Float.ofNat n.checked else 0) 6

def IdempotencyStats.samples (s : IdempotencyStats) : List MetricSample :=
  [gauge "openontology_idempotency_enabled"
      "1 when the distributed idempotency filter is active." (if s.enabled then 1 else 0),
    gauge "openontology_idempotency_window_seconds" "Deduplication window applied to every claim."
      s.ttlSeconds,
    counter "openontology_idempotency_checked_total" "Events submitted to the idempotency filter."
      s.checked,
    counter "openontology_idempotency_admitted_total"
      "Events admitted for processing by the filter." s.admitted,
    counter "openontology_idempotency_duplicates_total"
      "Events discarded as duplicates within the window." s.duplicates,
    counter "openontology_idempotency_released_total"
      "Provisional claims rolled back after a processing failure." s.released,
    counter "openontology_idempotency_failed_open_total"
      "Events admitted because the filter could not reach Redis." s.failedOpen,
    counter "openontology_idempotency_errors_total" "Idempotency filter errors." s.errors,
    gauge "openontology_idempotency_duplicate_ratio"
      "Duplicates as a fraction of events checked." s.duplicateRatio]

structure ReplicaMetrics where
  contextsObserved : Nat := 0
  verticesWritten : Nat := 0
  edgesWritten : Nat := 0
  writesSkipped : Nat := 0
  syncAttempts : Nat := 0
  syncFailures : Nat := 0
  mergesApplied : Nat := 0
  mergesReceived : Nat := 0
  budgetExceeded : Nat := 0

/-- What `TopologyReplica.Prometheus` renders. -/
def replicaSamples (r : TopologyReplica) (m : ReplicaMetrics) : List MetricSample :=
  if r.enabled = false then
    [gauge "openontology_replica_enabled" "1 when CRDT topology replication is active." 0]
  else
    [gauge "openontology_replica_enabled" "1 when CRDT topology replication is active." 1,
      gauge "openontology_replica_lamport_clock" "Current Lamport clock of the local replica."
        (Float.ofInt r.clock),
      gauge "openontology_replica_live_vertices"
        "Vertices currently live in the replicated topology."
        (Float.ofNat r.crdt.liveVertices.length),
      gauge "openontology_replica_live_edges" "Edges currently live in the replicated topology."
        (Float.ofNat r.crdt.liveEdges.length),
      gauge "openontology_replica_dangling_edges" "Live edges whose endpoints are not both live."
        (Float.ofNat r.crdt.danglingEdges.length),
      counter "openontology_replica_contexts_observed_total"
        "Ontology contexts folded into the replica." m.contextsObserved,
      counter "openontology_replica_vertex_writes_total"
        "Vertex writes applied because content changed." m.verticesWritten,
      counter "openontology_replica_edge_writes_total"
        "Edge writes applied because the edge was not already live." m.edgesWritten,
      counter "openontology_replica_writes_skipped_total"
        "Writes suppressed because the replica already held the content." m.writesSkipped,
      counter "openontology_replica_sync_attempts_total"
        "Anti-entropy rounds attempted against a peer." m.syncAttempts,
      counter "openontology_replica_sync_failures_total"
        "Anti-entropy rounds that failed to reach or parse a peer." m.syncFailures,
      counter "openontology_replica_merges_applied_total" "Peer snapshots successfully joined."
        m.mergesApplied,
      counter "openontology_replica_merges_received_total" "Peer snapshots offered for joining."
        m.mergesReceived,
      counter "openontology_replica_budget_exceeded_total"
        "Joins that outran the reconcile budget." m.budgetExceeded]

/-! ## The families of each part -/

/-- Name, HELP and TYPE as the text format wants them. -/
def headed (header : String × String × String) : Bool :=
  header.1.toList ≠ [] && header.1.toList.all nameChar && !header.2.1.toList.contains '\n' &&
    !header.2.2.toList.contains '\n'

def MetricSample.header (s : MetricSample) : String × String × String := (s.name, s.help, s.type)

theorem valid_of_headed {s : MetricSample} (ok : headed s.header = true)
    (keyed : Keyed s.labels.toList) : s.Valid := by
  simp only [headed, MetricSample.header, Bool.and_eq_true, List.all_eq_true,
    Bool.not_eq_true', List.contains_eq_mem, decide_eq_false_iff_not] at ok
  obtain ⟨⟨⟨some_name, named⟩, help⟩, type⟩ := ok
  exact ⟨⟨of_decide_eq_true some_name, named⟩, help, type, keyed⟩

/-! ## The families of the page -/

def noStats : IdempotencyStats := ⟨false, 0, 0, 0, 0, 0, 0, 0, 0⟩

def emptyReplica (enabled : Bool) : TopologyReplica := ⟨enabled, newGraphCRDT "" "" 0⟩

/-- The families of the engine: its plain samples and the one of the transitions. -/
def engineFamilies : List (String × String × String) :=
  (((newMetrics 0).samples 0 0 0 0 0 0).take 20).map MetricSample.header

/-- The provider's line, as the rendering of one sample. -/
def providerSample (provider : GraphProvider) : MetricSample where
  name := "openontology_graph_provider_info"
  help := "The graph tier currently backing ontology resolution."
  type := "gauge"
  value := 1
  labels := (∅ : Std.ExtTreeMap String String).insert "provider" provider.text

def filterFamilies : List (String × String × String) := noStats.samples.map MetricSample.header

def replicaFamilies : List (String × String × String) :=
  (replicaSamples (emptyReplica true) {}).map MetricSample.header

def pageFamilies : List (String × String × String) :=
  engineFamilies ++ ([(providerSample .mock).header] ++ (filterFamilies ++ replicaFamilies))

/-- A header by the characters of its parts. -/
def ofChars (header : List Char × List Char × List Char) : String × String × String :=
  (String.ofList header.1, String.ofList header.2.1, String.ofList header.2.2)

theorem headed_ofChars (header : List Char × List Char × List Char) :
    headed (ofChars header) = (header.1 ≠ [] && header.1.all nameChar &&
      !header.2.1.contains '\n' && !header.2.2.contains '\n') := by
  simp only [headed, ofChars, String.toList_ofList]

theorem spelled_cons {name help type : List Char} {rest : List (String × String × String)}
    {spelled : List (List Char × List Char × List Char)} (others : rest = spelled.map ofChars) :
    (String.ofList name, String.ofList help, String.ofList type) :: rest =
      ((name, help, type) :: spelled).map ofChars := by
  rw [others]
  rfl

-- `toList` of a literal decodes its bytes, which is slow to evaluate: the literals are taken
-- apart once, and what is checked of them is checked of the characters.
theorem pageFamilies_spelled : ∃ spelled : List (List Char × List Char × List Char),
    pageFamilies = spelled.map ofChars ∧
    (spelled.all fun header => headed (ofChars header)) = true ∧
    (spelled.map fun header => header.1).Nodup := by
  refine ⟨?spelled, ?same, ?checked, ?distinct⟩
  case same =>
    repeat (refine @spelled_cons _ _ _ _ ?_ ?_; rotate_left)
    exact List.map_nil.symm
  case checked =>
    simp only [headed_ofChars]
    decide +kernel
  case distinct => decide +kernel

theorem pageFamilies_headed : pageFamilies.all headed = true := by
  obtain ⟨spelled, same, checked, -⟩ := pageFamilies_spelled
  rw [same, List.all_map]
  exact checked

theorem pageFamilies_distinct : (pageFamilies.map fun header => header.1).Nodup := by
  obtain ⟨spelled, same, -, distinct⟩ := pageFamilies_spelled
  have through : pageFamilies.map (fun header => header.1) =
      (spelled.map fun header => header.1).map String.ofList := by
    rw [same, List.map_map, List.map_map]
    rfl
  rw [through]
  exact distinct.map fun _ _ => String.ofList_injective

theorem mem_pageFamilies (header : String × String × String) :
    header ∈ pageFamilies ↔ header ∈ engineFamilies ∨ header = (providerSample .mock).header ∨
      header ∈ filterFamilies ∨ header ∈ replicaFamilies := by
  simp [pageFamilies]

/-- Samples of one page whose names agree are samples of one family. -/
theorem header_eq_of_name {a b : String × String × String} (in_a : a ∈ pageFamilies)
    (in_b : b ∈ pageFamilies) (same : a.1 = b.1) : a = b :=
  List.inj_on_of_nodup_map pageFamilies_distinct in_a in_b same

theorem samples_families (m : Metrics) (uptime : Float) (a b c d e : Nat) :
    ∀ s ∈ m.samples uptime a b c d e, s.header ∈ engineFamilies := by
  have headers : (m.samples uptime a b c d e).map MetricSample.header = engineFamilies ++
      List.replicate 11 (m.transitionSample .raised .info).header := rfl
  have labelled : (m.transitionSample .raised .info).header ∈ engineFamilies :=
    List.mem_of_getElem? (i := 19) rfl
  intro s member
  have among := List.mem_map_of_mem (f := MetricSample.header) member
  rw [headers] at among
  rcases List.mem_append.mp among with plain | again
  · exact plain
  · rw [List.eq_of_mem_replicate again]
    exact labelled

theorem stats_families (stats : IdempotencyStats) :
    ∀ s ∈ stats.samples, s.header ∈ filterFamilies := by
  intro s member
  have among := List.mem_map_of_mem (f := MetricSample.header) member
  exact among

theorem replica_families (r : TopologyReplica) (m : ReplicaMetrics) :
    ∀ s ∈ replicaSamples r m, s.header ∈ replicaFamilies := by
  intro s member
  have among := List.mem_map_of_mem (f := MetricSample.header) member
  unfold replicaSamples at among
  split at among
  next => exact List.mem_of_mem_head? (by
    rw [List.mem_singleton.mp among]
    rfl)
  next => exact among

theorem samples_keyed (m : Metrics) (uptime : Float) (a b c d e : Nat) :
    ∀ s ∈ m.samples uptime a b c d e, Keyed s.labels.toList := by
  intro s member
  unfold Metrics.samples at member
  rcases List.mem_append.mp member with plain | labelled
  · have unlabelled : s.labels = ∅ := by
      simp only [List.mem_cons, List.not_mem_nil, or_false, gauge, counter] at plain
      rcases plain with rfl | rfl | rfl | rfl | rfl | rfl | rfl | rfl | rfl | rfl | rfl | rfl |
        rfl | rfl | rfl | rfl | rfl | rfl | rfl <;> rfl
    rw [unlabelled]
    exact keyed_empty
  · obtain ⟨kind, -, inner⟩ := List.mem_flatMap.mp labelled
    obtain ⟨severity, -, rfl⟩ := List.mem_map.mp inner
    exact keyed_insert (keyed_insert keyed_empty (by decide +kernel)) (by decide +kernel)

theorem stats_keyed (stats : IdempotencyStats) : ∀ s ∈ stats.samples, Keyed s.labels.toList := by
  intro s member
  have unlabelled : s.labels = ∅ := by
    simp only [IdempotencyStats.samples, List.mem_cons, List.not_mem_nil, or_false, gauge,
      counter] at member
    rcases member with rfl | rfl | rfl | rfl | rfl | rfl | rfl | rfl | rfl <;> rfl
  rw [unlabelled]
  exact keyed_empty

theorem replica_keyed (r : TopologyReplica) (m : ReplicaMetrics) :
    ∀ s ∈ replicaSamples r m, Keyed s.labels.toList := by
  intro s member
  have unlabelled : s.labels = ∅ := by
    unfold replicaSamples at member
    split at member
    next =>
      rw [List.mem_singleton.mp member]
      rfl
    next =>
      simp only [List.mem_cons, List.not_mem_nil, or_false, gauge, counter] at member
      rcases member with rfl | rfl | rfl | rfl | rfl | rfl | rfl | rfl | rfl | rfl | rfl | rfl |
        rfl | rfl <;> rfl
  rw [unlabelled]
  exact keyed_empty

/-! ## The page -/

/-- `%d` of the constant the provider's line ends with. -/
def formatOne : Float → String := fun _ => "1"

theorem graphProviderMetric_renders (provider : GraphProvider) :
    Renders formatOne [providerSample provider] (graphProviderMetric provider) := by
  refine ⟨[providerSample provider], List.Perm.refl _, List.pairwise_singleton _ _, ?_⟩
  cases provider <;> decide +kernel

/-- What the handler of `/metrics` writes, each part in some order its sort leaves. -/
structure MetricsPage (formatG : Float → String) (m : Metrics) (uptime : Float)
    (tracked anomalous graphLookups graphHits graphErrs : Nat) (provider : GraphProvider)
    (stats : IdempotencyStats) (r : TopologyReplica) (rm : ReplicaMetrics) where
  engine : String
  filter : String
  replica : String
  engine_renders : Renders formatG
    (m.samples uptime tracked anomalous graphLookups graphHits graphErrs) engine
  filter_renders : Renders formatG stats.samples filter
  replica_renders : Renders formatG (replicaSamples r rm) replica

section
variable {formatG : Float → String} {m : Metrics} {uptime : Float}
  {tracked anomalous graphLookups graphHits graphErrs : Nat} {provider : GraphProvider}
  {stats : IdempotencyStats} {r : TopologyReplica} {rm : ReplicaMetrics}

namespace MetricsPage

def fragments (p : MetricsPage formatG m uptime tracked anomalous graphLookups graphHits graphErrs
    provider stats r rm) : List Fragment :=
  [⟨formatG, m.samples uptime tracked anomalous graphLookups graphHits graphErrs, p.engine⟩,
    ⟨formatOne, [providerSample provider], graphProviderMetric provider⟩,
    ⟨formatG, stats.samples, p.filter⟩, ⟨formatG, replicaSamples r rm, p.replica⟩]

def text (p : MetricsPage formatG m uptime tracked anomalous graphLookups graphHits graphErrs
    provider stats r rm) : String := String.join (p.fragments.map Fragment.text)

end MetricsPage

/-- A document of the page is sound, whatever its values are. -/
theorem fragment_sound {f : Fragment} (plain : ∀ v, '\n' ∉ (f.formatG v).toList)
    (keyed : ∀ s ∈ f.samples, Keyed s.labels.toList)
    (families : ∀ s ∈ f.samples, s.header ∈ pageFamilies)
    (renders : Renders f.formatG f.samples f.text) : f.Sound where
  plain := plain
  valid := fun s member => valid_of_headed
    (List.all_eq_true.mp pageFamilies_headed s.header (families s member)) (keyed s member)
  uniform := by
    intro a in_a b in_b same
    have equal := header_eq_of_name (families a in_a) (families b in_b) same
    exact ⟨congrArg (·.2.1) equal, congrArg (·.2.2) equal⟩
  renders := renders

/-- Documents whose families stand apart in the list of all of them. -/
theorem apart_of_families {a b : Fragment} {first second : List (String × String × String)}
    (in_a : ∀ s ∈ a.samples, s.header ∈ first) (in_b : ∀ s ∈ b.samples, s.header ∈ second)
    (apart : ((first ++ second).map fun header => header.1).Nodup) : Apart a b := by
  intro s in_first r in_second same
  rw [List.map_append, List.nodup_append] at apart
  exact apart.2.2 s.name (List.mem_map_of_mem (f := fun header => header.1) (in_a s in_first))
    r.name (List.mem_map_of_mem (f := fun header => header.1) (in_b r in_second)) same

theorem families_apart {first second : List (String × String × String)}
    (part : (first ++ second).Sublist pageFamilies) :
    ((first ++ second).map fun header => header.1).Nodup :=
  pageFamilies_distinct.sublist (part.map _)

namespace MetricsPage

theorem sound (plain : ∀ v, '\n' ∉ (formatG v).toList)
    (p : MetricsPage formatG m uptime tracked anomalous graphLookups graphHits graphErrs provider
      stats r rm) : ∀ f ∈ p.fragments, f.Sound := by
  intro f member
  simp only [fragments, List.mem_cons, List.not_mem_nil, or_false] at member
  rcases member with rfl | rfl | rfl | rfl
  · refine fragment_sound plain (samples_keyed m uptime _ _ _ _ _) (fun s in_samples => ?_)
      p.engine_renders
    exact (mem_pageFamilies _).mpr (Or.inl (samples_families m uptime _ _ _ _ _ s in_samples))
  · have one : '\n' ∉ ("1" : String).toList := by decide
    refine fragment_sound (fun _ => one) ?_ ?_ (graphProviderMetric_renders provider)
    · intro s member
      rw [List.mem_singleton.mp member]
      exact keyed_insert keyed_empty (by decide +kernel)
    · intro s member
      rw [List.mem_singleton.mp member]
      exact (mem_pageFamilies _).mpr (Or.inr (Or.inl rfl))
  · refine fragment_sound plain (stats_keyed stats) (fun s in_samples => ?_) p.filter_renders
    exact (mem_pageFamilies _).mpr (Or.inr (Or.inr (Or.inl (stats_families stats s in_samples))))
  · refine fragment_sound plain (replica_keyed r rm) (fun s in_samples => ?_) p.replica_renders
    exact (mem_pageFamilies _).mpr (Or.inr (Or.inr (Or.inr (replica_families r rm s in_samples))))

theorem apart (p : MetricsPage formatG m uptime tracked anomalous graphLookups graphHits graphErrs
    provider stats r rm) : p.fragments.Pairwise Apart := by
  have provides : ∀ s ∈ [providerSample provider], s.header ∈ [(providerSample .mock).header] :=
    fun s member => by
      rw [List.mem_singleton.mp member]
      exact List.mem_singleton_self _
  have engine := samples_families m uptime tracked anomalous graphLookups graphHits graphErrs
  have filter := stats_families stats
  have replica := replica_families r rm
  have tail := List.sublist_append_right engineFamilies
    ([(providerSample .mock).header] ++ (filterFamilies ++ replicaFamilies))
  unfold fragments
  refine List.Pairwise.cons ?_ (List.Pairwise.cons ?_ (List.Pairwise.cons ?_
    (List.pairwise_singleton _ _)))
  · intro f member
    simp only [List.mem_cons, List.not_mem_nil, or_false] at member
    rcases member with rfl | rfl | rfl
    · refine apart_of_families engine provides (families_apart ?_)
      exact (List.sublist_append_left _ _).append_left _
    · refine apart_of_families engine filter (families_apart ?_)
      exact ((List.sublist_append_left _ _).trans (List.sublist_append_right _ _)).append_left _
    · refine apart_of_families engine replica (families_apart ?_)
      exact ((List.sublist_append_right _ _).trans (List.sublist_append_right _ _)).append_left _
  · intro f member
    simp only [List.mem_cons, List.not_mem_nil, or_false] at member
    rcases member with rfl | rfl
    · refine apart_of_families provides filter (families_apart (List.Sublist.trans ?_ tail))
      exact (List.sublist_append_left _ _).append_left _
    · refine apart_of_families provides replica (families_apart (List.Sublist.trans ?_ tail))
      exact (List.sublist_append_right _ _).append_left _
  · intro f member
    rw [List.mem_singleton.mp member]
    refine apart_of_families filter replica (families_apart (List.Sublist.trans ?_ tail))
    exact List.sublist_append_right _ _

/-- The page of any engine reads back as what its parts had to say: every family is announced
once and not empty, and the series are those of the samples, label by label and value by
value. -/
theorem reads (plain : ∀ v, '\n' ∉ (formatG v).toList)
    (p : MetricsPage formatG m uptime tracked anomalous graphLookups graphHits graphErrs provider
      stats r rm) :
    ∃ families, readExposition p.text = some families ∧ (families.map Family.name).Nodup ∧
      (∀ f ∈ families, f.series ≠ [] ∧ f.type.isSome) ∧
      (families.flatMap Family.rows).Perm
        ((m.samples uptime tracked anomalous graphLookups graphHits graphErrs).map
            (MetricSample.row formatG) ++
          ((providerSample provider).row formatOne ::
            (stats.samples.map (MetricSample.row formatG) ++
              (replicaSamples r rm).map (MetricSample.row formatG)))) := by
  obtain ⟨families, read, distinct, inhabited, rows⟩ :=
    readExposition_fragments p.fragments (p.sound plain) p.apart
  refine ⟨families, read, distinct, inhabited, ?_⟩
  simpa [fragments, Fragment.rows] using rows

end MetricsPage

end

/-- The page of an engine that has just started, replication off. -/
def idlePage : MetricsPage formatOne (newMetrics 0) 0 0 0 0 0 0 .mock noStats (emptyReplica false) {} where
  engine := renderExposition formatOne ((newMetrics 0).samples 0 0 0 0 0 0)
  filter := renderExposition formatOne noStats.samples
  replica := renderExposition formatOne (replicaSamples (emptyReplica false) {})
  engine_renders := renders_renderExposition _ _
  filter_renders := renders_renderExposition _ _
  replica_renders := renders_renderExposition _ _

theorem MetricsPage.reads_idle :
    ∃ families, readExposition idlePage.text = some families ∧ (families.map Family.name).Nodup ∧
      (∀ f ∈ families, f.series ≠ [] ∧ f.type.isSome) ∧
      (families.flatMap Family.rows).Perm
        (((newMetrics 0).samples 0 0 0 0 0 0).map (MetricSample.row formatOne) ++
          ((providerSample .mock).row formatOne ::
            (noStats.samples.map (MetricSample.row formatOne) ++
              (replicaSamples (emptyReplica false) {}).map (MetricSample.row formatOne)))) :=
  MetricsPage.reads (fun _ => by simp [formatOne]) idlePage

end OpenOntology.Resolution
