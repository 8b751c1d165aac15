import OpenOntology.Crdt.Causality

/-!
# The last write decides

What a replica knows of an element bounds its lines from both sides. Clocks therefore
dominate every stored stamp, one stamp means one payload, and a write that is causally
after every other write on its element shows wherever it is known.
-/
namespace OpenOntology.Crdt
open Library

variable {table : CaseTable}

/-- The presence rule on the two lines of an element. -/
def GraphCRDT.liveAt (c : GraphCRDT) (el : Element) : Bool :=
  highestStamp (c.line el true) > highestStamp (c.line el false)

theorem live_of_vertex {c : GraphCRDT} {u : String} {v : Vertex}
    (stored : c.vertices[u]? = some v) : v.live = c.liveAt (.vertex u) := by
  simp only [Vertex.live, GraphCRDT.liveAt, GraphCRDT.line, stored, Option.map_some,
    Option.getD_some]

theorem live_of_edge {c : GraphCRDT} {k : String} {e : Edge}
    (stored : c.edges[k]? = some e) : e.live = c.liveAt (.edge k) := by
  simp only [Edge.live, GraphCRDT.liveAt, GraphCRDT.line, stored, Option.map_some,
    Option.getD_some]

/-- The highest stamp of a line is the highest of the known writes on it. -/
theorem Reflects.highestStamp_le_iff {K : Set Write} {c : GraphCRDT} (ok : Reflects K c)
    (el : Element) (b : Bool) (bound : Int) :
    highestStamp (c.line el b) ≤ bound ↔ 0 ≤ bound ∧
      ∀ w ∈ K, w.element = el → w.asserted = b → w.stamp.timestamp ≤ bound := by
  rw [Crdt.highestStamp_le_iff]
  refine and_congr_right fun _ => ⟨?_, ?_⟩
  · rintro each w inside rfl rfl
    obtain ⟨s, stored, above⟩ := exists_ge_of_le_valueAt _ _ _ (ok.covers w inside)
    exact above.trans (each _ s stored)
  · intro each r s stored
    obtain ⟨w, inside, element, asserted, stamp⟩ := ok.held el b r s stored
    have below := each w inside element asserted
    rwa [stamp] at below

/-- The write is later than everything else that is known of its element. -/
def Decisive (K : Set Write) (w : Write) : Prop :=
  w ∈ K ∧ ∀ w' ∈ K, w'.element = w.element → w' ≠ w → w'.stamp.timestamp < w.stamp.timestamp

theorem Reflects.liveAt_of_decisive {K : Set Write} {c : GraphCRDT} (ok : Reflects K c) {w : Write}
    (decisive : Decisive K w) (positive : 0 < w.stamp.timestamp) :
    c.liveAt w.element = w.asserted := by
  have own := ((ok.highestStamp_le_iff w.element w.asserted _).mp le_rfl).2 w decisive.1 rfl rfl
  have other : highestStamp (c.line w.element (!w.asserted)) ≤ w.stamp.timestamp - 1 := by
    refine (ok.highestStamp_le_iff _ _ _).mpr ⟨by omega, fun w' inside element asserted => ?_⟩
    have differs : w' ≠ w := by
      rintro rfl
      cases found : w'.asserted <;> rw [found] at asserted <;> cases asserted
    have below := decisive.2 w' inside element differs
    omega
  unfold GraphCRDT.liveAt
  cases asserted : w.asserted with
  | true =>
    rw [asserted] at own other
    exact decide_eq_true (lt_of_le_of_lt other (by omega))
  | false =>
    rw [asserted] at own other
    exact decide_eq_false (not_lt.mpr (other.trans (by omega)))

theorem Reflects.dominantWrite_of_decisive {K : Set Write} {c : GraphCRDT} (ok : Reflects K c)
    {w : Write} (decisive : Decisive K w) (positive : 0 < w.stamp.timestamp)
    (asserted : w.asserted = true) : dominantWrite (c.line w.element true) = w.stamp := by
  have later : ∀ stamp : WriteStamp, stamp.timestamp < w.stamp.timestamp →
      stamp.key ≤ w.stamp.key := by
    intro stamp less
    unfold WriteStamp.key
    rw [Prod.Lex.toLex_le_toLex]
    exact Or.inl less
  apply WriteStamp.key_injective
  apply le_antisymm
  · rw [dominantWrite_le_iff]
    refine ⟨later WriteStamp.zero positive, fun r s stored => ?_⟩
    obtain ⟨w', inside, element, -, stamp⟩ := ok.held w.element true r s stored
    by_cases same : w' = w
    · rw [← stamp, same]
    · rw [← stamp]
      exact later _ (decisive.2 w' inside element same)
  · have covered := ok.covers w decisive.1
    rw [asserted] at covered
    obtain ⟨s, stored, above⟩ := exists_ge_of_le_valueAt _ _ _ covered
    exact (WriteStamp.key_le_key _ above).trans (le_dominantWrite _ _ s stored)

/-- The line of a known write is not empty. -/
theorem Reflects.line_of_mem {K : Set Write} {c : GraphCRDT} (ok : Reflects K c) {w : Write}
    (inside : w ∈ K) : c.line w.element w.asserted ≠ ∅ := by
  intro empty
  have covered := ok.covers w inside
  rw [empty, valueAt_empty, le_bot_iff] at covered
  exact WithBot.coe_ne_bot covered

/-! ## What a replica shows -/

/-- The replica shows the effect of a write on its element. -/
def GraphCRDT.Shows (c : GraphCRDT) (w : Write) : Prop :=
  match w.element, w.asserted with
  | .vertex u, true =>
    ∃ v, c.vertices[u]? = some v ∧ v.live = true ∧ v.properties = w.properties
  | .vertex u, false => ∃ v, c.vertices[u]? = some v ∧ v.live = false
  | .edge k, true => ∃ e, c.edges[k]? = some e ∧ e.live = true
  | .edge k, false => ∃ e, c.edges[k]? = some e ∧ e.live = false

theorem Informed.shows {log : List Issue} {K : Set Write} {c : GraphCRDT}
    (ok : Informed table log K c)
    (unique : ∀ issue ∈ log, ∀ issue' ∈ log, issue.write.element = issue'.write.element →
      issue.write.stamp = issue'.write.stamp → issue.write = issue'.write)
    {w : Write} (decisive : Decisive K w) : c.Shows w := by
  obtain ⟨positive, -, logged⟩ := ok.known w decisive.1
  have live := ok.reflects.liveAt_of_decisive decisive positive
  have stored := ok.reflects.line_of_mem decisive.1
  obtain ⟨element, asserted, properties, stamp⟩ := w
  dsimp only at live stored positive
  cases element with
  | vertex u =>
    obtain ⟨v, held⟩ : ∃ v, c.vertices[u]? = some v := by
      cases found : c.vertices[u]? with
      | some v => exact ⟨v, rfl⟩
      | none => cases asserted <;> exact absurd (by simp [GraphCRDT.line, found]) stored
    have presence := live_of_vertex held
    rw [live] at presence
    cases asserted with
    | false => exact ⟨v, held, presence⟩
    | true =>
      refine ⟨v, held, presence, ?_⟩
      have dominant := ok.reflects.dominantWrite_of_decisive decisive positive rfl
      have line : c.line (.vertex u) true = v.addTimeline := by
        simp only [GraphCRDT.line, held, Option.map_some, Option.getD_some]
      dsimp only at dominant
      rw [line] at dominant
      obtain ⟨filed, standing⟩ := ok.vertices u v held
      have written := standing.payload
      rw [filed, dominant] at written
      refine written.unique ?_
      unfold Written
      rw [if_neg]
      · exact payloads_of_logged unique logged rfl rfl
      · rintro rfl
        exact absurd positive (lt_irrefl 0)
  | edge k =>
    obtain ⟨e, held⟩ : ∃ e, c.edges[k]? = some e := by
      cases found : c.edges[k]? with
      | some e => exact ⟨e, rfl⟩
      | none => cases asserted <;> exact absurd (by simp [GraphCRDT.line, found]) stored
    have presence := live_of_edge held
    rw [live] at presence
    cases asserted with
    | false => exact ⟨e, held, presence⟩
    | true => exact ⟨e, held, presence⟩

/-! ## The causality invariant -/

/-- The clock is at least every stamp the replica stores. -/
structure GraphCRDT.ClockCovers (c : GraphCRDT) : Prop where
  vertices : ∀ (u : String) (v : Vertex), c.vertices[u]? = some v → ∀ (r : String) (s : Int),
    v.addTimeline[r]? = some s ∨ v.removeTimeline[r]? = some s → s ≤ c.lamportClock
  edges : ∀ (k : String) (e : Edge), c.edges[k]? = some e → ∀ (r : String) (s : Int),
    e.addTimeline[r]? = some s ∨ e.removeTimeline[r]? = some s → s ≤ c.lamportClock

theorem Informed.clockCovers {log : List Issue} {K : Set Write} {c : GraphCRDT}
    (ok : Informed table log K c) : c.ClockCovers := by
  have each : ∀ el b (r : String) (s : Int), (c.line el b)[r]? = some s →
      s ≤ c.lamportClock := by
    intro el b r s stored
    obtain ⟨w, inside, -, -, stamp⟩ := ok.reflects.held el b r s stored
    have reached := (ok.known w inside).2.1
    rwa [stamp] at reached
  refine ⟨fun u v stored r s held => ?_, fun k e stored r s held => ?_⟩
  · rcases held with added | removed
    · refine each (.vertex u) true r s ?_
      simpa only [GraphCRDT.line, stored, Option.map_some, Option.getD_some] using added
    · refine each (.vertex u) false r s ?_
      simpa only [GraphCRDT.line, stored, Option.map_some, Option.getD_some] using removed
  · rcases held with added | removed
    · refine each (.edge k) true r s ?_
      simpa only [GraphCRDT.line, stored, Option.map_some, Option.getD_some] using added
    · refine each (.edge k) false r s ?_
      simpa only [GraphCRDT.line, stored, Option.map_some, Option.getD_some] using removed

/-- In this state of the vertex loop the entry meets the branch for two payloads under
one stamp. -/
def MeetsDuplicate (vertices : VertexMap) (v : Vertex) : Prop :=
  ∃ l, vertices[trimSpace v.uuid]? = some l ∧
    (joinPayload l { v with uuid := trimSpace v.uuid }).2.2 = true

theorem Informed.no_duplicate {log : List Issue} {K K' : Set Write} {c d : GraphCRDT}
    (ok : Informed table log K c) (ok' : Informed table log K' d) {before after : List Vertex}
    {v : Vertex} (split : d.snapshot.vertices = before ++ v :: after) :
    ¬MeetsDuplicate (before.foldl ingestVertex (c.vertices, {})).1 v := by
  rintro ⟨l, held, duplicate⟩
  have loop := (mergeSnapshot_vertices ok ok' before
    (fun w member => by rw [split]; exact List.mem_append_left _ member)
    (le_max_left c.lamportClock d.lamportClock) (le_max_right _ _)).1
  have member : v ∈ d.snapshot.vertices := by
    rw [split]
    exact List.mem_append_right _ List.mem_cons_self
  obtain ⟨u, stored⟩ := mem_entries d.vertices v (List.mem_mergeSort.mp member)
  obtain ⟨filed, standing⟩ := ok'.vertices u v stored
  rw [standing.trimmed] at held duplicate
  obtain ⟨filed', standing'⟩ := loop v.uuid l held
  have here := standing'.payload
  rw [filed'] at here
  have settled := (joinPayload_written l v v.uuid here standing.payload).2
  rw [settled] at duplicate
  cases duplicate

namespace Fleet

variable {ι : Type} [DecidableEq ι]

/-- In every state of a fleet: clocks dominate stored stamps, equal dominant stamps mean
equal payloads, no merge meets two payloads under one stamp, and a write that is causally
after all others on its element shows on every replica that knows it. -/
theorem causality_invariant (table : CaseTable) (generated clientIDs : ι → String)
    (clocks : ι → Int)
    (distinct : Function.Injective fun i =>
      (newGraphCRDT (generated i) (clientIDs i) (clocks i)).clientID)
    (events : List (Event ι)) (τ : Traced ι)
    (reached : Library.run (Traced.step table) (Traced.start generated clientIDs clocks) events =
      some τ) :
    (∀ i, (τ.fleet.replica i).ClockCovers) ∧
      (∀ (i j : ι) (u : String) (v v' : Vertex), (τ.fleet.replica i).vertices[u]? = some v →
        (τ.fleet.replica j).vertices[u]? = some v' →
        dominantWrite v.addTimeline = dominantWrite v'.addTimeline →
        v.properties = v'.properties) ∧
      (∀ (i : ι) (s : Snapshot), (s ∈ τ.fleet.pool ∨ ∃ j, s = (τ.fleet.replica j).snapshot) →
        ∀ before v after, s.vertices = before ++ v :: after →
          ¬MeetsDuplicate
            (before.foldl ingestVertex ((τ.fleet.replica i).vertices, {})).1 v) ∧
      ∀ issue ∈ τ.log,
        (∀ other ∈ τ.log, other.write.element = issue.write.element →
          other.write ≠ issue.write → other.write ∈ issue.past) →
        ∀ i, issue.write ∈ τ.known i → (τ.fleet.replica i).Shows issue.write := by
  have inv := (Traced.invariant_start generated clientIDs clocks distinct).run events reached
  refine ⟨fun i => (inv.replicas i).clockCovers, ?_, ?_, ?_⟩
  · intro i j u v v' stored stored' same
    obtain ⟨filed, standing⟩ := (inv.replicas i).vertices u v stored
    obtain ⟨filed', standing'⟩ := (inv.replicas j).vertices u v' stored'
    have here := standing.payload
    have there := standing'.payload
    rw [filed, same] at here
    rw [filed'] at there
    exact here.unique there
  · intro i s taken before v after split
    rcases taken with pooled | ⟨j, rfl⟩
    · obtain ⟨K, d, rfl, informed⟩ : ∃ K, ∃ d : GraphCRDT, s = d.snapshot ∧
          Informed table τ.log K d := by
        obtain ⟨n, within, rfl⟩ := List.mem_iff_getElem.mp pooled
        have length := inv.snapshots.length_eq
        exact ⟨_, inv.snapshots.get within (by omega)⟩
      exact (inv.replicas i).no_duplicate informed split
    · exact (inv.replicas i).no_duplicate (inv.replicas j) split
  · intro issue member last i known
    refine (inv.replicas i).shows inv.unique ⟨known, fun w inside element differs => ?_⟩
    obtain ⟨other, logged, rfl⟩ := ((inv.replicas i).known w inside).2.2
    exact inv.later issue member other.write (last other logged element differs)

/-- Two replicas: one asserts, the other learns of it and retires. -/
theorem causality_invariant_pair :
    ∃ τ, Library.run (Traced.step asciiCase)
        (Traced.start (fun _ => "replica-0") (fun east : Bool => if east then "east" else "west")
          fun _ => 0)
        [.addVertex true "pump" ∅, .merge false true, .removeVertex false "pump",
          .merge true false] = some τ ∧
      ∀ i, (τ.fleet.replica i).ClockCovers := by
  have ran : (Library.run (Traced.step asciiCase)
      (Traced.start (fun _ => "replica-0") (fun east : Bool => if east then "east" else "west")
        fun _ => 0)
      [.addVertex true "pump" ∅, .merge false true, .removeVertex false "pump",
        .merge true false]).isSome = true := by decide +kernel
  obtain ⟨τ, reached⟩ := Option.isSome_iff_exists.mp ran
  exact ⟨τ, reached, (causality_invariant asciiCase (fun _ => "replica-0") _ (fun _ => 0)
    eastWest_distinct
    _ τ reached).1⟩

end Fleet
end OpenOntology.Crdt
