import OpenOntology.Library.Champion
import OpenOntology.Crdt.Convergence

/-!
# Merging arbitrary snapshots

A decoded snapshot promises nothing: any ids, any stamps, several entries of one
vertex, two payloads under one write. The timelines of an entry are still the join of
what was merged. Its payload is the one of the first entry with the greatest dominant
write and, among equals, the greatest canonical encoding.
-/
namespace OpenOntology.Crdt
open Library

variable {table : CaseTable}

/-! ## One vertex -/

/-- The entry of a vertex after a remote entry of it was joined in. -/
def absorb (held : Option Vertex) (remote : Vertex) : Vertex :=
  match held with
  | none => remote
  | some local_ =>
    { local_ with
      addTimeline := (mergeTimelineInto local_.addTimeline remote.addTimeline).1
      removeTimeline := (mergeTimelineInto local_.removeTimeline remote.removeTimeline).1
      properties := (joinPayload local_ remote).1 }

theorem joinVertexLocked_getElem? (vertices : VertexMap) (remote : Vertex) (u : String) :
    (joinVertexLocked vertices remote).1[u]? =
      if remote.uuid = u then some (absorb vertices[u]? remote) else vertices[u]? := by
  unfold joinVertexLocked absorb
  by_cases same : remote.uuid = u
  · subst same
    rw [if_pos rfl]
    cases found : vertices[remote.uuid]? with
    | none => exact Std.ExtTreeMap.getElem?_insert_self
    | some local_ => exact Std.ExtTreeMap.getElem?_insert_self
  · rw [if_neg same]
    have differs : ¬compare remote.uuid u = .eq := fun equal =>
      same (Std.LawfulEqCmp.compare_eq_iff_eq.mp equal)
    cases found : vertices[remote.uuid]? with
    | none => rw [Std.ExtTreeMap.getElem?_insert, if_neg differs]
    | some local_ => rw [Std.ExtTreeMap.getElem?_insert, if_neg differs]

/-- What decides the payload of a join: the dominant write, then the encoding. -/
def Vertex.rank (v : Vertex) : (ℤ ×ₗ String) ×ₗ String :=
  toLex ((dominantWrite v.addTimeline).key, canonicalProperties v.properties)

theorem Vertex.rank_lt_iff (v w : Vertex) :
    v.rank < w.rank ↔
      (dominantWrite v.addTimeline).key < (dominantWrite w.addTimeline).key ∨
        (dominantWrite v.addTimeline).key = (dominantWrite w.addTimeline).key ∧
          canonicalProperties v.properties < canonicalProperties w.properties :=
  Prod.Lex.toLex_lt_toLex

/-- The remote payload is taken exactly when its rank is greater. -/
theorem joinPayload_eq (local_ remote : Vertex) :
    (joinPayload local_ remote).1 =
      if local_.rank < remote.rank then remote.properties else local_.properties := by
  unfold joinPayload
  dsimp only
  by_cases newer : (dominantWrite remote.addTimeline).after (dominantWrite local_.addTimeline) = true
  · have above := (WriteStamp.after_iff _ _).mp newer
    rw [if_pos newer, if_pos ((Vertex.rank_lt_iff _ _).mpr (Or.inl above))]
    by_cases agree : local_.properties = remote.properties
    · rw [if_neg (not_not.mpr agree), agree]
    · rw [if_pos agree]
  rw [if_neg newer]
  have not_above := newer
  rw [Bool.not_eq_true, WriteStamp.after_eq_false_iff] at not_above
  by_cases older : (dominantWrite local_.addTimeline).after (dominantWrite remote.addTimeline) = true
  · have below := (WriteStamp.after_iff _ _).mp older
    rw [if_pos older, if_neg]
    rw [Vertex.rank_lt_iff]
    rintro (above | ⟨tied, -⟩)
    · exact absurd below (not_lt.mpr above.le)
    · exact absurd tied below.ne'
  rw [if_neg older]
  rw [Bool.not_eq_true, WriteStamp.after_eq_false_iff] at older
  have tied := le_antisymm older not_above
  by_cases agree : local_.properties = remote.properties
  · rw [if_neg (not_not.mpr agree), agree, ite_self]
  rw [if_pos agree]
  by_cases greater : canonicalProperties remote.properties > canonicalProperties local_.properties
  · rw [if_pos greater, if_pos ((Vertex.rank_lt_iff _ _).mpr (Or.inr ⟨tied, greater⟩))]
  · rw [if_neg greater, if_neg]
    rw [Vertex.rank_lt_iff]
    rintro (above | ⟨-, above⟩)
    · exact above.ne tied
    · exact greater above

theorem absorb_marks (local_ remote : Vertex) :
    (absorb (some local_) remote).marks = local_.marks ⊔ remote.marks :=
  marks_mergeTimelineInto local_.addTimeline local_.removeTimeline remote.addTimeline
    remote.removeTimeline

/-- A joined entry has the greater of the two ranks, and the payload that goes with it. -/
theorem absorb_rank (local_ remote : Vertex) :
    (absorb (some local_) remote).rank =
        (if local_.rank < remote.rank then remote.rank else local_.rank) ∧
      (absorb (some local_) remote).properties =
        if local_.rank < remote.rank then remote.properties else local_.properties := by
  have payload := joinPayload_eq local_ remote
  refine ⟨?_, payload⟩
  have dominant : (dominantWrite (absorb (some local_) remote).addTimeline).key =
      (dominantWrite local_.addTimeline).key ⊔ (dominantWrite remote.addTimeline).key :=
    dominantWrite_mergeTimelineInto local_.addTimeline remote.addTimeline
  have kept : (absorb (some local_) remote).properties = (joinPayload local_ remote).1 := rfl
  unfold Vertex.rank at payload ⊢
  rw [dominant, kept, payload]
  split
  next above =>
    rcases (Vertex.rank_lt_iff local_ remote).mp above with greater | ⟨tied, -⟩
    · rw [sup_eq_right.mpr greater.le]
    · rw [tied, sup_idem]
  next not_above =>
    have no_greater : (dominantWrite remote.addTimeline).key ≤
        (dominantWrite local_.addTimeline).key := by
      by_contra greater
      exact not_above ((Vertex.rank_lt_iff local_ remote).mpr (Or.inl (not_le.mp greater)))
    rw [sup_eq_left.mpr no_greater]

/-- After entries of one vertex were joined into nothing. -/
structure Summary (entries : List Vertex) (v : Vertex) : Prop where
  marks : v.marks = entries.foldl (fun acc w => acc ⊔ w.marks) ⊥
  champion : ∃ w, entries.argmax Vertex.rank = some w ∧ v.rank = w.rank ∧
    v.properties = w.properties

theorem foldl_absorb (entries : List Vertex) :
    match entries.foldl (fun held v => some (absorb held v)) none with
    | none => entries = []
    | some v => Summary entries v := by
  induction entries using List.reverseRecOn with
  | nil => rfl
  | append_singleton rest remote ih =>
    rw [List.foldl_append, List.foldl_cons, List.foldl_nil]
    cases held : rest.foldl (fun held v => some (absorb held v)) none with
    | none =>
      rw [held] at ih
      have blank : rest = [] := ih
      subst blank
      refine ⟨?_, remote, rfl, rfl, rfl⟩
      rw [List.nil_append, List.foldl_cons, List.foldl_nil, bot_sup_eq]
      rfl
    | some local_ =>
      rw [held] at ih
      obtain ⟨marks, w, first, rank, properties⟩ := (ih : Summary rest local_)
      obtain ⟨joined, payload⟩ := absorb_rank local_ remote
      refine ⟨?_, ?_⟩
      · rw [absorb_marks, marks, List.foldl_append, List.foldl_cons, List.foldl_nil]
      · rw [List.argmax_concat, first, joined, payload, rank, properties]
        by_cases above : w.rank < remote.rank
        · exact ⟨remote, if_pos above, if_pos above, if_pos above⟩
        · exact ⟨w, if_neg above, if_neg above, if_neg above⟩

/-! ## Whole snapshots -/

/-- The entries of a snapshot that the vertex loop lets in, under their trimmed ids. -/
def Snapshot.admitted (s : Snapshot) : List Vertex :=
  (s.vertices.map fun v => { v with uuid := trimSpace v.uuid }).filter fun v =>
    v.uuid != "" && v.observed

def Snapshot.entriesOf (s : Snapshot) (u : String) : List Vertex :=
  s.admitted.filter fun v => v.uuid = u

theorem foldl_ingestVertex_admitted (l : List Vertex) (acc : VertexMap × MergeReport) :
    (l.foldl ingestVertex acc).1 =
      ((l.map fun v => { v with uuid := trimSpace v.uuid }).filter fun v =>
        v.uuid != "" && v.observed).foldl (fun m v => (joinVertexLocked m v).1) acc.1 := by
  induction l generalizing acc with
  | nil => rfl
  | cons v rest ih =>
    rw [List.foldl_cons, ih, List.map_cons, List.filter_cons]
    unfold ingestVertex
    dsimp only
    by_cases named : trimSpace v.uuid = ""
    · rw [if_pos (Or.inl named), if_neg (by simp [named])]
    · cases seen : ({ v with uuid := trimSpace v.uuid } : Vertex).observed with
      | false => rw [if_pos (Or.inr rfl), if_neg (by simp)]
      | true => rw [if_neg (by simp [named]), if_pos (by simp [named]), List.foldl_cons]

theorem foldl_joinVertexLocked_getElem? (l : List Vertex) (vertices : VertexMap) (u : String) :
    (l.foldl (fun m v => (joinVertexLocked m v).1) vertices)[u]? =
      (l.filter fun v => v.uuid = u).foldl (fun held v => some (absorb held v)) vertices[u]? := by
  induction l generalizing vertices with
  | nil => rfl
  | cons v rest ih =>
    rw [List.foldl_cons, ih, joinVertexLocked_getElem?, List.filter_cons]
    by_cases same : v.uuid = u
    · rw [if_pos same, if_pos (by simpa using same), List.foldl_cons]
    · rw [if_neg same, if_neg (by simpa using same)]

/-- The entry of a vertex after some snapshots is what their entries of it leave. -/
theorem mergeAll_getElem? (c : GraphCRDT) (snaps : List Snapshot) (u : String) :
    (mergeAll table c snaps).vertices[u]? =
      (snaps.flatMap fun s => s.entriesOf u).foldl (fun held v => some (absorb held v))
        c.vertices[u]? := by
  induction snaps generalizing c with
  | nil => rfl
  | cons s rest ih =>
    have head : (c.mergeSnapshot table s).vertices =
        s.admitted.foldl (fun m v => (joinVertexLocked m v).1) c.vertices :=
      foldl_ingestVertex_admitted s.vertices (c.vertices, {})
    rw [List.flatMap_cons, List.foldl_append]
    refine (ih (c.mergeSnapshot table s)).trans ?_
    rw [head, foldl_joinVertexLocked_getElem?]
    rfl

theorem uuid_of_mem_entriesOf {s : Snapshot} {u : String} {v : Vertex}
    (member : v ∈ s.entriesOf u) : v.uuid = u := by
  have filtered := (List.mem_filter.mp member).2
  simpa using filtered

theorem foldl_absorb_uuid (entries : List Vertex) (u : String)
    (same : ∀ v ∈ entries, v.uuid = u) (held : Option Vertex)
    (filed : ∀ v, held = some v → v.uuid = u) (v : Vertex)
    (left : entries.foldl (fun held v => some (absorb held v)) held = some v) : v.uuid = u := by
  induction entries generalizing held with
  | nil => exact filed v left
  | cons remote rest ih =>
    refine ih (fun w member => same w (List.mem_cons_of_mem remote member))
      (some (absorb held remote)) ?_ left
    intro w stored
    cases stored
    cases held with
    | none => exact same remote List.mem_cons_self
    | some local_ => exact filed local_ rfl

/-- Two orders of merging leave the same entry of a vertex when they leave it the same
payload. -/
theorem mergeAll_entry_eq_iff (generated clientID : String) (initialClock : Int) {snaps snaps' : List Snapshot}
    (perm : snaps'.Perm snaps) (u : String) :
    (mergeAll table (newGraphCRDT generated clientID initialClock) snaps').vertices[u]? =
        (mergeAll table (newGraphCRDT generated clientID initialClock) snaps).vertices[u]? ↔
      ((snaps'.flatMap fun s => s.entriesOf u).argmax Vertex.rank).map Vertex.properties =
        ((snaps.flatMap fun s => s.entriesOf u).argmax Vertex.rank).map Vertex.properties := by
  have start : (newGraphCRDT generated clientID initialClock).vertices[u]? = none :=
    Std.ExtTreeMap.getElem?_empty
  have entries : ∀ l : List Snapshot, ∀ v ∈ l.flatMap (fun s => s.entriesOf u), v.uuid = u := by
    intro l v member
    obtain ⟨s, -, inside⟩ := List.mem_flatMap.mp member
    exact uuid_of_mem_entriesOf inside
  have same_set : ∀ v, v ∈ snaps'.flatMap (fun s => s.entriesOf u) ↔
      v ∈ snaps.flatMap (fun s => s.entriesOf u) := fun v => (perm.flatMap_right _).mem_iff
  rw [mergeAll_getElem?, mergeAll_getElem?, start]
  have left := foldl_absorb (snaps'.flatMap fun s => s.entriesOf u)
  have right := foldl_absorb (snaps.flatMap fun s => s.entriesOf u)
  have uuid := foldl_absorb_uuid _ u (entries snaps') none (fun v stored => by cases stored)
  have uuid' := foldl_absorb_uuid _ u (entries snaps) none (fun v stored => by cases stored)
  revert left right uuid uuid'
  cases (snaps'.flatMap fun s => s.entriesOf u).foldl (fun held v => some (absorb held v)) none with
  | none =>
    intro left right _ _
    have empty : snaps'.flatMap (fun s => s.entriesOf u) = [] := left
    have empty' : snaps.flatMap (fun s => s.entriesOf u) = [] := by
      rw [List.eq_nil_iff_forall_not_mem] at empty ⊢
      exact fun v member => empty v ((same_set v).mpr member)
    rw [empty, empty']
    exact ⟨fun _ => rfl, fun _ => rfl⟩
  | some v =>
    cases (snaps.flatMap fun s => s.entriesOf u).foldl (fun held v => some (absorb held v)) none with
    | none =>
      intro left right _ _
      have empty : snaps.flatMap (fun s => s.entriesOf u) = [] := right
      obtain ⟨w, first, -⟩ := (left : Summary _ v).champion
      have member := (same_set w).mp (List.argmax_mem first)
      rw [empty] at member
      cases member
    | some v' =>
      intro left right uuid uuid'
      obtain ⟨marks, w, first, -, properties⟩ := (left : Summary _ v)
      obtain ⟨marks', w', first', -, properties'⟩ := (right : Summary _ v')
      have joined : v.marks = v'.marks := by
        rw [marks, marks', foldl_sup_congr _ _ _ _ same_set]
      obtain ⟨add, remove⟩ := marks_inj _ _ _ _ joined
      have filed := (uuid v rfl).trans (uuid' v' rfl).symm
      rw [first, first', Option.map_some, Option.map_some, Option.some.injEq, Option.some.injEq,
        ← properties, ← properties']
      constructor
      · exact congrArg Vertex.properties
      · intro payload
        cases v
        cases v'
        simp_all

/-! ## Order independence -/

/-- Two of the snapshots hold an entry of vertex `u` that nothing outranks, with
different property maps. -/
def Contested (snaps : List Snapshot) (u : String) : Prop :=
  ∃ s ∈ snaps, ∃ s' ∈ snaps, ∃ v v', Leads Vertex.rank (fun s => s.entriesOf u) snaps s v ∧
    Leads Vertex.rank (fun s => s.entriesOf u) snaps s' v' ∧ v.properties ≠ v'.properties

/-- Merging some snapshots into an empty replica leaves the same vertices in every
order exactly when no vertex is contested between two of them. -/
theorem merge_order_irrelevant_iff (table : CaseTable) (generated clientID : String)
    (initialClock : Int) (snaps : List Snapshot) :
    (∀ snaps' : List Snapshot, snaps'.Perm snaps →
        (mergeAll table (newGraphCRDT generated clientID initialClock) snaps').vertices =
          (mergeAll table (newGraphCRDT generated clientID initialClock) snaps).vertices) ↔
      ∀ u, ¬Contested snaps u := by
  have settled : ∀ u, (∀ snaps' : List Snapshot, snaps'.Perm snaps →
      (mergeAll table (newGraphCRDT generated clientID initialClock) snaps').vertices[u]? =
        (mergeAll table (newGraphCRDT generated clientID initialClock) snaps).vertices[u]?) ↔ ¬Contested snaps u := by
    intro u
    have agree := argmax_flatMap_perm_iff Vertex.rank (fun s : Snapshot => s.entriesOf u)
      Vertex.properties snaps
    unfold Contested
    push Not
    constructor
    · intro same s member s' member' v v' leads leads'
      refine agree.mp (fun snaps' perm => ?_) s member s' member' v v' leads leads'
      exact (mergeAll_entry_eq_iff generated clientID initialClock perm u).mp (same snaps' perm)
    · intro same snaps' perm
      exact (mergeAll_entry_eq_iff generated clientID initialClock perm u).mpr (agree.mpr same snaps' perm)
  constructor
  · intro same u
    exact (settled u).mp fun snaps' perm => by rw [same snaps' perm]
  · intro uncontested snaps' perm
    exact Std.ExtTreeMap.ext_getElem? fun {u} => (settled u).mpr (uncontested u) snaps' perm

/-- Two entries of one write whose payloads read alike to the tie-break. -/
def duplicated (props : Properties) : Snapshot where
  clientID := "edge-1"
  lamportClock := 1
  vertices := [{ uuid := "pump", properties := props
                 addTimeline := (∅ : Timeline).insert "edge-1" 1 }]
  edges := []

/-- One key whose value holds separators, and two plain keys. -/
theorem merge_order_matters :
    ¬∀ snaps : List Snapshot, ∀ snaps' : List Snapshot, snaps'.Perm snaps →
      (mergeAll asciiCase (newGraphCRDT "replica-0" "hub" 0) snaps').vertices =
        (mergeAll asciiCase (newGraphCRDT "replica-0" "hub" 0) snaps).vertices := by
  intro same
  have swapped := same
    [duplicated ((∅ : Properties).insert "a" "b\u001fc\u001fd"),
      duplicated (((∅ : Properties).insert "a" "b").insert "c" "d")]
    [duplicated (((∅ : Properties).insert "a" "b").insert "c" "d"),
      duplicated ((∅ : Properties).insert "a" "b\u001fc\u001fd")] (List.Perm.swap _ _ _)
  have payload := congrArg (fun m => (m["pump"]?).map fun v => v.properties.toList) swapped
  exact absurd payload (by decide +kernel)

/-! ## Properties without separators -/

def Properties.SeparatorFree (props : Properties) : Prop :=
  ∀ entry ∈ props.toList, keySeparator ∉ entry.1.toList ∧ keySeparator ∉ entry.2.toList

theorem toList_canonicalProperties (props : Properties) :
    (canonicalProperties props).toList = props.toList.flatMap fun entry =>
      entry.1.toList ++ keySeparator :: (entry.2.toList ++ keySeparator :: []) := by
  have each : ∀ (l : List (String × String)) (b : String),
      (l.foldl (fun b entry => b ++ entry.1 ++ String.singleton keySeparator ++ entry.2 ++
        String.singleton keySeparator) b).toList =
      b.toList ++ l.flatMap fun entry =>
        entry.1.toList ++ keySeparator :: (entry.2.toList ++ keySeparator :: []) := by
    intro l
    induction l with
    | nil => simp
    | cons entry rest ih =>
      intro b
      rw [List.foldl_cons, ih]
      simp only [String.toList_append, String.toList_singleton, List.append_assoc,
        List.flatMap_cons, List.cons_append, List.nil_append]
  exact each props.toList ""

/-- Without separators in keys and values the encoding tells property maps apart. -/
theorem canonicalProperties_inj {props props' : Properties} (free : props.SeparatorFree)
    (free' : props'.SeparatorFree)
    (same : canonicalProperties props = canonicalProperties props') : props = props' := by
  have lists := congrArg String.toList same
  rw [toList_canonicalProperties, toList_canonicalProperties] at lists
  apply Std.ExtTreeMap.toList_inj.mp
  unfold Properties.SeparatorFree at free free'
  revert free free' lists
  generalize props.toList = l
  generalize props'.toList = l'
  induction l generalizing l' with
  | nil =>
    intro _ _ lists
    cases l' with
    | nil => rfl
    | cons entry rest => simp at lists
  | cons entry rest ih =>
    intro free free' lists
    cases l' with
    | nil => simp at lists
    | cons entry' rest' =>
      obtain ⟨key, value⟩ := free entry List.mem_cons_self
      obtain ⟨key', value'⟩ := free' entry' List.mem_cons_self
      simp only [List.flatMap_cons, List.append_assoc, List.cons_append, List.nil_append] at lists
      obtain ⟨keys, tail⟩ := append_cons_inj_of_not_mem _ _ _ _ key key' lists
      obtain ⟨values, tail⟩ := append_cons_inj_of_not_mem _ _ _ _ value value' tail
      rw [ih rest' (fun e member => free e (List.mem_cons_of_mem entry member))
        (fun e member => free' e (List.mem_cons_of_mem entry' member)) tail]
      rw [Prod.ext (String.toList_injective keys) (String.toList_injective values)]

/-- No vertex is contested where no property holds a separator. -/
theorem uncontested_of_separatorFree {snaps : List Snapshot}
    (free : ∀ s ∈ snaps, ∀ v ∈ s.vertices, v.properties.SeparatorFree) (u : String) :
    ¬Contested snaps u := by
  rintro ⟨s, member, s', member', v, v', leads, leads', differ⟩
  have properties : ∀ s ∈ snaps, ∀ v ∈ s.entriesOf u, v.properties.SeparatorFree := by
    intro s member v inside
    obtain ⟨w, taken, rfl⟩ :=
      List.mem_map.mp (List.mem_filter.mp (List.mem_filter.mp inside).1).1
    exact free s member w taken
  have own := List.argmax_mem leads.1
  have own' := List.argmax_mem leads'.1
  have tied := le_antisymm (leads'.2 s member v own) (leads.2 s' member' v' own')
  have encodings := congrArg (fun rank => (ofLex rank).2) tied
  exact differ (canonicalProperties_inj (properties s member v own)
    (properties s' member' v' own') encodings)

end OpenOntology.Crdt
