import PrintPlanner.Proofs.Graph.Tables
import PrintPlanner.Proofs.Reach.Within
import PrintPlanner.Proofs.Signature.Bytes
import PrintPlanner.Proofs.Signature.Sources
import PrintPlanner.Signature.Basic

/-!
# Changes that a signature sees

No two filters into a destination have the same source, so a filter keeps its place among the
inbound edges whatever becomes of its cost, its size limit and its program.  If one of these changes
by as much as a word of four bytes or by a single byte, the bytes that are taken in differ at that
place only, and the fingerprints differ (`FilterGraph.signature_ne_of_singleChange`).
-/

set_option autoImplicit false

namespace PrintPlanner

open Fingerprint

/-! ## One edge -/

namespace InboundEdge

/-- The edges are the same but for the cost, for one byte of the size limit, or for one byte of the
program. -/
inductive SingleChange (old : InboundEdge) : InboundEdge → Prop where
  | cost {cost : UInt32} (apart : old.cost ≠ cost) : SingleChange old { old with cost }
  | maxSize {maxSize : UInt64} (differ : DifferInOneByte (bytes64 old.maxSize) (bytes64 maxSize)) :
      SingleChange old { old with maxSize }
  | program {program : String}
      (differ : DifferInOneByte (Text.utf8 old.program) (Text.utf8 program)) :
      SingleChange old { old with program }

variable {old new edge : InboundEdge} {edges : List InboundEdge}

theorem SingleChange.source_eq (change : SingleChange old new) : new.source = old.source := by
  cases change <;> rfl

/-- The bytes of an edge show its change. -/
theorem SingleChange.separated (change : SingleChange old new) :
    Separated old.bytes new.bytes := by
  cases change with
  | cost apart =>
      refine Separated.append_right ?_ _
      exact (((separated_bytes32 apart).append_left _).append_right _).append_right _
  | maxSize differ => exact ((differ.separated.append_left _).append_right _).append_right _
  | program differ => exact (differ.separated.append_left _).append_right _

/-! ## The place of an edge -/

/-- Edges with different sources are in the order of these. -/
theorem isLE_compare_iff_of_source_ne (apart : old.source ≠ edge.source) :
    (compare old edge).isLE ↔ compare old.source edge.source = .lt := by
  show (compareLex (compareOn source) _ old edge).isLE ↔ _
  cases order : compare old.source edge.source with
  | lt => simp [compareLex, compareOn, order]
  | eq => exact absurd (Std.compare_eq_iff_eq.mp order) apart
  | gt => simp [compareLex, compareOn, order]

/-- Edges with the same source, which no other edge has, take the same place. -/
theorem insertSorted_split (same : new.source = old.source)
    (single : ∀ edge ∈ edges, old.source ≠ edge.source) :
    ∃ front back, insertSorted old edges = front ++ old :: back ∧
      insertSorted new edges = front ++ new :: back := by
  induction edges with
  | nil => exact ⟨[], [], rfl, rfl⟩
  | cons first rest ih =>
      obtain ⟨apart, singleRest⟩ := List.forall_mem_cons.mp single
      have newApart : new.source ≠ first.source := by rwa [same]
      have agree : (compare new first).isLE ↔ (compare old first).isLE := by
        rw [isLE_compare_iff_of_source_ne newApart, isLE_compare_iff_of_source_ne apart, same]
      unfold insertSorted
      by_cases below : (compare old first).isLE = true
      · rw [if_pos below, if_pos (agree.mpr below)]
        exact ⟨[], first :: rest, rfl, rfl⟩
      · rw [if_neg below, if_neg (mt agree.mp below)]
        obtain ⟨front, back, oldPlace, newPlace⟩ := ih singleRest
        exact ⟨first :: front, back, by rw [oldPlace]; rfl, by rw [newPlace]; rfl⟩

/-- A change of one edge is seen in the fingerprint of all of them. -/
theorem SingleChange.ofEdges_ne (change : SingleChange old new)
    (single : ∀ edge ∈ edges, old.source ≠ edge.source) :
    SinkSignature.ofEdges (sorted (old :: edges)) ≠ .ofEdges (sorted (new :: edges)) := by
  have singleSorted : ∀ edge ∈ sorted edges, old.source ≠ edge.source := fun edge member =>
    single edge ((sorted_perm edges).mem_iff.mp member)
  obtain ⟨front, back, oldPlace, newPlace⟩ := insertSorted_split change.source_eq singleSorted
  show SinkSignature.ofEdges (insertSorted old (sorted edges)) ≠
    .ofEdges (insertSorted new (sorted edges))
  rw [oldPlace, newPlace]
  have separated := (change.separated.append_right (back.flatMap bytes)).append_left
    (front.flatMap bytes)
  intro same
  apply separated Fingerprint.start
  simpa [SinkSignature.ofEdges, Fingerprint.ofBytes] using congrArg SinkSignature.hash same

end InboundEdge

/-! ## The filters into a destination -/

namespace FilterGraph

open InboundEdge

/-- The filters into a destination in order of creation, each described by the name of its source,
its cost, its size limit and its program. -/
def namedEdges (graph : FilterGraph) (dest : MediaTypeId) : List InboundEdge :=
  (graph.filters.filter (·.2.dest = dest)).map fun entry =>
    { source := ((graph.types.get? entry.2.source).map MediaType.text).getD ""
      cost := entry.2.cost
      maxSize := entry.2.maxSize
      program := entry.2.program }

variable {graph other : FilterGraph} {dest target : MediaTypeId}

section Coherent

variable (coherent : graph.Coherent)
include coherent

/-- Where no printer's type is a source, the placeholder does not occur. -/
theorem Coherent.inboundEdges_eq_sorted_namedEdges
    (documents : ∀ source ∈ graph.producersOf dest, graph.types.isSink source = false) :
    graph.inboundEdges dest = sorted (graph.namedEdges dest) := by
  rw [inboundEdges, coherent.filtersInto_eq, namedEdges]
  congr 1
  refine List.map_congr_left fun entry member => ?_
  obtain ⟨stored, here⟩ := List.mem_filter.mp member
  have live := coherent.mem_filters.mp stored
  have feeds : entry.2.source ∈ graph.producersOf dest :=
    coherent.mem_producersOf.mpr ⟨entry.1, entry.2, live, rfl, by simpa using here⟩
  obtain ⟨media, found⟩ :=
    TypeRegistry.contains_iff_get?.mp (coherent.registered _ _ live).1
  have document := documents _ feeds
  simp only [TypeRegistry.isSink, found, Option.any_some] at document
  simp [ofFilter, sourceText, found, document]

/-- Filters into the same destination have sources of different names. -/
theorem Coherent.nodup_map_source_namedEdges (dest : MediaTypeId) :
    ((graph.namedEdges dest).map InboundEdge.source).Nodup := by
  have names : (graph.namedEdges dest).map InboundEdge.source =
      (graph.producersOf dest).map fun source =>
        ((graph.types.get? source).map MediaType.text).getD "" := by
    simp [namedEdges, coherent.producersOf_eq]
  rw [names]
  refine (coherent.nodup_producersOf dest).map_on fun source feeds twin twinFeeds same => ?_
  obtain ⟨media, found⟩ :=
    TypeRegistry.contains_iff_get?.mp (coherent.contains_of_mem_producersOf feeds).1
  obtain ⟨twinMedia, twinFound⟩ :=
    TypeRegistry.contains_iff_get?.mp (coherent.contains_of_mem_producersOf twinFeeds).1
  simp only [found, twinFound, Option.map_some, Option.getD_some] at same
  rw [MediaType.text_injective same] at found
  exact coherent.types.get?_inj found twinFound

end Coherent

/-- **A signature sees every single change.**  If document types alone are converted into two
destinations, in the same or in different graphs, and their filters are described alike but for one,
whose descriptions differ in the cost, in one byte of the size limit or in one byte of the program,
then the signatures differ. -/
theorem signature_ne_of_singleChange (reachable : graph.Reachable)
    (otherReachable : other.Reachable)
    (documents : ∀ source ∈ graph.producersOf dest, graph.types.isSink source = false)
    (otherDocuments : ∀ source ∈ other.producersOf target, other.types.isSink source = false)
    {old new : InboundEdge} {shared : List InboundEdge}
    (described : (graph.namedEdges dest).Perm (old :: shared))
    (otherDescribed : (other.namedEdges target).Perm (new :: shared))
    (change : SingleChange old new) :
    graph.signature dest ≠ other.signature target := by
  have coherent := reachable.coherent
  have nodup := (described.map InboundEdge.source).nodup (coherent.nodup_map_source_namedEdges dest)
  have single : ∀ edge ∈ shared, old.source ≠ edge.source := fun edge member same =>
    (List.nodup_cons.mp nodup).1 (List.mem_map.mpr ⟨edge, member, same.symm⟩)
  rw [signature, signature, coherent.inboundEdges_eq_sorted_namedEdges documents,
    otherReachable.coherent.inboundEdges_eq_sorted_namedEdges otherDocuments,
    sorted_eq_of_perm described, sorted_eq_of_perm otherDescribed]
  exact change.ofEdges_ne single

/-- Text and PDF are printed, text by a filter that varies. -/
def printed (cost : UInt32) (maxSize : UInt64) (program : String) : FilterGraph := empty.after [
  .addType "text" "plain", .addType "application" "pdf", .addSinkType "laser",
  .addLimitedFilter ⟨0⟩ ⟨2⟩ cost maxSize program, .addFilter ⟨1⟩ ⟨2⟩ 20 "pdftolaser"]

/-- The filter that varies comes second among the inbound edges.  Its cost is changed in all bytes,
its limit in the sixth byte, and its program in the last one. -/
theorem signature_printed_ne :
    let plain := printed 10 0 "textto"
    (plain.Reachable ∧ (∀ source ∈ plain.producersOf ⟨2⟩, plain.types.isSink source = false) ∧
        plain.inboundEdges ⟨2⟩ =
          [⟨"application/pdf", 20, 0, "pdftolaser"⟩, ⟨"text/plain", 10, 0, "textto"⟩]) ∧
      plain.signature ⟨2⟩ ≠ (printed 0xfedcba98 0 "textto").signature ⟨2⟩ ∧
      plain.signature ⟨2⟩ ≠ (printed 10 0x4b0000000000 "textto").signature ⟨2⟩ ∧
      plain.signature ⟨2⟩ ≠ (printed 10 0 "texttt").signature ⟨2⟩ := by
  intro plain
  have reachable : plain.Reachable := ⟨_, rfl⟩
  have documents : ∀ source ∈ plain.producersOf ⟨2⟩, plain.types.isSink source = false := by
    decide +kernel
  have changed : ∀ {cost maxSize program},
      InboundEdge.SingleChange ⟨"text/plain", 10, 0, "textto"⟩
        ⟨"text/plain", cost, maxSize, program⟩ →
      (∀ source ∈ (printed cost maxSize program).producersOf ⟨2⟩,
        (printed cost maxSize program).types.isSink source = false) →
      ((printed cost maxSize program).namedEdges ⟨2⟩).Perm
        [⟨"text/plain", cost, maxSize, program⟩, ⟨"application/pdf", 20, 0, "pdftolaser"⟩] →
      plain.signature ⟨2⟩ ≠ (printed cost maxSize program).signature ⟨2⟩ :=
    fun change otherDocuments described =>
      signature_ne_of_singleChange reachable ⟨_, rfl⟩ documents otherDocuments
        (.of_eq (by decide +kernel)) described change
  exact ⟨⟨reachable, documents, by decide +kernel⟩,
    changed (.cost (by decide)) (by decide +kernel) (.of_eq (by decide +kernel)),
    changed (.maxSize (by decide)) (by decide +kernel) (.of_eq (by decide +kernel)),
    changed (.program (by decide +kernel)) (by decide +kernel) (.of_eq (by decide +kernel))⟩

end FilterGraph

end PrintPlanner
