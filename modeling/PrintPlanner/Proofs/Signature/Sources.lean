import PrintPlanner.Proofs.Graph.Coherence
import PrintPlanner.Proofs.Media.Text
import PrintPlanner.Signature.InboundEdge

/-!
# Sources behind inbound edges

The inbound edges of a destination tell which document types feed it, but not which printers
do, since these share one placeholder.  Two destinations with the same edges, also in graphs
one of which extends the types of the other, are fed by the same document types
(`FilterGraph.Coherent.mem_producersOf_of_inboundEdges_eq`).
-/

set_option autoImplicit false

namespace PrintPlanner

namespace InboundEdge

/-- In ascending order the same edges are the same list. -/
theorem sorted_eq_of_perm {edges others : List InboundEdge} (perm : edges.Perm others) :
    sorted edges = sorted others := by
  refine List.Perm.eq_of_pairwise (fun left right _ _ below above => ?_) (pairwise_sorted edges)
    (pairwise_sorted others) (((sorted_perm edges).trans perm).trans (sorted_perm others).symm)
  exact Std.compare_eq_iff_eq.mp (Std.OrientedCmp.isLE_antisymm below above)

/-- No document type has the text of the placeholder. -/
theorem text_ne_sinkPlaceholder {media : MediaType} (document : media.isSink = false) :
    media.text ≠ sinkPlaceholder := by
  intro same
  apply MediaType.takeWhile_text_of_not_isSink document
  rw [same]
  decide

/-- The text of a document type describes that type and nothing else. -/
theorem sourceText_eq_text_iff {types : TypeRegistry} {source : MediaTypeId}
    (registered : types.contains source = true) {media : MediaType}
    (document : media.isSink = false) :
    sourceText types source = media.text ↔ types.get? source = some media := by
  obtain ⟨stored, found⟩ := TypeRegistry.contains_iff_get?.mp registered
  simp only [sourceText, found, Option.some.injEq]
  by_cases sink : stored.isSink = true
  · rw [if_pos sink]
    constructor
    · intro same
      exact absurd same.symm (text_ne_sinkPlaceholder document)
    · rintro rfl
      exact absurd sink (Bool.eq_false_iff.mp document)
  · rw [if_neg sink, MediaType.text_injective.eq_iff]

end InboundEdge

namespace FilterGraph

variable {graph older : FilterGraph}

theorem Coherent.mem_inboundEdges (coherent : graph.Coherent) {dest : MediaTypeId}
    {edge : InboundEdge} :
    edge ∈ graph.inboundEdges dest ↔
      ∃ handle filter, (graph.filter? handle = some filter ∧ filter.dest = dest) ∧
        InboundEdge.ofFilter graph.types filter = edge := by
  rw [inboundEdges, (InboundEdge.sorted_perm _).mem_iff, List.mem_map, Prod.exists]
  simp only [coherent.mem_filtersInto]

/-- A document type feeds the destination exactly when some edge has its text. -/
theorem Coherent.exists_edge_iff (coherent : graph.Coherent) (dest : MediaTypeId)
    {media : MediaType} (document : media.isSink = false) :
    (∃ edge ∈ graph.inboundEdges dest, edge.source = media.text) ↔
      ∃ source ∈ graph.producersOf dest, graph.types.get? source = some media := by
  constructor
  · rintro ⟨edge, member, same⟩
    obtain ⟨handle, filter, ⟨live, here⟩, rfl⟩ := coherent.mem_inboundEdges.mp member
    have registered := (coherent.registered handle filter live).1
    refine ⟨filter.source, coherent.mem_producersOf.mpr ⟨handle, filter, live, rfl, here⟩, ?_⟩
    exact (InboundEdge.sourceText_eq_text_iff registered document).mp same
  · rintro ⟨source, feeds, found⟩
    obtain ⟨handle, filter, live, rfl, here⟩ := coherent.mem_producersOf.mp feeds
    have registered := (coherent.registered handle filter live).1
    refine ⟨_, coherent.mem_inboundEdges.mpr ⟨handle, filter, ⟨live, here⟩, rfl⟩, ?_⟩
    exact (InboundEdge.sourceText_eq_text_iff registered document).mpr found

/-- **Destinations with the same inbound edges are fed by the same document types.** -/
theorem Coherent.mem_producersOf_of_inboundEdges_eq (coherent : graph.Coherent)
    (olderCoherent : older.Coherent) (extension : graph.types.Extends older.types)
    {dest former : MediaTypeId} (same : graph.inboundEdges dest = older.inboundEdges former)
    {source : MediaTypeId} (document : graph.types.IsDocument source) :
    source ∈ graph.producersOf dest ↔
      source ∈ older.producersOf former ∧ older.types.IsDocument source := by
  obtain ⟨media, found, notSink⟩ := document
  have edges := coherent.exists_edge_iff dest notSink
  rw [same, olderCoherent.exists_edge_iff former notSink] at edges
  constructor
  · intro feeds
    obtain ⟨twin, twinFeeds, twinFound⟩ := edges.mpr ⟨source, feeds, found⟩
    obtain rfl := coherent.types.get?_inj (extension twin media twinFound) found
    exact ⟨twinFeeds, media, twinFound, notSink⟩
  · rintro ⟨feeds, stored, storedFound, _⟩
    have kept := extension source stored storedFound
    rw [found] at kept
    cases kept
    obtain ⟨twin, twinFeeds, twinFound⟩ := edges.mp ⟨source, feeds, storedFound⟩
    obtain rfl := coherent.types.get?_inj twinFound found
    exact twinFeeds

end FilterGraph

end PrintPlanner
