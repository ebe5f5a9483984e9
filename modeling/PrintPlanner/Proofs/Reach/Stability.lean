import PrintPlanner.Proofs.Reach.Within

/-!
# What further filters leave as it was

New filters into a type change what leads to that type and to the types beyond it.  Where no
document type lies beyond it, everything that leads to a document type stays as near as it was
(`FilterGraph.Coherent.undisturbed`).
-/

set_option autoImplicit false

namespace PrintPlanner.FilterGraph

/-- Some filters lead from the type to a document type. -/
def MakesDocument (graph : FilterGraph) (source : MediaTypeId) : Prop :=
  ∃ place bound, graph.types.IsDocument place ∧ graph.Within bound source place

/-- No document type is made from a type that no filter leaves. -/
theorem Coherent.not_makesDocument {graph : FilterGraph} (coherent : graph.Coherent)
    {source : MediaTypeId} (unused : graph.filtersFrom source = [])
    (notDocument : ¬ graph.types.IsDocument source) : ¬ graph.MakesDocument source := by
  rintro ⟨place, bound, document, handles, walk, _⟩
  cases walk with
  | nil => exact notDocument document
  | @cons handle filter _ _ live _ _ =>
      have leaves := coherent.mem_filtersFrom.mpr ⟨live, rfl⟩
      rw [unused] at leaves
      contradiction

/-- The graph has all types of an older one, and the same types are as near to each of its
document types. -/
structure Undisturbed (graph older : FilterGraph) : Prop where
  types : graph.types.Extends older.types
  within_iff : ∀ place, older.types.IsDocument place → ∀ bound source,
    graph.Within bound source place ↔ older.Within bound source place

theorem Undisturbed.refl (graph : FilterGraph) : graph.Undisturbed graph :=
  ⟨.refl graph.types, fun _ _ _ _ => Iff.rfl⟩

theorem Undisturbed.trans {newest newer older : FilterGraph} (second : newest.Undisturbed newer)
    (first : newer.Undisturbed older) : newest.Undisturbed older := by
  refine ⟨second.types.trans first.types, fun place document bound source => ?_⟩
  rw [second.within_iff place (first.types.isDocument document),
    first.within_iff place document]

/-- A document type that leads to an old document type where nothing was disturbed is old. -/
theorem Undisturbed.isDocument_of_within {graph older : FilterGraph}
    (undisturbed : graph.Undisturbed older) (olderCoherent : older.Coherent)
    {source place : MediaTypeId} (target : older.types.IsDocument place) {bound : Nat}
    (near : older.Within bound source place) (document : graph.types.IsDocument source) :
    older.types.IsDocument source := by
  by_cases same : source = place
  · exact same ▸ target
  · have registered := (olderCoherent.contains_of_within near same).1
    obtain ⟨media, found⟩ := TypeRegistry.contains_iff_get?.mp registered
    obtain ⟨stored, storedFound, notSink⟩ := document
    rw [undisturbed.types source media found] at storedFound
    cases storedFound
    exact ⟨media, found, notSink⟩

/-- Outside the given type, the graph has the same producers as an older one. -/
def SameProducersApart (graph older : FilterGraph) (target : MediaTypeId) : Prop :=
  ∀ place, place ≠ target → graph.producersOf place = older.producersOf place

variable {graph older : FilterGraph}

/-- Whatever the type does not lead to is as near to everything as it was. -/
theorem SameProducersApart.within_iff {target : MediaTypeId}
    (same : graph.SameProducersApart older target) (coherent : graph.Coherent)
    (olderCoherent : older.Coherent) {place : MediaTypeId}
    (away : ∀ bound, ¬ older.Within bound target place) (bound : Nat) (source : MediaTypeId) :
    graph.Within bound source place ↔ older.Within bound source place := by
  induction bound generalizing place with
  | zero => rw [within_zero_iff, within_zero_iff]
  | succ bound ih =>
      have apart : place ≠ target := by
        rintro rfl
        exact away 0 (.refl older 0 place)
      rw [coherent.within_succ_iff_back, olderCoherent.within_succ_iff_back]
      rw [same place apart]
      refine or_congr Iff.rfl (exists_congr fun middle => and_congr_left fun feeds => ?_)
      apply ih
      intro longer near
      exact away (longer + 1) (olderCoherent.within_of_producer_back near feeds)

/-- **New filters into a type that makes no document type disturb no document type.** -/
theorem Coherent.undisturbed (coherent : graph.Coherent) (olderCoherent : older.Coherent)
    {target : MediaTypeId} (extension : graph.types.Extends older.types)
    (same : graph.SameProducersApart older target) (final : ¬ older.MakesDocument target) :
    graph.Undisturbed older := by
  refine ⟨extension, fun place document => same.within_iff coherent olderCoherent ?_⟩
  exact fun bound near => final ⟨place, bound, document, near⟩

/-- An offered filter concerns the producers of its own destination only. -/
theorem Coherent.sameProducersApart_of_offerFilter (coherent : graph.Coherent)
    {changed : FilterGraph} {source dest : MediaTypeId} {cost : UInt32} {limit : Option UInt64}
    {program : String} {handle : FilterId}
    (offered : graph.offerFilter source dest cost limit program = .ok (handle, changed)) :
    changed.SameProducersApart graph dest := by
  intro place apart
  have changedCoherent := coherent.offerFilter offered
  obtain ⟨_, ⟨filter, live, _, _, rfl⟩ | ⟨_, _, _, rfl⟩⟩ := coherent.offerFilter_cases offered
  · have ends := filter.endpoints_improve cost limit program
    rw [producersOf, producersOf, changedCoherent.adjacency_eq, coherent.adjacency_eq,
      ofFilters_eq_foldl_links, ofFilters_eq_foldl_links, links_setSlot live ends]
  · rw [changedCoherent.producersOf_eq, coherent.producersOf_eq, filters_pushSlot,
      List.filter_append, List.filter_singleton, decide_eq_false (Ne.symm apart)]
    simp

end PrintPlanner.FilterGraph
