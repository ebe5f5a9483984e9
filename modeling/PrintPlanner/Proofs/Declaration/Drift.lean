import PrintPlanner.Proofs.Declaration.Loader

/-!
# Fixtures against loaders

From the same valid declarations a fixture and a loader make graphs with the same types and filters
under the same handles, though one registers types as it goes and the other all of them up front.
Only size limits may drift apart (`Declaration.SameButLimits`).  A loader states a limit with every
filter, while a fixture states none where none is declared and so lets an earlier limit stand.  The
limit of a pair differs exactly if such a limit has outlived the declaration it came with
(`Declaration.build_against_loader`).
-/

set_option autoImplicit false

namespace PrintPlanner

namespace FilterGraph

variable {built loaded : FilterGraph} {names : List String} {lines : List FilterLine}

section Twins

variable (represents : built.Represents names lines)
  (twinRepresents : loaded.Represents names (lines.map FilterLine.stated))
include represents twinRepresents

theorem Represents.types_eq : built.types.types = loaded.types.types := by
  rw [← Array.toList_inj]
  exact List.map_injective_iff.mpr MediaType.text_injective
    (represents.texts.trans twinRepresents.texts.symm)

/-- The filters under one handle are for the same pair, and one is made of the lines for the pair
and the other of the same lines with their limits stated. -/
theorem Represents.settles_twin {handle : FilterId} {filter twin : Filter}
    (live : built.filter? handle = some filter) (twinLive : loaded.filter? handle = some twin) :
    ∃ ends, built.types.Joins filter ends ∧
      Settles filter.endpoints (FilterLine.offers lines ends handle) filter ∧
      Settles filter.endpoints ((FilterLine.offers lines ends handle).map Offer.stated) twin := by
  have sameTypes := represents.types_eq twinRepresents
  obtain ⟨ends, listed, joins, settles⟩ := represents.exists_pair live
  obtain ⟨other, otherListed, twinJoins, twinSettles⟩ := twinRepresents.exists_pair twinLive
  rw [FilterLine.pairs_map_stated, listed] at otherListed
  cases otherListed
  rw [FilterLine.offers_map_stated] at twinSettles
  have sameText : ∀ type, loaded.types.text? type = built.types.text? type := by
    intro type
    rw [TypeRegistry.text?, TypeRegistry.text?, TypeRegistry.get?, TypeRegistry.get?, sameTypes]
  have coherent := represents.coherent.types
  have sameEnds : twin.endpoints = filter.endpoints := by
    refine Filter.endpoints_eq_iff.mpr ⟨?_, ?_⟩
    · exact coherent.text?_inj ((sameText _).symm.trans twinJoins.source) joins.source
    · exact coherent.text?_inj ((sameText _).symm.trans twinJoins.dest) joins.dest
  rw [sameEnds] at twinSettles
  exact ⟨ends, joins, settles, twinSettles⟩

/-- **The filters are the same under the same handles,** apart from their limits. -/
theorem Represents.map_filters_eq :
    built.filters.map (fun entry =>
        (entry.1, entry.2.endpoints, entry.2.cost, entry.2.program)) =
      loaded.filters.map fun entry =>
        (entry.1, entry.2.endpoints, entry.2.cost, entry.2.program) := by
  apply List.ext_getElem?
  intro position
  rw [List.getElem?_map, List.getElem?_map]
  have here := represents.listed_at position
  have there := twinRepresents.listed_at position
  rw [FilterLine.pairs_map_stated] at there
  obtain ⟨ends, filter, listed, stored, live, _⟩ | ⟨beyond, nothing⟩ := here
  · obtain ⟨_, twin, _, twinStored, twinLive, _⟩ | ⟨beyond, _⟩ := there
    · obtain ⟨_, _, settles, twinSettles⟩ := represents.settles_twin twinRepresents live twinLive
      have same := settles.twin_eq twinSettles
      rw [stored, twinStored, Option.map_some, Option.map_some, same]
      rfl
    · rw [listed] at beyond
      cases beyond
  · obtain ⟨_, _, listed, _⟩ | ⟨_, twinNothing⟩ := there
    · rw [beyond] at listed
      cases listed
    · rw [nothing, twinNothing]

end Twins

end FilterGraph

namespace Declaration

/-- The graphs agree on everything but size limits, and the declarations tell which of these
differ. -/
structure SameButLimits (declarations : List Declaration) (built loaded : FilterGraph) : Prop where
  types : built.types.types = loaded.types.types
  filters : built.filters.map (fun entry =>
      (entry.1, entry.2.endpoints, entry.2.cost, entry.2.program)) =
    loaded.filters.map fun entry =>
      (entry.1, entry.2.endpoints, entry.2.cost, entry.2.program)
  /-- Every pair has its filter under the handle of its place.  The limits differ exactly if the
  last declaration that improved the filter states none and the last limit stated with an
  improvement is not zero, and then the one graph keeps that limit and the other has none. -/
  limits : ∀ handle ends, (FilterLine.pairs (lines declarations))[handle.index]? = some ends →
    ∃ filter twin, built.filter? handle = some filter ∧ loaded.filter? handle = some twin ∧
      built.types.Joins filter ends ∧
      (filter.maxSize ≠ twin.maxSize ↔
        ∃ limit, LimitOutlives (FilterLine.offers (lines declarations) ends handle) limit) ∧
      ∀ limit, LimitOutlives (FilterLine.offers (lines declarations) ends handle) limit →
        filter.maxSize = limit ∧ twin.maxSize = 0

variable {declarations : List Declaration} {built : FilterGraph}

theorem sameButLimits (builds : Fixture.build (declarations.map .declare) ∅ = .ok built)
    (loads : (loadAll declarations ∅).1 = .ok ()) :
    SameButLimits declarations built (loadAll declarations ∅).2 := by
  have represents := (Fixture.represents_build builds).2
  have twinRepresents := represents_loadAll loads
  refine ⟨represents.types_eq twinRepresents, represents.map_filters_eq twinRepresents, ?_⟩
  intro handle ends listed
  obtain ⟨filter, live, joins, _⟩ := represents.stored handle ends listed
  rw [← FilterLine.pairs_map_stated] at listed
  obtain ⟨twin, twinLive, _⟩ := twinRepresents.stored handle ends listed
  obtain ⟨other, otherJoins, settles, twinSettles⟩ :=
    represents.settles_twin twinRepresents live twinLive
  obtain rfl : other = ends := otherJoins.unique joins
  exact ⟨filter, twin, live, twinLive, joins, settles.maxSize_ne_iff twinSettles,
    fun limit outlives => settles.maxSize_of_outlives twinSettles outlives⟩

/-- **A fixture and a loader make the same graph of valid declarations, but for limits.**  Both
succeed unless there are more types or pairs than handles. -/
theorem build_against_loader (valid : Valid declarations) :
    let load := (DeclarationSource.listed declarations).loader.load ∅
    ((∃ built, Fixture.build (declarations.map .declare) ∅ = .ok built) ↔ Fits declarations) ∧
      (load.1 = .ok () ↔ Fits declarations) ∧
      ∀ built, Fixture.build (declarations.map .declare) ∅ = .ok built →
        SameButLimits declarations built load.2 := by
  have builds_iff := Fixture.exists_build_iff.trans (and_iff_right valid)
  have loads_iff := loadAll_succeeds_iff.trans (and_iff_right valid)
  refine ⟨builds_iff, loads_iff, fun built builds => ?_⟩
  exact sameButLimits builds (loads_iff.mpr (builds_iff.mp ⟨built, builds⟩))

/-- Text becomes PDF slowly and up to a size at first, and then fast without a word about sizes. -/
def driftingDeclarations : List Declaration := [
  .limitedFilter "text/plain" "application/pdf" 9 100 "slow", .mediaType "image/png",
  .filter "Text/Plain" "application/PDF" 4 "fast", .filter "image/png" "text/plain" 1 "ocr"]

/-- The fixture keeps the old limit of the fast filter, and the loader drops it. -/
theorem build_against_loader_drifting :
    let load := (DeclarationSource.listed driftingDeclarations).loader.load ∅
    (Valid driftingDeclarations ∧ Fits driftingDeclarations) ∧
      ∃ built, Fixture.build (driftingDeclarations.map .declare) ∅ = .ok built ∧
        SameButLimits driftingDeclarations built load.2 ∧
        built.filters = [(⟨0⟩, ⟨⟨0⟩, ⟨1⟩, 4, 100, "fast"⟩), (⟨1⟩, ⟨⟨2⟩, ⟨0⟩, 1, 0, "ocr"⟩)] ∧
        load.2.filters = [(⟨0⟩, ⟨⟨0⟩, ⟨1⟩, 4, 0, "fast"⟩), (⟨1⟩, ⟨⟨2⟩, ⟨0⟩, 1, 0, "ocr"⟩)] := by
  have valid : Valid driftingDeclarations := by decide +kernel
  have fits : Fits driftingDeclarations := by decide +kernel
  obtain ⟨builds_iff, _, same⟩ := build_against_loader valid
  obtain ⟨built, builds⟩ := builds_iff.mpr fits
  have filters : (Fixture.build (driftingDeclarations.map .declare) ∅).toOption.map
      FilterGraph.filters =
        some [(⟨0⟩, ⟨⟨0⟩, ⟨1⟩, 4, 100, "fast"⟩), (⟨1⟩, ⟨⟨2⟩, ⟨0⟩, 1, 0, "ocr"⟩)] := by
    decide +kernel
  rw [builds] at filters
  exact ⟨⟨valid, fits⟩, built, builds, same built builds, Option.some.inj filters,
    by decide +kernel⟩

end Declaration

end PrintPlanner
