import PrintPlanner.Proofs.Chain.Search
import PrintPlanner.Proofs.Reach.Sweep
import PrintPlanner.Proofs.Registry.Coherence

/-!
# Agreement of sweep and search

The sweep walks backwards along the producers and the search forwards along the filters, yet
they agree: what a sweep lists is what a chain of at most five filters leads from
(`FilterGraph.reachableSourceIds_agrees`).  Apart from the bound, the two differ in no case.
-/

set_option autoImplicit false

namespace PrintPlanner.FilterGraph

/-- The type is a registered document type from which a few filters lead to the destination;
for the destination itself this must be one filter from it to itself. -/
structure Listed (graph : FilterGraph) (source dest : MediaTypeId) : Prop where
  registered : graph.types.contains source = true
  document : graph.types.isSink source = false
  near : source ≠ dest →
    ∃ handles, graph.Walk 0 source handles dest ∧ handles.length ≤ maxReachDepth + 1
  loops : source = dest → ∃ handle filter, graph.filter? handle = some filter ∧
    filter.source = source ∧ filter.dest = dest

variable {graph : FilterGraph}

theorem Listed.within {source dest : MediaTypeId} (listed : graph.Listed source dest) :
    graph.Within (maxReachDepth + 1) source dest := by
  by_cases same : source = dest
  · exact same ▸ .refl graph _ source
  · exact listed.near same

section Coherent

variable (coherent : graph.Coherent)
include coherent

/-- What belongs into the list is a reportable producer of a type near to the destination. -/
theorem Coherent.listed_iff {source dest : MediaTypeId} :
    graph.Listed source dest ↔ graph.isReportable dest source = true ∧
      ∃ middle, source ∈ graph.producersOf middle ∧ graph.Within maxReachDepth middle dest := by
  rw [coherent.isReportable_iff]
  constructor
  · intro listed
    by_cases same : source = dest
    · have looped : source ∈ graph.producersOf dest :=
        coherent.mem_producersOf.mpr (listed.loops same)
      refine ⟨⟨listed.document, fun _ => ?_⟩, dest, looped, .refl graph _ dest⟩
      rwa [same] at looped ⊢
    · refine ⟨⟨listed.document, fun itself => absurd itself same⟩, ?_⟩
      exact (coherent.within_succ_iff.mp (listed.near same)).resolve_left same
  · rintro ⟨⟨document, itself⟩, middle, feeds, near⟩
    refine ⟨(coherent.contains_of_mem_producersOf feeds).1, document,
      fun _ => coherent.within_of_producer feeds near, ?_⟩
    rintro rfl
    exact coherent.mem_producersOf.mp (itself rfl)

/-- Nothing but the destination itself lies within some filters of an unregistered one. -/
theorem Coherent.not_listed_of_unregistered {source dest : MediaTypeId}
    (unknown : graph.types.contains dest = false) : ¬ graph.Listed source dest := by
  intro listed
  by_cases same : source = dest
  · have known := same ▸ listed.registered
    exact Bool.eq_false_iff.mp unknown known
  · have known := (coherent.contains_of_within listed.within same).2
    exact Bool.eq_false_iff.mp unknown known

/-- The list of a destination, registered or not. -/
theorem Coherent.exists_reachableSourceIds (dest : MediaTypeId) :
    ∃ sources, graph.reachableSourceIds dest = .ok sources ∧ sources.Nodup ∧
      ∀ source, source ∈ sources ↔ graph.Listed source dest := by
  unfold reachableSourceIds
  cases known : graph.types.contains dest with
  | true =>
      obtain ⟨state, swept, sound, started, settled⟩ := coherent.sweep_settles dest
      refine ⟨state.found, by simp [swept, Except.map], sound.nodup, fun source => ?_⟩
      rw [coherent.mem_found_iff sound started settled, coherent.listed_iff]
  | false =>
      refine ⟨[], rfl, List.nodup_nil, fun source => ?_⟩
      simpa using coherent.not_listed_of_unregistered known

/-- A search succeeds when it has candidates, in either mode. -/
theorem Coherent.exists_chain_iff {source dest : MediaTypeId} {size : UInt64}
    (mode : SearchMode) :
    (∃ chain, graph.resolveChain source size dest mode = .ok (some chain)) ↔
      ∃ handles, handles ∈ graph.candidates source size dest := by
  rw [coherent.resolveChain_eq]
  constructor
  · rintro ⟨chain, found⟩
    obtain ⟨handles, chosen, _⟩ := Option.map_eq_some_iff.mp (Except.ok.inj found)
    exact ⟨handles, select_mem chosen⟩
  · rintro ⟨handles, candidate⟩
    cases chosen : graph.select mode (graph.candidates source size dest) with
    | none => exact absurd (select_eq_none_iff.mp chosen) (List.ne_nil_of_mem candidate)
    | some best => exact ⟨graph.chainOf best, rfl⟩

/-- A document type is listed exactly when the search finds a chain from it, in whichever mode,
and few filters are enough. -/
theorem Coherent.listed_iff_exists_chain {source dest : MediaTypeId} (mode : SearchMode) :
    graph.Listed source dest ↔ graph.types.isSink source = false ∧
      (∃ chain, graph.resolveChain source 0 dest mode = .ok (some chain)) ∧
      graph.Within (maxReachDepth + 1) source dest := by
  rw [coherent.exists_chain_iff mode]
  constructor
  · intro listed
    refine ⟨listed.document, ?_, listed.within⟩
    by_cases same : source = dest
    · subst same
      obtain ⟨handle, filter, live, start, arrives⟩ := listed.loops rfl
      exact ⟨[handle], coherent.mem_candidates_self.mpr
        ⟨handle, filter, rfl, live, start, arrives, filter.accepts_zero⟩⟩
    · obtain ⟨handles, walk, _⟩ := listed.within
      obtain ⟨chain, _, simple⟩ := walk.exists_simple same
      have known := coherent.contains_of_within listed.within same
      exact ⟨chain, (coherent.mem_candidates same).mpr ⟨known, simple⟩⟩
  · rintro ⟨document, ⟨handles, candidate⟩, near⟩
    by_cases same : source = dest
    · subst same
      obtain ⟨handle, filter, _, live, start, arrives, _⟩ :=
        coherent.mem_candidates_self.mp candidate
      exact ⟨start ▸ (coherent.registered handle filter live).1, document,
        fun apart => absurd rfl apart, fun _ => ⟨handle, filter, live, start, arrives⟩⟩
    · obtain ⟨known, _⟩ := (coherent.mem_candidates same).mp candidate
      exact ⟨known.1, document, fun _ => near, fun itself => absurd itself same⟩

/-- The set of a destination holds the media types of the listed handles, each once. -/
theorem Coherent.mem_reachableSources_of_listed {dest : MediaTypeId} {sources : List MediaTypeId}
    (listed : graph.reachableSourceIds dest = .ok sources) (nodup : sources.Nodup)
    (registered : ∀ source ∈ sources, graph.types.contains source = true) :
    ∃ set, graph.reachableSources dest = .ok set ∧ set.size = sources.length ∧
      ∀ media, media ∈ set ↔ ∃ source ∈ sources, graph.types.get? source = some media := by
  have nodupMedia : (sources.filterMap graph.types.get?).Nodup :=
    nodup.filterMap fun _ _ _ one other => coherent.types.get?_inj one other
  have distinct : (sources.filterMap graph.types.get?).Pairwise
      fun left right => ¬ compare left right = .eq :=
    nodupMedia.imp fun apart equal => apart (Std.compare_eq_iff_eq.mp equal)
  have known : ∀ source ∈ sources, (graph.types.get? source).isSome = true := fun source member =>
    Option.isSome_iff_exists.mpr (TypeRegistry.contains_iff_get?.mp (registered source member))
  refine ⟨_, by rw [reachableSources, listed]; rfl, ?_, fun media => ?_⟩
  · rw [Std.ExtTreeSet.size_ofList distinct, List.filterMap_length_eq_length.mpr known]
  · rw [Std.ExtTreeSet.mem_ofList, List.contains_iff_mem, List.mem_filterMap]

end Coherent

/-- **The sweep lists the document types from which a chain of at most five filters leads to
the destination, each once,** and the destination itself for a filter to itself.  The search
finds a chain from each of them in either mode, and it finds one from no other document type
unless all chains from there are longer.  The set of media types has as many elements. -/
theorem reachableSourceIds_agrees (reachable : graph.Reachable) (dest : MediaTypeId) :
    ∃ sources, graph.reachableSourceIds dest = .ok sources ∧ sources.Nodup ∧
      (∀ source, source ∈ sources ↔ graph.Listed source dest) ∧
      (∀ source ∈ sources, ∀ mode, ∃ chain,
        graph.resolveChain source 0 dest mode = .ok (some chain)) ∧
      (∀ source mode chain, graph.types.isSink source = false →
        graph.resolveChain source 0 dest mode = .ok (some chain) →
        graph.Within (maxReachDepth + 1) source dest → source ∈ sources) ∧
      ∃ set, graph.reachableSources dest = .ok set ∧ set.size = sources.length ∧
        ∀ media, media ∈ set ↔ ∃ source ∈ sources, graph.types.get? source = some media := by
  have coherent := reachable.coherent
  obtain ⟨sources, listed, nodup, member⟩ := coherent.exists_reachableSourceIds dest
  refine ⟨sources, listed, nodup, member, ?_, ?_, ?_⟩
  · intro source among mode
    exact ((coherent.listed_iff_exists_chain mode).mp ((member source).mp among)).2.1
  · intro source mode chain document found near
    exact (member source).mpr
      ((coherent.listed_iff_exists_chain mode).mpr ⟨document, ⟨chain, found⟩, near⟩)
  · exact coherent.mem_reachableSources_of_listed listed nodup
      fun source among => ((member source).mp among).registered

/-- HTML passes to the printer through PostScript, and into that at once or through SVG and PDF,
which are met first. -/
def shortcutEdits : List GraphEdit := [
  .addSinkType "office", .addType "application" "pdf", .addType "image" "svg",
  .addType "application" "postscript", .addType "text" "html", .addType "text" "plain",
  .addType "text" "markdown", .addFilter ⟨1⟩ ⟨0⟩ 1 "pdftoprinter",
  .addFilter ⟨2⟩ ⟨1⟩ 1 "svgtopdf", .addFilter ⟨3⟩ ⟨2⟩ 1 "pstosvg",
  .addFilter ⟨3⟩ ⟨0⟩ 1 "pstoprinter", .addFilter ⟨4⟩ ⟨3⟩ 1 "htmltops",
  .addFilter ⟨5⟩ ⟨4⟩ 1 "texttohtml", .addFilter ⟨6⟩ ⟨5⟩ 1 "mdtotext"]

/-- The graph of a shortcut into the printer. -/
def shortcut : FilterGraph := empty.after shortcutEdits

/-- Markdown is listed, although PostScript is met first where Markdown is too far away. -/
theorem listed_shortcut_iff :
    shortcut.Reachable ∧
      shortcut.reachableSourceIds ⟨0⟩ = .ok [⟨1⟩, ⟨2⟩, ⟨3⟩, ⟨4⟩, ⟨5⟩, ⟨6⟩] ∧
      ∀ source, shortcut.Listed source ⟨0⟩ ↔
        source ∈ ([⟨1⟩, ⟨2⟩, ⟨3⟩, ⟨4⟩, ⟨5⟩, ⟨6⟩] : List MediaTypeId) := by
  have reachable : shortcut.Reachable := ⟨shortcutEdits, rfl⟩
  have answer : shortcut.reachableSourceIds ⟨0⟩ = .ok [⟨1⟩, ⟨2⟩, ⟨3⟩, ⟨4⟩, ⟨5⟩, ⟨6⟩] := by
    decide +kernel
  obtain ⟨sources, same, _, member, _⟩ := reachableSourceIds_agrees reachable ⟨0⟩
  rw [answer] at same
  cases same
  exact ⟨reachable, answer, fun source => (member source).symm⟩

end PrintPlanner.FilterGraph
