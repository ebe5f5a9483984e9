import PrintPlanner.Proofs.Signature.Sharing
import PrintPlanner.Query.Basic

/-!
# Searches run to the end

The tables of a search have as many places as there are types when it begins, while its filters
may have been added long before.  In a reachable graph every filter still connects registered
types, so neither the chain search nor the sweep ever looks outside its tables, and signatures
are made of the texts of registered types only (`FilterGraph.searchesEnd_after`).

A chain search that ends would end in the same way with more nested steps to spend
(`ChainQuery.search_eq_of_le`).  Hence as many as there are types bound the nesting of the search,
whatever cycles the filters form.
-/

set_option autoImplicit false

namespace PrintPlanner

namespace ChainQuery

variable {query : ChainQuery}

/-! ## Nested steps -/

/-- Two ways of exploring that agree wherever the first does not go too deep give the same scan,
unless that goes too deep. -/
theorem scan_eq_of_agree
    {explore further : List MediaTypeId → MediaTypeId → Except SearchFault (Option FilterChain)}
    (agree : ∀ path current, explore path current ≠ .error .pathTooLong →
      further path current = explore path current)
    {path : List MediaTypeId} {entries : List (FilterId × Filter)} {best : Option FilterChain}
    (finished : query.scan explore path entries best ≠ .error .pathTooLong) :
    query.scan further path entries best = query.scan explore path entries best := by
  induction entries generalizing best with
  | nil => rfl
  | cons entry rest ih =>
      obtain ⟨handle, filter⟩ := entry
      simp only [scan] at finished ⊢
      split
      · rename_i arrives
        rw [if_pos arrives] at finished
        exact ih finished
      rename_i onward
      rw [if_neg onward] at finished
      split
      · rfl
      rename_i known
      rw [if_neg known] at finished
      split
      · rename_i skipped
        rw [if_pos skipped] at finished
        exact ih finished
      rename_i entered
      rw [if_neg entered] at finished
      -- The only case that explores: the nested search has not run out of steps either.
      have nested : explore (filter.dest :: path) filter.dest ≠ .error .pathTooLong := by
        intro broken
        rw [broken] at finished
        exact finished rfl
      rw [agree _ _ nested]
      cases answer : explore (filter.dest :: path) filter.dest with
      | error fault => rfl
      | ok tail =>
          rw [answer] at finished
          cases tail with
          | none => exact ih finished
          | some tail =>
              simp only at finished ⊢
              split
              · rename_i better
                rw [if_pos better] at finished
                split
                · rfl
                · rename_i goesOn
                  rw [if_neg goesOn] at finished
                  exact ih finished
              · rename_i worse
                rw [if_neg worse] at finished
                exact ih finished

/-- **More nested steps change no search that has not run out of them.** -/
theorem search_eq_of_le {steps larger : Nat} (more : steps ≤ larger) {path : List MediaTypeId}
    {current : MediaTypeId}
    (finished : query.search steps path current ≠ .error .pathTooLong) :
    query.search larger path current = query.search steps path current := by
  induction steps generalizing larger path current with
  | zero => exact absurd rfl finished
  | succ steps ih =>
      obtain ⟨larger, rfl⟩ : ∃ fewer, larger = fewer + 1 := ⟨larger - 1, by omega⟩
      simp only [search] at finished ⊢
      split
      · rfl
      · rename_i goesOn
        rw [if_neg goesOn] at finished
        exact scan_eq_of_agree (fun _ _ => ih (Nat.le_of_succ_le_succ more)) finished

end ChainQuery

namespace FilterGraph

variable {graph : FilterGraph}

/-! ## What a search relies on -/

/-- Filters connect handles below the number of types. -/
theorem Coherent.index_lt (coherent : graph.Coherent) {handle : FilterId} {filter : Filter}
    (live : graph.filter? handle = some filter) :
    filter.source.index < graph.types.size ∧ filter.dest.index < graph.types.size := by
  obtain ⟨source, dest⟩ := coherent.registered handle filter live
  exact ⟨of_decide_eq_true source, of_decide_eq_true dest⟩

/-- The text of an inbound edge is that of a registered type, or the placeholder of printers. -/
theorem Coherent.exists_media_of_mem_inboundEdges (coherent : graph.Coherent)
    {dest : MediaTypeId} {edge : InboundEdge} (listed : edge ∈ graph.inboundEdges dest) :
    ∃ source media, graph.types.get? source = some media ∧
      edge.source = if media.isSink then InboundEdge.sinkPlaceholder else media.text := by
  obtain ⟨handle, filter, ⟨live, _⟩, rfl⟩ := coherent.mem_inboundEdges.mp listed
  obtain ⟨media, stored⟩ :=
    TypeRegistry.contains_iff_get?.mp (coherent.registered handle filter live).1
  refine ⟨filter.source, media, stored, ?_⟩
  rw [InboundEdge.ofFilter, InboundEdge.sourceText, stored]

/-- A search between different registered types is the same with any number of nested steps that
is not less than the number of types. -/
theorem Coherent.search_eq_resolveChain (coherent : graph.Coherent) {source dest : MediaTypeId}
    (known : graph.types.contains source = true ∧ graph.types.contains dest = true)
    (apart : source ≠ dest) (size : UInt64) (mode : SearchMode) {steps : Nat}
    (enough : graph.types.size ≤ steps) :
    (ChainQuery.mk graph.indexed size dest mode).search steps [source] source =
      graph.resolveChain source size dest mode := by
  have searched : graph.resolveChain source size dest mode =
      (ChainQuery.mk graph.indexed size dest mode).search graph.types.size [source] source := by
    rw [resolveChain, if_neg (by simp [known]), if_neg apart]
  rw [searched]
  refine ChainQuery.search_eq_of_le enough ?_
  rw [← searched, coherent.resolveChain_eq]
  exact nofun

/-! ## Answers -/

/-- No search of the graph is broken off. -/
structure SearchesEnd (graph : FilterGraph) : Prop where
  /-- Filters connect handles below the number of types. -/
  index_lt : ∀ handle filter, graph.filter? handle = some filter →
    filter.source.index < graph.types.size ∧ filter.dest.index < graph.types.size
  chain : ∀ source size dest mode, ∃ answer, graph.resolveChain source size dest mode = .ok answer
  /-- A nested call without a step left would break the search off.  So the search nests no deeper
  than there are types. -/
  nested : ∀ source size dest mode steps, graph.types.contains source = true →
    graph.types.contains dest = true → source ≠ dest → graph.types.size ≤ steps →
    (ChainQuery.mk graph.indexed size dest mode).search steps [source] source =
      graph.resolveChain source size dest mode
  sourceIds : ∀ dest, ∃ sources, graph.reachableSourceIds dest = .ok sources
  sources : ∀ dest, ∃ types, graph.reachableSources dest = .ok types
  /-- A signature counts all filters into its destination. -/
  edgeCount : ∀ dest,
    (graph.signature dest).edgeCount = (graph.filters.filter (·.2.dest = dest)).length
  /-- A signature describes the sources by the texts of registered types. -/
  edges : ∀ dest, ∀ edge ∈ graph.inboundEdges dest, ∃ source media,
    graph.types.get? source = some media ∧
      edge.source = if media.isSink then InboundEdge.sinkPlaceholder else media.text

theorem Coherent.searchesEnd (coherent : graph.Coherent) : graph.SearchesEnd where
  index_lt := fun _ _ live => coherent.index_lt live
  chain := fun source size dest mode => ⟨_, coherent.resolveChain_eq source size dest mode⟩
  nested := fun _ size _ mode _ sourceKnown destKnown apart enough =>
    coherent.search_eq_resolveChain ⟨sourceKnown, destKnown⟩ apart size mode enough
  sourceIds := by
    intro dest
    obtain ⟨sources, listed, _⟩ := coherent.exists_reachableSourceIds dest
    exact ⟨sources, listed⟩
  sources := by
    intro dest
    obtain ⟨types, swept, _⟩ := coherent.exists_reachableSources dest
    exact ⟨types, swept⟩
  edgeCount := by
    intro dest
    show (graph.inboundEdges dest).length = _
    rw [inboundEdges, (InboundEdge.sorted_perm _).length_eq, List.length_map,
      coherent.filtersInto_eq]
  edges := fun _ _ listed => coherent.exists_media_of_mem_inboundEdges listed

/-- **No search of a graph is ever broken off**, whatever was registered, added, removed and asked
before. -/
theorem searchesEnd_after (edits : List GraphEdit) : (empty.after edits).SearchesEnd :=
  Coherent.searchesEnd (Reachable.coherent ⟨edits, rfl⟩)

/-- The way from text to the printer passes through two types with filters back and to themselves.
The second of them is registered after a search, and one filter is refused. -/
def loopedEdits : List GraphEdit := [
  .addType "text" "plain", .addType "application" "pdf", .addSinkType "office",
  .addFilter ⟨0⟩ ⟨1⟩ 3 "texttopdf", .addFilter ⟨1⟩ ⟨0⟩ 1 "pdftotext",
  .addFilter ⟨1⟩ ⟨1⟩ 1 "pdftopdf", .addFilter ⟨1⟩ ⟨9⟩ 1 "lost", .query,
  .addType "image" "pwg-raster", .addFilter ⟨1⟩ ⟨3⟩ 2 "pdftoraster",
  .addFilter ⟨3⟩ ⟨1⟩ 1 "rastertopdf", .addFilter ⟨3⟩ ⟨2⟩ 2 "rastertoprinter"]

/-- Four nested steps are enough for the four types, and any more are of no use, but two are not
enough.  With the registry that there was before the last type, the searches would be broken
off. -/
theorem searchesEnd_loopedEdits :
    let graph := empty.after loopedEdits
    let older := (empty.after (loopedEdits.take 8)).types
    graph.types.size = 4 ∧
      graph.resolveChain ⟨0⟩ 0 ⟨2⟩ .cheapest = .ok (some ⟨[⟨0⟩, ⟨3⟩, ⟨5⟩], 7⟩) ∧
      (∀ steps, 4 ≤ steps →
        (ChainQuery.mk graph.indexed 0 ⟨2⟩ .cheapest).search steps [⟨0⟩] ⟨0⟩ =
          .ok (some ⟨[⟨0⟩, ⟨3⟩, ⟨5⟩], 7⟩)) ∧
      (ChainQuery.mk graph.indexed 0 ⟨2⟩ .cheapest).search 2 [⟨0⟩] ⟨0⟩ = .error .pathTooLong ∧
      (graph.replaceTypes older).resolveChain ⟨0⟩ 0 ⟨2⟩ .cheapest =
        .error (.unregistered ⟨3⟩) ∧
      (graph.replaceTypes older).reachableSourceIds ⟨2⟩ = .error (.unregistered ⟨3⟩) := by
  intro graph older
  have size : graph.types.size = 4 := by decide +kernel
  have answer : graph.resolveChain ⟨0⟩ 0 ⟨2⟩ .cheapest =
      .ok (some ⟨[⟨0⟩, ⟨3⟩, ⟨5⟩], 7⟩) := by
    decide +kernel
  refine ⟨size, answer, fun steps enough => ?_, by decide +kernel, by decide +kernel,
    by decide +kernel⟩
  rw [← answer]
  exact (searchesEnd_after loopedEdits).nested ⟨0⟩ 0 ⟨2⟩ .cheapest steps (by decide +kernel)
    (by decide +kernel) (by decide) (by rw [size]; exact enough)

end FilterGraph

end PrintPlanner
