import PrintPlanner.Proofs.Chain.Search
import PrintPlanner.Proofs.Graph.Tables

/-!
# Which of several chains is returned

Told by the list of filters alone, the exhaustive enumeration puts the filter into the
destination first and then, for each onward filter in order of creation, the chains beyond it
(`FilterGraph.Coherent.enumerates_chainsFrom`).  Pruning and keeping one best chain do not show:
of all enumerated chains the search returns the first of the cheapest, or the first
(`FilterGraph.resolveChain_first_of_enumeration`).
-/

set_option autoImplicit false

namespace PrintPlanner.FilterGraph

/-- The filters from one type to another that take the size.  There is at most one. -/
def filtersBetween (graph : FilterGraph) (size : UInt64) (current dest : MediaTypeId) :
    List (FilterId × Filter) :=
  graph.filters.filter fun entry => entry.2.endpoints = ⟨current, dest⟩ ∧ entry.2.accepts size

/-- The filters that leave a type, take the size and lead neither into the destination nor into
a visited type. -/
def onwardFilters (graph : FilterGraph) (size : UInt64) (dest : MediaTypeId)
    (visited : List MediaTypeId) (current : MediaTypeId) : List (FilterId × Filter) :=
  graph.filters.filter fun entry =>
    entry.2.source = current ∧ entry.2.dest ≠ dest ∧ entry.2.dest ∉ visited ∧
      entry.2.accepts size

/-- The lists of chains, for each set of visited types and each type to go on from, are those of
the exhaustive enumeration. -/
def Enumerates (graph : FilterGraph) (size : UInt64) (dest : MediaTypeId)
    (chains : List MediaTypeId → MediaTypeId → List (List FilterId)) : Prop :=
  ∀ visited current, chains visited current =
    (graph.filtersBetween size current dest).map (fun entry => [entry.1]) ++
      (graph.onwardFilters size dest visited current).flatMap fun entry =>
        (chains (entry.2.dest :: visited) entry.2.dest).map (entry.1 :: ·)

/-- The chain costs less than every chain before it in the list, and no more than any after it. -/
def IsFirstCheapest (graph : FilterGraph) (chains : List (List FilterId))
    (chain : List FilterId) : Prop :=
  ∃ front back, chains = front ++ chain :: back ∧
    (∀ other ∈ front, graph.costOf chain < graph.costOf other) ∧
    ∀ other ∈ back, graph.costOf chain ≤ graph.costOf other

variable {graph : FilterGraph} {size : UInt64} {source dest current : MediaTypeId}
  {visited : List MediaTypeId}

/-! ## The enumeration by the list of filters -/

private theorem flatMap_ite {Item Piece : Type} (items : List Item) (test : Item → Prop)
    [DecidablePred test] (pieces : Item → List Piece) :
    (items.flatMap fun item => if test item then pieces item else []) =
      (items.filter (test ·)).flatMap pieces := by
  induction items with
  | nil => rfl
  | cons item rest ih =>
      rw [List.flatMap_cons, ih]
      by_cases holds : test item
      · rw [if_pos holds, List.filter_cons_of_pos (by simpa using holds), List.flatMap_cons]
      · rw [if_neg holds, List.filter_cons_of_neg (by simpa using holds), List.nil_append]

section Coherent

variable (coherent : graph.Coherent)
include coherent

theorem Coherent.directChains_eq :
    graph.directChains size current dest =
      (graph.filtersBetween size current dest).map fun entry => [entry.1] := by
  have between : graph.filtersBetween size current dest =
      (graph.filters.filter (·.2.endpoints = ⟨current, dest⟩)).filter (·.2.accepts size) := by
    rw [filtersBetween, List.filter_filter]
    refine List.filter_congr fun entry _ => ?_
    rw [Bool.decide_and, Bool.and_comm, Bool.decide_eq_true]
  rw [between, directChains]
  cases pair : graph.lookupDirect? current dest with
  | none => rw [(coherent.tablesAgree.lookupDirect?_eq_none_iff current dest).mp pair]; rfl
  | some handle =>
      obtain ⟨filter, single⟩ :=
        (coherent.tablesAgree.lookupDirect?_eq_some_iff current dest handle).mp pair
      have listed := (coherent.filter_endpoints_eq_singleton_iff.mp single).1
      simp only [single, coherent.mem_filters.mp listed]
      by_cases takes : filter.accepts size = true
      · simp [takes]
      · simp [takes]

theorem Coherent.flatMap_chainsVia :
    (graph.filtersFrom current).flatMap (graph.chainsVia size dest visited) =
      (graph.onwardFilters size dest visited current).flatMap fun entry =>
        (graph.chainsFrom size dest (entry.2.dest :: visited) entry.2.dest).map (entry.1 :: ·) := by
  unfold chainsVia
  rw [flatMap_ite, coherent.filtersFrom_eq, List.filter_filter, onwardFilters]
  congr 1
  refine List.filter_congr fun entry listed => ?_
  have known : entry.2.dest ∈ graph.types.handles :=
    coherent.mem_handles.mpr (coherent.registered _ _ (coherent.mem_filters.mp listed)).2
  simp [known, Bool.and_comm]

/-- **The enumeration is what the list of filters says it is.** -/
theorem Coherent.enumerates_chainsFrom :
    graph.Enumerates size dest (graph.chainsFrom size dest) := by
  intro visited current
  rw [chainsFrom_eq, coherent.directChains_eq, coherent.flatMap_chainsVia]

/-- Only one family of lists is that of the enumeration, for with every filter that is followed
fewer types are left to visit. -/
theorem Coherent.eq_chainsFrom_of_enumerates
    {chains : List MediaTypeId → MediaTypeId → List (List FilterId)}
    (enumerates : graph.Enumerates size dest chains) (visited : List MediaTypeId)
    (current : MediaTypeId) :
    chains visited current = graph.chainsFrom size dest visited current := by
  induction fewer : (graph.unvisited visited).length using Nat.strongRecOn
    generalizing visited current with
  | ind left ih =>
      rw [enumerates visited current, coherent.enumerates_chainsFrom visited current]
      congr 1
      refine List.flatMap_congr fun entry onward => ?_
      obtain ⟨listed, conditions⟩ := List.mem_filter.mp onward
      simp only [decide_eq_true_eq] at conditions
      have known : entry.2.dest ∈ graph.types.handles :=
        coherent.mem_handles.mpr (coherent.registered _ _ (coherent.mem_filters.mp listed)).2
      have less := length_unvisited_cons known conditions.2.2.1
      rw [ih _ (fewer ▸ less) _ _ rfl]

end Coherent

/-! ## The first of the cheapest -/

theorem isFirstCheapest_select {chains : List (List FilterId)} {chain : List FilterId}
    (chosen : graph.select .cheapest chains = some chain) :
    graph.IsFirstCheapest chains chain := by
  induction chains generalizing chain with
  | nil => simp at chosen
  | cons first rest ih =>
      rw [select_cons] at chosen
      cases best : graph.select .cheapest rest with
      | none =>
          rw [best, prefer_none_right] at chosen
          cases chosen
          rw [select_eq_none_iff.mp best]
          exact ⟨[], [], rfl, by simp, by simp⟩
      | some least =>
          rw [best, prefer] at chosen
          split at chosen
          · rename_i cheap
            cases chosen
            refine ⟨[], rest, rfl, by simp, fun other listed => ?_⟩
            exact Nat.le_trans cheap (costOf_select_le best other listed)
          · rename_i dear
            cases chosen
            obtain ⟨front, back, rfl, before, after⟩ := ih best
            refine ⟨first :: front, back, rfl, ?_, after⟩
            intro other listed
            rcases List.mem_cons.mp listed with rfl | later
            · exact Nat.lt_of_not_le dear
            · exact before other later

/-- **Between different types the search returns the first of the cheapest chains of the
enumeration, or its first chain,** as the mode is, and nothing exactly when the enumeration is
empty. -/
theorem resolveChain_first_of_enumeration (reachable : graph.Reachable) (apart : source ≠ dest)
    (sourceKnown : graph.types.contains source = true)
    (destKnown : graph.types.contains dest = true) (size : UInt64) :
    graph.Enumerates size dest (graph.chainsFrom size dest) ∧
      ∀ chains, graph.Enumerates size dest chains →
        (∃ answer, graph.resolveChain source size dest .cheapest = .ok answer ∧
          (answer = none ↔ chains [source] source = []) ∧
          ∀ chain, answer = some chain → chain.cost.toNat = graph.costOf chain.filters ∧
            graph.IsFirstCheapest (chains [source] source) chain.filters) ∧
        ∃ answer, graph.resolveChain source size dest .firstFound = .ok answer ∧
          (answer = none ↔ chains [source] source = []) ∧
          ∀ chain, answer = some chain → chain.cost.toNat = graph.costOf chain.filters ∧
            (chains [source] source).head? = some chain.filters := by
  have coherent := reachable.coherent
  refine ⟨coherent.enumerates_chainsFrom, fun chains enumerates => ?_⟩
  have all : graph.candidates source size dest = chains [source] source := by
    rw [coherent.eq_chainsFrom_of_enumerates enumerates]
    simp [candidates, sourceKnown, destKnown, apart]
  have exactCost : ∀ {mode handles},
      graph.select mode (graph.candidates source size dest) = some handles →
        (graph.chainOf handles).cost.toNat = graph.costOf handles := fun chosen =>
    toNat_cost_chainOf (coherent.costOf_lt_of_mem_candidates (select_mem chosen))
  rw [← all]
  constructor
  · refine ⟨_, coherent.resolveChain_eq source size dest .cheapest, ?_, ?_⟩
    · rw [Option.map_eq_none_iff, select_eq_none_iff]
    · intro chain answered
      obtain ⟨handles, chosen, rfl⟩ := Option.map_eq_some_iff.mp answered
      exact ⟨exactCost chosen, isFirstCheapest_select chosen⟩
  · refine ⟨_, coherent.resolveChain_eq source size dest .firstFound, ?_, ?_⟩
    · rw [Option.map_eq_none_iff, select_eq_none_iff]
    · intro chain answered
      obtain ⟨handles, chosen, rfl⟩ := Option.map_eq_some_iff.mp answered
      exact ⟨exactCost chosen, chosen⟩

/-- Text reaches the printer at once for eleven, and in three ways for ten: through PDF, through
PDF and PostScript, and through PostScript. -/
def tieEdits : List GraphEdit := [
  .addType "text" "plain", .addType "application" "pdf", .addType "application" "postscript",
  .addSinkType "office", .addFilter ⟨0⟩ ⟨3⟩ 11 "texttoprinter", .addFilter ⟨0⟩ ⟨1⟩ 5 "texttopdf",
  .addFilter ⟨0⟩ ⟨2⟩ 5 "texttops", .addFilter ⟨1⟩ ⟨2⟩ 0 "pdftops",
  .addFilter ⟨1⟩ ⟨3⟩ 5 "pdftoprinter", .addFilter ⟨2⟩ ⟨3⟩ 5 "pstoprinter"]

/-- The graph of three equally cheap ways. -/
def tie : FilterGraph := empty.after tieEdits

/-- Of the three cheapest chains the first one is returned.  The first chain of all is the direct
one, which is dearer. -/
theorem resolveChain_tie :
    (tie.Reachable ∧ tie.types.contains ⟨0⟩ = true ∧ tie.types.contains ⟨3⟩ = true) ∧
      tie.chainsFrom 0 ⟨3⟩ [⟨0⟩] ⟨0⟩ = [[⟨0⟩], [⟨1⟩, ⟨4⟩], [⟨1⟩, ⟨3⟩, ⟨5⟩], [⟨2⟩, ⟨5⟩]] ∧
      tie.resolveChain ⟨0⟩ 0 ⟨3⟩ .cheapest = .ok (some ⟨[⟨1⟩, ⟨4⟩], 10⟩) ∧
      tie.IsFirstCheapest (tie.chainsFrom 0 ⟨3⟩ [⟨0⟩] ⟨0⟩) [⟨1⟩, ⟨4⟩] ∧
      tie.resolveChain ⟨0⟩ 0 ⟨3⟩ .firstFound = .ok (some ⟨[⟨0⟩], 11⟩) := by
  have reachable : tie.Reachable := ⟨tieEdits, rfl⟩
  have textKnown : tie.types.contains ⟨0⟩ = true := by decide +kernel
  have printerKnown : tie.types.contains ⟨3⟩ = true := by decide +kernel
  have cheapest : tie.resolveChain ⟨0⟩ 0 ⟨3⟩ .cheapest = .ok (some ⟨[⟨1⟩, ⟨4⟩], 10⟩) := by
    decide +kernel
  have first : tie.resolveChain ⟨0⟩ 0 ⟨3⟩ .firstFound = .ok (some ⟨[⟨0⟩], 11⟩) := by
    decide +kernel
  obtain ⟨enumerates, found⟩ :=
    resolveChain_first_of_enumeration reachable (by decide) textKnown printerKnown 0
  obtain ⟨⟨answer, same, _, least⟩, _⟩ := found _ enumerates
  rw [cheapest] at same
  cases same
  exact ⟨⟨reachable, textKnown, printerKnown⟩, by decide +kernel, cheapest, (least _ rfl).2, first⟩

end PrintPlanner.FilterGraph
