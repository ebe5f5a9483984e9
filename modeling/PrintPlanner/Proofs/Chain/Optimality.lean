import PrintPlanner.Proofs.Chain.Search

/-!
# Optimality of chains

Measured against all walks between two types, which may repeat types and filters and are of
any length, the cheapest chain costs least, and a chain is found in either mode exactly when
there is a walk (`FilterGraph.cheapestChain_optimal`).  Restricting the search to simple walks
loses nothing, since cutting loops out of a walk leaves a simple one that is no dearer.
-/

set_option autoImplicit false

namespace PrintPlanner.FilterGraph

variable {graph : FilterGraph} (coherent : graph.Coherent) {source dest : MediaTypeId}
  {size : UInt64}

section Coherent

include coherent

/-- For every walk between different types there is a candidate that costs no more. -/
theorem Coherent.exists_candidate_le (apart : source ≠ dest)
    (known : graph.types.contains source = true ∧ graph.types.contains dest = true)
    {handles : List FilterId} (walk : graph.Walk size source handles dest) :
    ∃ chain ∈ graph.candidates source size dest, graph.costOf chain ≤ graph.costOf handles := by
  obtain ⟨chain, kept, simple⟩ := walk.exists_simple apart
  exact ⟨chain, (coherent.mem_candidates apart).mpr ⟨known, simple⟩, costOf_le_of_sublist kept⟩

/-- There is a candidate exactly when there is a walk. -/
theorem Coherent.candidates_ne_nil_iff (apart : source ≠ dest)
    (known : graph.types.contains source = true ∧ graph.types.contains dest = true) :
    graph.candidates source size dest ≠ [] ↔ ∃ handles, graph.Walk size source handles dest := by
  constructor
  · intro exists_
    obtain ⟨chain, listed⟩ := List.exists_mem_of_ne_nil _ exists_
    exact ⟨chain, coherent.walk_of_mem_candidates listed⟩
  · rintro ⟨handles, walk⟩
    obtain ⟨chain, listed, _⟩ := coherent.exists_candidate_le apart known walk
    exact List.ne_nil_of_mem listed

end Coherent

/-- **The cheapest chain between two different types exists exactly when some walk leads from
one to the other, and then it is a walk that costs no more than any walk.**  The search for any
chain succeeds in the same cases. -/
theorem cheapestChain_optimal (reachable : graph.Reachable) (apart : source ≠ dest)
    (sourceKnown : graph.types.contains source = true)
    (destKnown : graph.types.contains dest = true) (size : UInt64) :
    ∃ answer, graph.cheapestChain source size dest = .ok answer ∧
      graph.canConvert source size dest = .ok answer.isSome ∧
      (answer.isSome = true ↔ ∃ handles, graph.Walk size source handles dest) ∧
      ∀ chain, answer = some chain →
        graph.Walk size source chain.filters dest ∧
          chain.cost.toNat = graph.costOf chain.filters ∧
          ∀ handles, graph.Walk size source handles dest →
            chain.cost.toNat ≤ graph.costOf handles := by
  have coherent := reachable.coherent
  have known := And.intro sourceKnown destKnown
  refine ⟨_, coherent.resolveChain_eq source size dest .cheapest, ?_, ?_, ?_⟩
  · have found : ∀ mode, (graph.select mode (graph.candidates source size dest)).isSome =
        !(graph.candidates source size dest).isEmpty := by
      intro mode
      rw [Bool.eq_iff_iff, Option.isSome_iff_ne_none, Ne, select_eq_none_iff]
      simp
    rw [canConvert, coherent.resolveChain_eq]
    simp only [Except.map, Option.isSome_map, found]
  · rw [Option.isSome_map, Option.isSome_iff_ne_none, Ne, select_eq_none_iff,
      ← coherent.candidates_ne_nil_iff apart known]
  · intro chain answered
    obtain ⟨handles, chosen, rfl⟩ := Option.map_eq_some_iff.mp answered
    have listed := select_mem chosen
    have exactCost := toNat_cost_chainOf (coherent.costOf_lt_of_mem_candidates listed)
    refine ⟨coherent.walk_of_mem_candidates listed, exactCost, fun other walk => ?_⟩
    obtain ⟨candidate, alsoListed, cheap⟩ := coherent.exists_candidate_le apart known walk
    rw [exactCost]
    exact Nat.le_trans (costOf_select_le chosen candidate alsoListed) cheap

/-- Text passes to the printer at once if it is small, and otherwise through PDF, while two
filters lead from text to PDF and back for nothing. -/
def detourEdits : List GraphEdit := [
  .addType "text" "plain", .addType "application" "pdf", .addSinkType "office",
  .addLimitedFilter ⟨0⟩ ⟨2⟩ 5 100 "texttoprinter", .addFilter ⟨0⟩ ⟨1⟩ 0 "texttopdf",
  .addFilter ⟨1⟩ ⟨0⟩ 0 "pdftotext", .addFilter ⟨1⟩ ⟨2⟩ 7 "pdftoprinter"]

/-- The graph of a detour for large texts. -/
def detour : FilterGraph := empty.after detourEdits

/-- However often a large text goes round the free loop, it reaches the printer for no less than
the cost of the detour. -/
theorem costOf_detour_ge :
    (detour.Reachable ∧ detour.types.contains ⟨0⟩ = true ∧ detour.types.contains ⟨2⟩ = true) ∧
      detour.cheapestChain ⟨0⟩ 500 ⟨2⟩ = .ok (some ⟨[⟨1⟩, ⟨3⟩], 7⟩) ∧
      ∀ handles, detour.Walk 500 ⟨0⟩ handles ⟨2⟩ → 7 ≤ detour.costOf handles := by
  have reachable : detour.Reachable := ⟨detourEdits, rfl⟩
  have textKnown : detour.types.contains ⟨0⟩ = true := by decide +kernel
  have printerKnown : detour.types.contains ⟨2⟩ = true := by decide +kernel
  have answer : detour.cheapestChain ⟨0⟩ 500 ⟨2⟩ = .ok (some ⟨[⟨1⟩, ⟨3⟩], 7⟩) := by
    decide +kernel
  obtain ⟨found, same, _, _, least⟩ :=
    cheapestChain_optimal reachable (by decide) textKnown printerKnown 500
  rw [answer] at same
  cases same
  exact ⟨⟨reachable, textKnown, printerKnown⟩, answer, (least _ rfl).2.2⟩

end PrintPlanner.FilterGraph
