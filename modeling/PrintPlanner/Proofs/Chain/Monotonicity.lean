import PrintPlanner.Proofs.Chain.Optimality
import PrintPlanner.Proofs.Graph.Handles

/-!
# More filters never make planning worse

A graph eases another one if every filter that takes the document there is here under the same
handle, for the same pair, takes the document, and costs no more (`FilterGraph.Eases`).  Then every
candidate of the other graph is a candidate of this one, at no higher cost, and so is whatever the
search returns, although the two searches prune in different places
(`FilterGraph.Eases.plansNoDearer`).

Adding a filter without a size limit eases a graph, keeping a filter eases the graph that has lost
it, and smaller documents ease the same graph (`FilterGraph.planning_monotone`).  An offer that
states a size limit does not belong here: it may replace a filter that takes larger documents.
-/

set_option autoImplicit false

namespace PrintPlanner

/-- An offer without a size limit leaves the filter of a pair no limit, or the one that it had. -/
theorem Filter.accepts_improve (filter : Filter) (cost : UInt32) {limit : Option UInt64}
    (program : String) {size : UInt64} (limitless : limit.getD 0 = 0)
    (takes : filter.accepts size = true) :
    (filter.improve cost limit program).accepts size = true := by
  unfold improve
  split
  · cases limit with
    | none => exact takes
    | some maxSize =>
        have zero : maxSize = 0 := limitless
        simp [accepts, zero]
  · exact takes

/-- A smaller document is taken wherever a larger one is. -/
theorem Filter.accepts_of_le {filter : Filter} {size larger : UInt64} (le : size ≤ larger)
    (takes : filter.accepts larger = true) : filter.accepts size = true := by
  simp only [accepts, Bool.or_eq_true, decide_eq_true_eq] at takes ⊢
  exact takes.imp_right fun within => UInt64.le_trans le within

namespace FilterGraph

/-- Whatever takes the one size in the older graph takes the other size in this one, under the same
handle, between the same types, and at no higher cost. -/
def Eases (graph : FilterGraph) (size : UInt64) (older : FilterGraph) (olderSize : UInt64) : Prop :=
  ∀ handle filter, older.filter? handle = some filter → filter.accepts olderSize = true →
    ∃ other, graph.filter? handle = some other ∧ other.endpoints = filter.endpoints ∧
      other.accepts size = true ∧ other.cost ≤ filter.cost

/-- Wherever the older graph has a cheapest chain for the one size, this one has a cheapest chain
for the other, at no higher cost. -/
def PlansNoDearer (graph : FilterGraph) (size : UInt64) (older : FilterGraph)
    (olderSize : UInt64) : Prop :=
  ∀ source dest chain, older.cheapestChain source olderSize dest = .ok (some chain) →
    ∃ other, graph.cheapestChain source size dest = .ok (some other) ∧ other.cost ≤ chain.cost

variable {graph older : FilterGraph} {size olderSize : UInt64} {source dest : MediaTypeId}
  {handles : List FilterId}

/-! ## Chains of an eased graph -/

theorem Eases.walk (eases : graph.Eases size older olderSize)
    (walk : older.Walk olderSize source handles dest) :
    graph.Walk size source handles dest ∧ graph.destsOf handles = older.destsOf handles ∧
      graph.costOf handles ≤ older.costOf handles := by
  induction walk with
  | nil place => exact ⟨.nil place, rfl, Nat.le_refl 0⟩
  | @cons handle filter rest dest live takes _ ih =>
      obtain ⟨other, here, same, alsoTakes, cheap⟩ := eases handle filter live takes
      obtain ⟨sameSource, sameDest⟩ := Filter.endpoints_eq_iff.mp same
      obtain ⟨onward, sameDests, cheapOnward⟩ := ih
      refine ⟨?_, ?_, ?_⟩
      · exact walk_cons_iff.mpr ⟨other, here, sameSource, alsoTakes, sameDest ▸ onward⟩
      · rw [destsOf_cons here, destsOf_cons live, sameDest, sameDests]
      · rw [costOf_cons here, costOf_cons live]
        exact Nat.add_le_add (UInt32.le_iff_toNat_le.mp cheap) cheapOnward

section Coherent

variable (eases : graph.Eases size older olderSize) (coherent : graph.Coherent)
  (olderCoherent : older.Coherent)
include eases coherent olderCoherent

/-- Every candidate of the older graph is a candidate still. -/
theorem Eases.mem_candidates (candidate : handles ∈ older.candidates source olderSize dest) :
    handles ∈ graph.candidates source size dest := by
  by_cases same : source = dest
  · subst same
    obtain ⟨handle, filter, rfl, live, start, back, takes⟩ :=
      olderCoherent.mem_candidates_self.mp candidate
    obtain ⟨other, here, sameEnds, alsoTakes, _⟩ := eases handle filter live takes
    obtain ⟨sameSource, sameDest⟩ := Filter.endpoints_eq_iff.mp sameEnds
    exact coherent.mem_candidates_self.mpr
      ⟨handle, other, rfl, here, sameSource.trans start, sameDest.trans back, alsoTakes⟩
  · have simple := ((olderCoherent.mem_candidates same).mp candidate).2
    obtain ⟨walk, sameDests, _⟩ := eases.walk simple.walk
    refine (coherent.mem_candidates same).mpr
      ⟨coherent.contains_of_walk walk (walk.ne_nil same), walk, ?_, ?_⟩
    · rw [sameDests]
      exact simple.nodup
    · rw [sameDests]
      exact simple.source_notMem

/-- **An eased graph plans no dearer.**  The chain that was best is a candidate still and costs no
more, and the search returns no candidate that costs more than another. -/
theorem Eases.plansNoDearer : graph.PlansNoDearer size older olderSize := by
  intro source dest chain answered
  rw [cheapestChain, olderCoherent.resolveChain_eq] at answered
  obtain ⟨handles, chosen, rfl⟩ := Option.map_eq_some_iff.mp (Except.ok.inj answered)
  have olderCandidate := select_mem chosen
  have candidate := eases.mem_candidates coherent olderCoherent olderCandidate
  have cheap := (eases.walk (olderCoherent.walk_of_mem_candidates olderCandidate)).2.2
  rw [cheapestChain, coherent.resolveChain_eq]
  cases best : graph.select .cheapest (graph.candidates source size dest) with
  | none => exact absurd (select_eq_none_iff.mp best) (List.ne_nil_of_mem candidate)
  | some least =>
      refine ⟨graph.chainOf least, rfl, UInt64.le_iff_toNat_le.mpr ?_⟩
      calc (graph.chainOf least).cost.toNat
          = graph.costOf least :=
            toNat_cost_chainOf (coherent.costOf_lt_of_mem_candidates (select_mem best))
        _ ≤ graph.costOf handles := costOf_select_le best handles candidate
        _ ≤ older.costOf handles := cheap
        _ = (older.chainOf handles).cost.toNat :=
            (toNat_cost_chainOf (olderCoherent.costOf_lt_of_mem_candidates olderCandidate)).symm

end Coherent

/-! ## What eases a graph -/

/-- A filter that is offered without a size limit, whether it is new or replaces another. -/
theorem Coherent.eases_offerFilter {changed : FilterGraph} (coherent : graph.Coherent)
    {cost : UInt32} {limit : Option UInt64} {program : String} {handle : FilterId}
    (offered : graph.offerFilter source dest cost limit program = .ok (handle, changed))
    (limitless : limit.getD 0 = 0) (size : UInt64) : changed.Eases size graph size := by
  intro other filter live takes
  obtain ⟨_, ⟨old, oldLive, _, _, rfl⟩ | ⟨_, room, rfl, rfl⟩⟩ :=
    coherent.offerFilter_cases offered
  · rw [filter?_setSlot (index_lt_of_filter? oldLive)]
    by_cases here : other = handle
    · rw [here, oldLive] at live
      cases live
      rw [if_pos here]
      exact ⟨_, rfl, filter.endpoints_improve cost limit program,
        filter.accepts_improve cost program limitless takes,
        (filter.cost_improve_le cost limit program).1⟩
    · rw [if_neg here]
      exact ⟨filter, live, rfl, takes, UInt32.le_refl _⟩
  · have old : other ≠ .ofIndex graph.slots.size := by
      rintro rfl
      have inside := index_lt_of_filter? live
      rw [FilterId.index_ofIndex room] at inside
      exact Nat.lt_irrefl _ inside
    rw [filter?_pushSlot room, if_neg old]
    exact ⟨filter, live, rfl, takes, UInt32.le_refl _⟩

/-- A removed filter. -/
theorem eases_removeFilter (graph : FilterGraph) (handle : FilterId) (size : UInt64) :
    graph.Eases size (graph.removeFilter handle).2 size := by
  intro other filter live takes
  rw [filter?_removeFilter] at live
  split at live
  · cases live
  · exact ⟨filter, live, rfl, takes, UInt32.le_refl _⟩

/-- A smaller document. -/
theorem eases_of_le (graph : FilterGraph) {larger : UInt64} (le : size ≤ larger) :
    graph.Eases size graph larger :=
  fun _ filter live takes =>
    ⟨filter, live, rfl, filter.accepts_of_le le takes, UInt32.le_refl _⟩

/-- **Planning is monotone.**  A filter added without a size limit takes no chain away and makes
none dearer, a removed filter brings no chain and makes none cheaper, and what can be done for a
large document can be done for a small one at no higher cost. -/
theorem planning_monotone (reachable : graph.Reachable) :
    (∀ source dest cost program handle changed,
      graph.addFilter source dest cost program = .ok (handle, changed) ∨
          graph.addLimitedFilter source dest cost 0 program = .ok (handle, changed) →
        ∀ size, changed.PlansNoDearer size graph size) ∧
      (∀ handle size, graph.PlansNoDearer size (graph.removeFilter handle).2 size) ∧
      ∀ small large, small ≤ large → graph.PlansNoDearer small graph large := by
  have coherent := reachable.coherent
  refine ⟨?_, ?_, ?_⟩
  · rintro source dest cost program handle changed (offered | offered) size
    · exact (coherent.eases_offerFilter offered rfl size).plansNoDearer
        (coherent.offerFilter offered) coherent
    · exact (coherent.eases_offerFilter offered rfl size).plansNoDearer
        (coherent.offerFilter offered) coherent
  · exact fun handle size =>
      (graph.eases_removeFilter handle size).plansNoDearer coherent (coherent.removeFilter handle)
  · exact fun small large le => (graph.eases_of_le le).plansNoDearer coherent coherent

/-- A large text costs seven on the detour.  It costs no more once a filter for any size replaces
the one with a limit, and a small text costs no more either.  A small text costs seven as well when
the filter with a limit is removed, so it cost no more before. -/
theorem planning_detour :
    detour.Reachable ∧
      (∃ handle changed chain,
        detour.addLimitedFilter ⟨0⟩ ⟨2⟩ 3 0 "texttoprinter" = .ok (handle, changed) ∧
          changed.cheapestChain ⟨0⟩ 500 ⟨2⟩ = .ok (some chain) ∧ chain.cost ≤ 7) ∧
      (∃ chain, (detour.removeFilter ⟨0⟩).2.cheapestChain ⟨0⟩ 50 ⟨2⟩ = .ok (some ⟨[⟨1⟩, ⟨3⟩], 7⟩) ∧
        detour.cheapestChain ⟨0⟩ 50 ⟨2⟩ = .ok (some chain) ∧ chain.cost ≤ 7) ∧
      ∃ chain, detour.cheapestChain ⟨0⟩ 500 ⟨2⟩ = .ok (some ⟨[⟨1⟩, ⟨3⟩], 7⟩) ∧
        detour.cheapestChain ⟨0⟩ 50 ⟨2⟩ = .ok (some chain) ∧ chain.cost ≤ 7 := by
  have reachable : detour.Reachable := ⟨detourEdits, rfl⟩
  have coherent := reachable.coherent
  obtain ⟨addition, removal, smaller⟩ := planning_monotone reachable
  have large : detour.cheapestChain ⟨0⟩ 500 ⟨2⟩ = .ok (some ⟨[⟨1⟩, ⟨3⟩], 7⟩) := by
    decide +kernel
  have without : (detour.removeFilter ⟨0⟩).2.cheapestChain ⟨0⟩ 50 ⟨2⟩ =
      .ok (some ⟨[⟨1⟩, ⟨3⟩], 7⟩) := by
    decide +kernel
  refine ⟨reachable, ?_, ?_, ?_⟩
  · have known : detour.types.contains ⟨0⟩ = true ∧ detour.types.contains ⟨2⟩ = true := by
      decide +kernel
    have room : detour.slots.size < handleCount := by decide +kernel
    obtain ⟨handle, changed, offered⟩ :=
      coherent.exists_offerFilter known (fun _ => room) 3 (some 0) "texttoprinter"
    obtain ⟨chain, found, cheap⟩ := addition _ _ _ _ _ _ (.inr offered) 500 _ _ _ large
    exact ⟨handle, changed, chain, offered, found, cheap⟩
  · obtain ⟨chain, found, cheap⟩ := removal ⟨0⟩ 50 _ _ _ without
    exact ⟨chain, without, found, cheap⟩
  · obtain ⟨chain, found, cheap⟩ := smaller 50 500 (by decide) _ _ _ large
    exact ⟨chain, large, found, cheap⟩

end FilterGraph

end PrintPlanner
