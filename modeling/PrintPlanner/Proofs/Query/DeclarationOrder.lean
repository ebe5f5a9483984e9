import PrintPlanner.Proofs.Chain.Optimality
import PrintPlanner.Proofs.Graph.Declared
import PrintPlanner.Proofs.Signature.Sharing
import PrintPlanner.Signature.Basic

/-!
# Answers that do not depend on handles

Graphs with the same types and the same filters may hold them under different handles, list them
in different orders and return different chains.  Yet what can be converted, at what cost, from
where, and with which signature is the same in both
(`FilterGraph.SameUpToHandles.answers`).  In particular the order in which filters are declared
does not show in these answers (`FilterGraph.declarations_reordered`).
-/

set_option autoImplicit false

namespace PrintPlanner

namespace FilterGraph

open PrintPlanner.Filter

/-- The answers in which no handle of a filter occurs are the same. -/
structure AnswersAlike (first second : FilterGraph) : Prop where
  canConvert : ∀ source size dest,
    first.canConvert source size dest = second.canConvert source size dest
  /-- The least cost is the same, or there is no chain in either graph. -/
  cheapestCost : ∀ source size dest,
    (first.cheapestChain source size dest).map (Option.map FilterChain.cost) =
      (second.cheapestChain source size dest).map (Option.map FilterChain.cost)
  reachableSources : ∀ dest, first.reachableSources dest = second.reachableSources dest
  signature : ∀ dest, first.signature dest = second.signature dest

section SameUpToHandles

variable {first second : FilterGraph} (same : first.SameUpToHandles second)
  (coherent : first.Coherent) (secondCoherent : second.Coherent) {source dest : MediaTypeId}
  {size : UInt64}
include same coherent secondCoherent

/-! ## Walks -/

theorem SameUpToHandles.exists_live {handle : FilterId} {filter : Filter}
    (live : first.filter? handle = some filter) :
    ∃ twin, second.filter? twin = some filter := by
  have listed := coherent.mem_map_snd_filters.mpr ⟨handle, live⟩
  exact secondCoherent.mem_map_snd_filters.mp (same.filters.mem_iff.mp listed)

/-- Every walk of the one graph is a walk of the other under other handles, as long and as dear. -/
theorem SameUpToHandles.exists_walk {handles : List FilterId}
    (walk : first.Walk size source handles dest) :
    ∃ twins, second.Walk size source twins dest ∧ twins.length = handles.length ∧
      second.costOf twins = first.costOf handles := by
  induction walk with
  | nil place => exact ⟨[], .nil place, rfl, rfl⟩
  | cons live takes tail ih =>
      obtain ⟨twin, twinLive⟩ := same.exists_live coherent secondCoherent live
      obtain ⟨twins, walk, length, cost⟩ := ih
      refine ⟨twin :: twins, .cons twinLive takes walk, by simp [length], ?_⟩
      rw [costOf_cons twinLive, costOf_cons live, cost]

/-! ## Chains -/

/-- For every candidate of the one graph the other has one that costs no more. -/
theorem SameUpToHandles.exists_candidate_le {chain : List FilterId}
    (candidate : chain ∈ first.candidates source size dest) :
    ∃ other ∈ second.candidates source size dest, second.costOf other ≤ first.costOf chain := by
  by_cases itself : source = dest
  · subst itself
    obtain ⟨handle, filter, rfl, live, start, finish, takes⟩ :=
      coherent.mem_candidates_self.mp candidate
    obtain ⟨twin, twinLive⟩ := same.exists_live coherent secondCoherent live
    refine ⟨[twin], secondCoherent.mem_candidates_self.mpr
      ⟨twin, filter, rfl, twinLive, start, finish, takes⟩, ?_⟩
    rw [costOf_cons twinLive, costOf_cons live, costOf_nil, costOf_nil]
  · obtain ⟨known, simple⟩ := (coherent.mem_candidates itself).mp candidate
    obtain ⟨twins, walk, _, cost⟩ := same.exists_walk coherent secondCoherent simple.walk
    rw [same.types] at known
    rw [← cost]
    exact secondCoherent.exists_candidate_le itself known walk

theorem SameUpToHandles.candidates_eq_nil
    (none : second.candidates source size dest = []) : first.candidates source size dest = [] := by
  by_contra found
  obtain ⟨chain, candidate⟩ := List.exists_mem_of_ne_nil _ found
  obtain ⟨other, twin, _⟩ := same.exists_candidate_le coherent secondCoherent candidate
  rw [none] at twin
  exact List.not_mem_nil twin

theorem SameUpToHandles.candidates_eq_nil_iff :
    first.candidates source size dest = [] ↔ second.candidates source size dest = [] :=
  ⟨same.symm.candidates_eq_nil secondCoherent coherent,
    same.candidates_eq_nil coherent secondCoherent⟩

/-- The selected chain of the one graph costs no more than that of the other. -/
theorem SameUpToHandles.costOf_select_le {chain other : List FilterId}
    (chosen : first.select .cheapest (first.candidates source size dest) = some chain)
    (otherChosen : second.select .cheapest (second.candidates source size dest) = some other) :
    first.costOf chain ≤ second.costOf other := by
  obtain ⟨twin, candidate, cheap⟩ :=
    same.symm.exists_candidate_le secondCoherent coherent (select_mem otherChosen)
  exact Nat.le_trans (FilterGraph.costOf_select_le chosen twin candidate) cheap

theorem SameUpToHandles.canConvert_eq (source : MediaTypeId) (size : UInt64)
    (dest : MediaTypeId) :
    first.canConvert source size dest = second.canConvert source size dest := by
  have found : (first.select .firstFound (first.candidates source size dest)).isSome =
      (second.select .firstFound (second.candidates source size dest)).isSome := by
    rw [Bool.eq_iff_iff, Option.isSome_iff_ne_none, Option.isSome_iff_ne_none]
    exact not_congr (select_eq_none_iff.trans
      ((same.candidates_eq_nil_iff coherent secondCoherent).trans select_eq_none_iff.symm))
  rw [canConvert, canConvert, coherent.resolveChain_eq, secondCoherent.resolveChain_eq]
  simp only [Except.map, Option.isSome_map, found]

/-- **The least cost is the same,** though the chains may differ. -/
theorem SameUpToHandles.cheapestCost_eq (source : MediaTypeId) (size : UInt64)
    (dest : MediaTypeId) :
    (first.cheapestChain source size dest).map (Option.map FilterChain.cost) =
      (second.cheapestChain source size dest).map (Option.map FilterChain.cost) := by
  rw [cheapestChain, cheapestChain, coherent.resolveChain_eq, secondCoherent.resolveChain_eq]
  cases chosen : first.select .cheapest (first.candidates source size dest) with
  | none =>
      have empty := (same.candidates_eq_nil_iff coherent secondCoherent).mp
        (select_eq_none_iff.mp chosen)
      rw [select_eq_none_iff.mpr empty]
      rfl
  | some chain =>
      cases otherChosen : second.select .cheapest (second.candidates source size dest) with
      | none =>
          have empty := (same.candidates_eq_nil_iff coherent secondCoherent).mpr
            (select_eq_none_iff.mp otherChosen)
          rw [select_eq_none_iff.mpr empty] at chosen
          contradiction
      | some other =>
          have cost : first.costOf chain = second.costOf other :=
            Nat.le_antisymm (same.costOf_select_le coherent secondCoherent chosen otherChosen)
              (same.symm.costOf_select_le secondCoherent coherent otherChosen chosen)
          simp only [Except.map, Option.map_some, chainOf, cost]

/-! ## Sources and signatures -/

theorem SameUpToHandles.listed (listed : first.Listed source dest) :
    second.Listed source dest where
  registered := same.types ▸ listed.registered
  document := same.types ▸ listed.document
  near := by
    intro apart
    obtain ⟨handles, walk, few⟩ := listed.near apart
    obtain ⟨twins, twinWalk, length, _⟩ := same.exists_walk coherent secondCoherent walk
    exact ⟨twins, twinWalk, length ▸ few⟩
  loops := by
    intro itself
    obtain ⟨handle, filter, live, start, finish⟩ := listed.loops itself
    obtain ⟨twin, twinLive⟩ := same.exists_live coherent secondCoherent live
    exact ⟨twin, filter, twinLive, start, finish⟩

theorem SameUpToHandles.reachableSources_eq (dest : MediaTypeId) :
    first.reachableSources dest = second.reachableSources dest := by
  obtain ⟨set, answer, holds⟩ := coherent.exists_reachableSources dest
  obtain ⟨otherSet, otherAnswer, otherHolds⟩ := secondCoherent.exists_reachableSources dest
  rw [answer, otherAnswer]
  congr 1
  apply Std.ExtTreeSet.ext_mem
  intro media
  rw [holds, otherHolds, same.types]
  refine exists_congr fun source => and_congr_left fun _ => ?_
  exact ⟨same.listed coherent secondCoherent, same.symm.listed secondCoherent coherent⟩

theorem SameUpToHandles.signature_eq (dest : MediaTypeId) :
    first.signature dest = second.signature dest := by
  have described : ∀ {graph : FilterGraph}, graph.Coherent →
      (graph.filtersInto dest).map (fun entry => InboundEdge.ofFilter first.types entry.2) =
        ((graph.filters.map Prod.snd).filter (·.dest = dest)).map
          (InboundEdge.ofFilter first.types) := by
    intro graph coherent
    rw [coherent.filtersInto_eq, List.filter_map, List.map_map]
    rfl
  have edges : first.inboundEdges dest = second.inboundEdges dest := by
    rw [inboundEdges, inboundEdges, ← same.types, described coherent, described secondCoherent]
    exact InboundEdge.sorted_eq_of_perm ((same.filters.filter _).map _)
  rw [signature, signature, edges]

/-- **Graphs with the same filters answer alike.** -/
theorem SameUpToHandles.answers : first.AnswersAlike second where
  canConvert := same.canConvert_eq coherent secondCoherent
  cheapestCost := same.cheapestCost_eq coherent secondCoherent
  reachableSources := same.reachableSources_eq coherent secondCoherent
  signature := same.signature_eq coherent secondCoherent

end SameUpToHandles

/-! ## The order of declarations -/

/-- **The order of declarations does not matter except for ties.**  A list of filters between the
types of a graph without filters is accepted exactly if there are handles for all its pairs, in
whatever order it is declared.  If entries of least cost for one pair are never at odds, the filters
are then the same under whatever handles, and so are all answers without handles.  The graph may
be made of a registry (`coherent_ofTypes`) or be one whose filters have all been removed
(`Reachable.coherent`). -/
theorem declarations_reordered {base : FilterGraph} (coherent : base.Coherent)
    (filterless : base.filters = []) {entries reordered : List Filter}
    (registered : ∀ entry ∈ entries, base.types.contains entry.source = true ∧
      base.types.contains entry.dest = true)
    (ties : TiesAgree entries) (perm : entries.Perm reordered) :
    let first := base.after (entries.map declaration)
    let second := base.after (reordered.map declaration)
    (base.AcceptsAll (entries.map declaration) ↔
        base.slots.size + pairCount entries ≤ handleCount) ∧
      (base.AcceptsAll (reordered.map declaration) ↔
        base.slots.size + pairCount entries ≤ handleCount) ∧
      (base.AcceptsAll (entries.map declaration) →
        first.SameUpToHandles second ∧ first.AnswersAlike second) := by
  intro first second
  have start := Declared.start coherent filterless
  have otherRegistered : ∀ entry ∈ reordered, base.types.contains entry.source = true ∧
      base.types.contains entry.dest = true := fun entry member =>
    registered entry (perm.mem_iff.mpr member)
  have accepted_iff := start.acceptsAll_iff registered
  have otherAccepted_iff := start.acceptsAll_iff otherRegistered
  rw [List.nil_append] at accepted_iff otherAccepted_iff
  rw [← pairCount_perm perm] at otherAccepted_iff
  refine ⟨accepted_iff, otherAccepted_iff, fun accepted => ?_⟩
  have declared : first.Declared base entries := start.after accepted
  have otherDeclared : second.Declared base reordered :=
    start.after (otherAccepted_iff.mpr (accepted_iff.mp accepted))
  have same := declared.sameUpToHandles otherDeclared perm ties
  exact ⟨same, same.answers declared.coherent otherDeclared.coherent⟩

/-- A graph whose only filter was removed. -/
def emptiedEdits : List GraphEdit := [
  .addType "text" "plain", .addType "application" "pdf", .addType "application" "postscript",
  .addSinkType "office", .addFilter ⟨0⟩ ⟨1⟩ 1 "old", .removeFilter ⟨0⟩]

/-- Text is printed through PDF or PostScript at the same cost, and the filter into PDF is declared
three times, twice at its least cost. -/
def twoWays : List Filter := [
  ⟨⟨0⟩, ⟨1⟩, 9, 50, "slow"⟩, ⟨⟨0⟩, ⟨1⟩, 4, 0, "texttopdf"⟩, ⟨⟨0⟩, ⟨1⟩, 4, 0, "texttopdf"⟩,
  ⟨⟨0⟩, ⟨2⟩, 4, 0, "texttops"⟩, ⟨⟨1⟩, ⟨3⟩, 2, 0, "pdftoprinter"⟩,
  ⟨⟨2⟩, ⟨3⟩, 2, 0, "pstoprinter"⟩]

/-- Declared in the opposite order, the filters have other handles and text is printed by another
chain, at the same cost. -/
theorem declarations_reordered_twoWays :
    let base := empty.after emptiedEdits
    let first := base.after (twoWays.map declaration)
    let second := base.after (twoWays.reverse.map declaration)
    (base.Coherent ∧ base.filters = [] ∧ (∀ entry ∈ twoWays,
        base.types.contains entry.source = true ∧ base.types.contains entry.dest = true) ∧
        TiesAgree twoWays ∧ twoWays.Perm twoWays.reverse) ∧
      base.AcceptsAll (twoWays.map declaration) ∧
      first.cheapestChain ⟨0⟩ 0 ⟨3⟩ = .ok (some ⟨[⟨1⟩, ⟨3⟩], 6⟩) ∧
      second.cheapestChain ⟨0⟩ 0 ⟨3⟩ = .ok (some ⟨[⟨3⟩, ⟨1⟩], 6⟩) ∧
      first.SameUpToHandles second ∧ first.AnswersAlike second := by
  intro base first second
  have coherent : base.Coherent := Reachable.coherent ⟨emptiedEdits, rfl⟩
  have filterless : base.filters = [] := by decide +kernel
  have registered : ∀ entry ∈ twoWays,
      base.types.contains entry.source = true ∧ base.types.contains entry.dest = true := by
    decide +kernel
  have ties : TiesAgree twoWays := by decide +kernel
  have perm : twoWays.Perm twoWays.reverse := twoWays.reverse_perm.symm
  have accepted : base.AcceptsAll (twoWays.map declaration) := by decide +kernel
  obtain ⟨_, _, alike⟩ := declarations_reordered coherent filterless registered ties perm
  exact ⟨⟨coherent, filterless, registered, ties, perm⟩, accepted, by decide +kernel,
    by decide +kernel, alike accepted⟩

end FilterGraph

end PrintPlanner
