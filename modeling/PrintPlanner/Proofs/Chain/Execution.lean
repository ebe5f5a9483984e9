import PrintPlanner.Proofs.Chain.Search

/-!
# Chains that can be run

What a chain must be so that a document can pass through it is stated as one property
(`FilterGraph.Executable`), and every chain that a search returns has it, in either mode and
for all handles (`FilterGraph.resolveChain_executable`).
-/

set_option autoImplicit false

namespace PrintPlanner.FilterGraph

/-- The chain leads a document of the given size from one registered type to another through
live filters that take it, each starting where the one before ends, and enters no type twice.
Its cost is the exact sum of their costs.  Between different types it does not return to its
source and enters its destination only at the end, so it has fewer filters than there are
types. -/
structure Executable (graph : FilterGraph) (source : MediaTypeId) (size : UInt64)
    (dest : MediaTypeId) (chain : FilterChain) : Prop where
  source_registered : graph.types.contains source = true
  dest_registered : graph.types.contains dest = true
  proceeds : chain.filters ≠ []
  walk : graph.Walk size source chain.filters dest
  cost_eq : chain.cost.toNat = graph.costOf chain.filters
  nodup_dests : (graph.destsOf chain.filters).Nodup
  source_notMem : source ≠ dest → source ∉ graph.destsOf chain.filters
  dest_last : source ≠ dest → dest ∉ graph.destsOf chain.filters.dropLast
  length_lt : source ≠ dest → chain.filters.length < graph.types.size

variable {graph : FilterGraph} {source dest : MediaTypeId} {size : UInt64}

/-- A walk that enters no type twice enters its destination only with its last filter. -/
theorem Walk.dest_notMem_dropLast {handles : List FilterId}
    (walk : graph.Walk size source handles dest) (nodup : (graph.destsOf handles).Nodup) :
    dest ∉ graph.destsOf handles.dropLast := by
  induction walk with
  | nil => simp
  | @cons handle filter rest dest live _ tail ih =>
      rw [destsOf_cons live] at nodup
      obtain ⟨once, nodupRest⟩ := List.nodup_cons.mp nodup
      cases rest with
      | nil => simp
      | cons next later =>
          have arrives := tail.dest_mem_destsOf (List.cons_ne_nil next later)
          rw [List.dropLast_cons_cons, destsOf_cons live, List.mem_cons]
          rintro (same | earlier)
          · exact once (same ▸ arrives)
          · exact ih nodupRest earlier

section Coherent

variable (coherent : graph.Coherent)
include coherent

theorem Coherent.executable_self {handle : FilterId} {filter : Filter}
    (live : graph.filter? handle = some filter) (loop : filter.dest = filter.source)
    (takes : filter.accepts size = true) :
    graph.Executable filter.source size filter.source (.single handle filter) := by
  obtain ⟨sourceKnown, _⟩ := coherent.registered handle filter live
  refine ⟨sourceKnown, sourceKnown, List.cons_ne_nil _ _,
    .cons live takes (walk_nil_iff.mpr loop), ?_, ?_, fun moves => absurd rfl moves,
    fun moves => absurd rfl moves, fun moves => absurd rfl moves⟩
  · simp [FilterChain.single, costOf_cons live]
  · simp [FilterChain.single, destsOf_cons live]

theorem Coherent.executable_of_simple {handles : List FilterId} (apart : source ≠ dest)
    (known : graph.types.contains source = true ∧ graph.types.contains dest = true)
    (simple : graph.SimpleWalk size source handles dest) :
    graph.Executable source size dest (graph.chainOf handles) where
  source_registered := known.1
  dest_registered := known.2
  proceeds := simple.walk.ne_nil apart
  walk := simple.walk
  cost_eq := by
    have listed := (coherent.mem_candidates apart).mpr ⟨known, simple⟩
    exact toNat_cost_chainOf (coherent.costOf_lt_of_mem_candidates listed)
  nodup_dests := simple.nodup
  source_notMem := fun _ => simple.source_notMem
  dest_last := fun _ => simple.walk.dest_notMem_dropLast simple.nodup
  length_lt := fun _ => simple.length_lt coherent known.1

/-- A chain that a search returns can be run. -/
theorem Coherent.executable_of_resolveChain {mode : SearchMode} {chain : FilterChain}
    (resolved : graph.resolveChain source size dest mode = .ok (some chain)) :
    graph.Executable source size dest chain := by
  rw [coherent.resolveChain_eq] at resolved
  obtain ⟨handles, chosen, rfl⟩ := Option.map_eq_some_iff.mp (Except.ok.inj resolved)
  have listed := select_mem chosen
  by_cases same : source = dest
  · subst same
    obtain ⟨handle, filter, rfl, live, rfl, loop, takes⟩ :=
      coherent.mem_candidates_self.mp listed
    rw [chainOf_single live]
    exact coherent.executable_self live loop takes
  · obtain ⟨known, simple⟩ := (coherent.mem_candidates same).mp listed
    exact coherent.executable_of_simple same known simple

end Coherent

/-- **Every chain that is returned can be run.**  The answer for a type and itself is the filter
between the two, if there is one that takes the size, whatever other chains lead back. -/
theorem resolveChain_executable (reachable : graph.Reachable) (source : MediaTypeId)
    (size : UInt64) (dest : MediaTypeId) (mode : SearchMode) :
    ∃ answer, graph.resolveChain source size dest mode = .ok answer ∧
      (∀ chain, answer = some chain → graph.Executable source size dest chain) ∧
      (source = dest → ∀ chain, answer = some chain ↔
        ∃ handle filter, graph.filter? handle = some filter ∧ filter.source = source ∧
          filter.dest = source ∧ filter.accepts size = true ∧ chain = .single handle filter) := by
  have coherent := reachable.coherent
  have resolved := coherent.resolveChain_eq source size dest mode
  refine ⟨_, resolved, ?_, ?_⟩
  · intro chain answered
    exact coherent.executable_of_resolveChain (resolved.trans (congrArg Except.ok answered))
  · rintro rfl chain
    constructor
    · intro answered
      obtain ⟨handles, chosen, rfl⟩ := Option.map_eq_some_iff.mp answered
      obtain ⟨handle, filter, rfl, live, start, loop, takes⟩ :=
        coherent.mem_candidates_self.mp (select_mem chosen)
      exact ⟨handle, filter, live, start, loop, takes, chainOf_single live⟩
    · rintro ⟨handle, filter, live, start, loop, takes, rfl⟩
      have pair := coherent.lookupDirect?_eq_some_iff.mpr ⟨filter, live, start, loop⟩
      have known := (coherent.registered handle filter live).1
      rw [start] at known
      simp [candidates, known, directChains, pair, live, takes, select_cons, chainOf_single live]

/-- A filter from a type to itself, beside a cheaper way there and back. -/
def roundTripEdits : List GraphEdit := [
  .addType "text" "plain", .addType "application" "pdf", .addFilter ⟨0⟩ ⟨1⟩ 1 "texttopdf",
  .addFilter ⟨1⟩ ⟨0⟩ 1 "pdftotext", .addLimitedFilter ⟨0⟩ ⟨0⟩ 5 9 "reflow"]

/-- The graph of a round trip. -/
def roundTrip : FilterGraph := empty.after roundTripEdits

/-- The round trip is never the answer, though it costs less than the filter that is. -/
theorem resolveChain_roundTrip_self :
    roundTrip.Reachable ∧ ∀ mode,
      roundTrip.resolveChain ⟨0⟩ 9 ⟨0⟩ mode = .ok (some ⟨[⟨2⟩], 5⟩) ∧
        roundTrip.Executable ⟨0⟩ 9 ⟨0⟩ ⟨[⟨2⟩], 5⟩ := by
  have reachable : roundTrip.Reachable := ⟨roundTripEdits, rfl⟩
  have live : roundTrip.filter? ⟨2⟩ = some ⟨⟨0⟩, ⟨0⟩, 5, 9, "reflow"⟩ := by decide +kernel
  refine ⟨reachable, fun mode => ?_⟩
  obtain ⟨answer, found, runs, self⟩ := resolveChain_executable reachable ⟨0⟩ 9 ⟨0⟩ mode
  have answered : answer = some ⟨[⟨2⟩], 5⟩ :=
    (self rfl _).mpr ⟨⟨2⟩, _, live, rfl, rfl, rfl, rfl⟩
  exact ⟨answered ▸ found, runs _ answered⟩

end PrintPlanner.FilterGraph
