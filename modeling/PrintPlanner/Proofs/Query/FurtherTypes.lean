import PrintPlanner.Proofs.Chain.TieBreaking
import PrintPlanner.Proofs.Query.Inbound
import PrintPlanner.Proofs.Registry.Registration
import PrintPlanner.Query.Basic

/-!
# Types that no filter knows

Registering types changes the registry of a graph and nothing else
(`FilterGraph.after_registrations`).  A search looks at the registry to size its tables, and it
refuses a handle that has no type, so a handle that is registered later is searched after all.  No
filter connects it, and it is found to have no chains and no sources, which is what an unknown
handle is said to have.  Thus apart from the registry itself no query tells whether the types have
been registered (`FilterGraph.answer_after_registrations`).
-/

set_option autoImplicit false

namespace PrintPlanner

/-- A registration in the registry of a graph. -/
def Registration.edit : Registration → GraphEdit
  | .addType superType subType => .addType superType subType
  | .addSinkType printer => .addSinkType printer
  | .insert media => .insertType media

namespace FilterGraph

variable {graph : FilterGraph} {types : TypeRegistry} {size : UInt64}
  {source dest : MediaTypeId} {handles : List FilterId}

/-- One registration leaves the graph over the registry that it leaves. -/
theorem perform_registration (graph : FilterGraph) (registration : Registration) :
    (graph.perform registration.edit).2 =
      graph.replaceTypes (graph.types.perform registration).2 := by
  have registers : (graph.perform registration.edit).2 =
      (graph.settle
        ((graph.types.register registration).map (Prod.map id graph.replaceTypes))).2 := by
    cases registration <;> rfl
  rw [registers, TypeRegistry.perform]
  cases graph.types.register registration <;> rfl

/-- **Registrations leave the same filters over a larger registry.** -/
theorem after_registrations (graph : FilterGraph) (registrations : List Registration) :
    graph.after (registrations.map Registration.edit) =
      graph.replaceTypes (graph.types.after registrations) := by
  induction registrations generalizing graph with
  | nil => rfl
  | cons registration rest ih => rw [List.map_cons, after_cons, ih, perform_registration]; rfl

/-! ## Chains -/

/-- A walk only looks at filters. -/
theorem Walk.of_replaceTypes (walk : (graph.replaceTypes types).Walk size source handles dest) :
    graph.Walk size source handles dest := by
  induction walk with
  | nil place => exact .nil place
  | cons live takes _ ih => exact .cons live takes ih

section Larger

variable (coherent : graph.Coherent) (registry : types.Coherent)
  (extension : types.Extends graph.types)
include coherent registry extension

/-- Whatever else is registered, chains connect types that had been registered before. -/
theorem Coherent.contains_of_mem_candidates_replaceTypes
    (candidate : handles ∈ (graph.replaceTypes types).candidates source size dest) :
    graph.types.contains source = true ∧ graph.types.contains dest = true := by
  have larger : (graph.replaceTypes types).Coherent := coherent.withTypes registry extension
  by_cases same : source = dest
  · subst same
    obtain ⟨handle, filter, _, live, rfl, _⟩ := larger.mem_candidates_self.mp candidate
    have known := (coherent.registered handle filter live).1
    exact ⟨known, known⟩
  · have walk := (larger.walk_of_mem_candidates candidate).of_replaceTypes
    exact coherent.contains_of_walk walk (walk.ne_nil same)

theorem Coherent.candidates_replaceTypes :
    (graph.replaceTypes types).candidates source size dest =
      graph.candidates source size dest := by
  have larger : (graph.replaceTypes types).Coherent := coherent.withTypes registry extension
  by_cases known : graph.types.contains source = true ∧ graph.types.contains dest = true
  · obtain ⟨sourceKnown, destKnown⟩ := known
    have chains : ∀ visited current,
        (graph.replaceTypes types).chainsFrom size dest visited current =
          graph.chainsFrom size dest visited current :=
      coherent.eq_chainsFrom_of_enumerates larger.enumerates_chainsFrom
    have sourceStays : (graph.replaceTypes types).types.contains source = true :=
      extension.contains sourceKnown
    have destStays : (graph.replaceTypes types).types.contains dest = true :=
      extension.contains destKnown
    rw [candidates, candidates, sourceKnown, destKnown, sourceStays, destStays, chains]
    rfl
  · have before : graph.candidates source size dest = [] := by
      rw [candidates, if_pos (by simpa [Decidable.imp_iff_not_or] using known)]
    rw [before, List.eq_nil_iff_forall_not_mem]
    exact fun handles candidate =>
      known (coherent.contains_of_mem_candidates_replaceTypes registry extension candidate)

theorem Coherent.resolveChain_replaceTypes (mode : SearchMode) :
    (graph.replaceTypes types).resolveChain source size dest mode =
      graph.resolveChain source size dest mode :=
  Coherent.resolveChain_congr (coherent.withTypes registry extension) coherent
    (coherent.candidates_replaceTypes registry extension)
    (fun _ _ => costOf_congr fun _ _ => rfl) mode

/-! ## Sources -/

omit coherent registry in
theorem sameInto_replaceTypes : (graph.replaceTypes types).SameInto graph where
  types := extension
  filtersInto := fun _ _ => rfl

theorem Coherent.reachableSourceIds_replaceTypes (dest : MediaTypeId) :
    (graph.replaceTypes types).reachableSourceIds dest = graph.reachableSourceIds dest := by
  have larger : (graph.replaceTypes types).Coherent := coherent.withTypes registry extension
  cases known : graph.types.contains dest with
  | true =>
      exact (sameInto_replaceTypes extension).reachableSourceIds_eq larger coherent known
  | false =>
      have before : graph.reachableSourceIds dest = .ok [] := by
        rw [reachableSourceIds, known]
        rfl
      obtain ⟨sources, answered, _, member⟩ := larger.exists_reachableSourceIds dest
      have nothing : sources = [] := by
        rw [List.eq_nil_iff_forall_not_mem]
        intro source among
        have reached := (larger.listed_iff_exists_chain .cheapest).mp ((member source).mp among)
        obtain ⟨handles, candidate⟩ := (larger.exists_chain_iff .cheapest).mp reached.2.1
        have found :=
          (coherent.contains_of_mem_candidates_replaceTypes registry extension candidate).2
        exact Bool.eq_false_iff.mp known found
      rw [answered, nothing, before]

/-! ## All answers -/

/-- **A larger registry shows in no answer but that about the registry itself.** -/
theorem Coherent.answer_replaceTypes {query : GraphQuery} (about : query ≠ .types) :
    (graph.replaceTypes types).answer query = graph.answer query := by
  have sources := fun dest => coherent.reachableSourceIds_replaceTypes registry extension dest
  have same : (graph.replaceTypes types).SameInto graph := sameInto_replaceTypes extension
  cases query with
  | types => exact absurd rfl about
  | chain source size dest mode =>
      exact congrArg QueryAnswer.chain (coherent.resolveChain_replaceTypes registry extension mode)
  | reachableSourceIds dest => exact congrArg QueryAnswer.sourceIds (sources dest)
  | reachableSources dest =>
      exact congrArg QueryAnswer.sources
        (same.reachableSources_of_reachableSourceIds coherent (sources dest))
  | signature dest =>
      exact congrArg QueryAnswer.signature (same.signature_of_filtersInto coherent rfl)
  -- The remaining queries look at filters only.
  | _ => rfl

end Larger

/-- **Registering types is invisible to planning.**  Whatever is registered, with success or not,
every query about filters, chains, sources and signatures has the same answer before and after, for
all handles, registered, still unknown, or unknown until now. -/
theorem answer_after_registrations (reachable : graph.Reachable)
    (registrations : List Registration) (query : GraphQuery) (about : query ≠ .types) :
    (graph.after (registrations.map Registration.edit)).answer query = graph.answer query := by
  have coherent := reachable.coherent
  rw [after_registrations]
  exact coherent.answer_replaceTypes (coherent.types.after registrations)
    (coherent.types.after_extends registrations) about

/-- A type that is known already, one that is new, one whose name is refused, and a new printer. -/
def furtherTypes : List Registration := [
  .addType "TEXT" "Plain", .addType "image" "png", .addType "image" "", .addSinkType "annex"]

/-- The handles of the new types are unknown at first, and no chain is found before or after.  Old
types keep their chains and sources. -/
theorem answer_after_furtherTypes :
    (tie.Reachable ∧ tie.types.contains ⟨4⟩ = false ∧ tie.types.contains ⟨5⟩ = false) ∧
      ((tie.after (furtherTypes.map Registration.edit)).types.contains ⟨4⟩ = true ∧
        (tie.after (furtherTypes.map Registration.edit)).types.contains ⟨5⟩ = true) ∧
      (tie.after (furtherTypes.map Registration.edit)).resolveChain ⟨0⟩ 0 ⟨5⟩ .cheapest =
        .ok none ∧
      (tie.after (furtherTypes.map Registration.edit)).resolveChain ⟨0⟩ 0 ⟨3⟩ .cheapest =
        .ok (some ⟨[⟨1⟩, ⟨4⟩], 10⟩) ∧
      (tie.after (furtherTypes.map Registration.edit)).reachableSourceIds ⟨3⟩ =
        .ok [⟨0⟩, ⟨1⟩, ⟨2⟩] := by
  have reachable : tie.Reachable := ⟨tieEdits, rfl⟩
  have unchanged := answer_after_registrations reachable furtherTypes
  have toAnnex := QueryAnswer.chain.inj (unchanged (.chain ⟨0⟩ 0 ⟨5⟩ .cheapest) (by decide))
  have toOffice := QueryAnswer.chain.inj (unchanged (.chain ⟨0⟩ 0 ⟨3⟩ .cheapest) (by decide))
  have sources := QueryAnswer.sourceIds.inj (unchanged (.reachableSourceIds ⟨3⟩) (by decide))
  refine ⟨⟨reachable, by decide +kernel, by decide +kernel⟩,
    ⟨by decide +kernel, by decide +kernel⟩, ?_, ?_, ?_⟩
  · rw [toAnnex]
    decide +kernel
  · rw [toOffice]
    decide +kernel
  · rw [sources]
    decide +kernel

end FilterGraph

end PrintPlanner
