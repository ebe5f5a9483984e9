import PrintPlanner.Proofs.Graph.Tables
import PrintPlanner.Proofs.Reach.Agreement
import PrintPlanner.Signature.Basic

/-!
# Answers read off the inbound filters

Sweeps and signatures look at filters from their destinations only.  Where a graph has all types of
an older one and the same filters lead into each of these (`FilterGraph.SameInto`), every old type
has the same sources, in the same order, and the same signature, whatever else the graph holds
(`FilterGraph.SameInto.reachableSourceIds_eq`, `FilterGraph.SameInto.signature_eq`).
-/

set_option autoImplicit false

namespace PrintPlanner.FilterGraph

/-- The graph has all types of an older one, and the same filters lead into each of these. -/
structure SameInto (graph older : FilterGraph) : Prop where
  types : graph.types.Extends older.types
  filtersInto : ∀ dest, older.types.contains dest = true →
    graph.filtersInto dest = older.filtersInto dest

variable {graph older : FilterGraph} {query source dest : MediaTypeId}

/-- Building the tables on both sides changes nothing. -/
theorem SameInto.indexed (same : graph.SameInto older) : graph.indexed.SameInto older.indexed :=
  ⟨same.types, same.filtersInto⟩

section Coherent

variable (same : graph.SameInto older) (coherent : graph.Coherent)
  (olderCoherent : older.Coherent)
include same coherent olderCoherent

theorem SameInto.producersOf_eq (known : older.types.contains dest = true) :
    graph.producersOf dest = older.producersOf dest := by
  rw [coherent.tablesAgree.producersOf_eq, olderCoherent.tablesAgree.producersOf_eq,
    same.filtersInto dest known]

theorem SameInto.lookupDirect?_eq (known : older.types.contains dest = true) :
    graph.lookupDirect? source dest = older.lookupDirect? source dest := by
  apply Option.ext
  intro handle
  rw [coherent.lookupDirect?_eq_some_iff, olderCoherent.lookupDirect?_eq_some_iff]
  refine exists_congr fun filter => ?_
  have listed : (handle, filter) ∈ graph.filtersInto dest ↔
      (handle, filter) ∈ older.filtersInto dest := by
    rw [same.filtersInto dest known]
  rw [coherent.mem_filtersInto, olderCoherent.mem_filtersInto] at listed
  rw [and_left_comm, listed, and_left_comm]

/-! ## Sweeps -/

theorem SameInto.isReportable_eq (known : older.types.contains source = true) :
    graph.isReportable query source = older.isReportable query source := by
  obtain ⟨media, stored⟩ := TypeRegistry.contains_iff_get?.mp known
  rw [isReportable, isReportable, TypeRegistry.isSink, TypeRegistry.isSink, stored,
    same.types source media stored, same.lookupDirect?_eq coherent olderCoherent known]

/-- Old producers are visited as before, if they are explored as before. -/
theorem SameInto.visitProducers_eq {depth : Nat}
    {explore olderExplore : Option (MediaTypeId → SweepState → Except SearchFault SweepState)}
    (explores : ∀ source, older.types.contains source = true →
      explore.map (· source) = olderExplore.map (· source))
    {sources : List MediaTypeId}
    (known : ∀ source ∈ sources, older.types.contains source = true) (state : SweepState) :
    graph.visitProducers query depth explore sources state =
      older.visitProducers query depth olderExplore sources state := by
  induction sources generalizing state with
  | nil => rw [visitProducers, visitProducers]
  | cons source rest ih =>
      obtain ⟨here, others⟩ := List.forall_mem_cons.mp known
      have onward := ih others
      have alike := explores source here
      rw [visitProducers, visitProducers, here, same.types.contains here,
        same.isReportable_eq coherent olderCoherent here]
      cases explore with
      | none =>
          cases olderExplore with
          | none => simp only [onward]
          | some olderStep => cases alike
      | some step =>
          cases olderExplore with
          | none => cases alike
          | some olderStep => simp only [Option.some.inj alike, onward]

/-- **A sweep from an old type meets old types only, and goes as before.** -/
theorem SameInto.sweepFrom_eq (levels depth : Nat) (known : older.types.contains dest = true) :
    graph.sweepFrom query levels depth dest = older.sweepFrom query levels depth dest := by
  have registered : ∀ source ∈ older.producersOf dest, older.types.contains source = true :=
    fun source feeds => (olderCoherent.contains_of_mem_producersOf feeds).1
  funext state
  induction levels generalizing depth dest state with
  | zero =>
      rw [sweepFrom, sweepFrom, same.producersOf_eq coherent olderCoherent known]
      exact same.visitProducers_eq coherent olderCoherent (fun _ _ => rfl) registered state
  | succ levels ih =>
      rw [sweepFrom, sweepFrom, same.producersOf_eq coherent olderCoherent known]
      refine same.visitProducers_eq coherent olderCoherent (fun source here => ?_) registered state
      refine congrArg some (funext fun state => ih (depth + 1) here ?_ state)
      exact fun source feeds => (olderCoherent.contains_of_mem_producersOf feeds).1

theorem SameInto.reachableSourceIds_eq (known : older.types.contains dest = true) :
    graph.reachableSourceIds dest = older.reachableSourceIds dest := by
  have swept : graph.sweep dest = older.sweep dest := by
    rw [sweep, sweep,
      same.indexed.sweepFrom_eq coherent.indexed olderCoherent.indexed maxReachDepth 0 known]
  rw [reachableSourceIds, reachableSourceIds, known, same.types.contains known, swept]

omit coherent in
/-- The same list of handles stands for the same media types. -/
theorem SameInto.reachableSources_of_reachableSourceIds
    (listed : graph.reachableSourceIds dest = older.reachableSourceIds dest) :
    graph.reachableSources dest = older.reachableSources dest := by
  obtain ⟨sources, swept, _, member⟩ := olderCoherent.exists_reachableSourceIds dest
  have media : sources.filterMap graph.types.get? = sources.filterMap older.types.get? := by
    refine List.filterMap_congr fun source among => ?_
    obtain ⟨stored, found⟩ :=
      TypeRegistry.contains_iff_get?.mp ((member source).mp among).registered
    rw [found, same.types source stored found]
  rw [reachableSources, reachableSources, listed, swept]
  exact congrArg (fun media => Except.ok (Std.ExtTreeSet.ofList media)) media

theorem SameInto.reachableSources_eq (known : older.types.contains dest = true) :
    graph.reachableSources dest = older.reachableSources dest :=
  same.reachableSources_of_reachableSourceIds olderCoherent
    (same.reachableSourceIds_eq coherent olderCoherent known)

/-! ## Signatures -/

omit coherent in
/-- The same filters into a type have the same signature. -/
theorem SameInto.signature_of_filtersInto (into : graph.filtersInto dest = older.filtersInto dest) :
    graph.signature dest = older.signature dest := by
  have edges : graph.inboundEdges dest = older.inboundEdges dest := by
    rw [inboundEdges, inboundEdges, into]
    refine congrArg InboundEdge.sorted (List.map_congr_left fun entry member => ?_)
    have live := (olderCoherent.mem_filtersInto.mp member).1
    obtain ⟨media, stored⟩ :=
      TypeRegistry.contains_iff_get?.mp (olderCoherent.registered entry.1 entry.2 live).1
    rw [InboundEdge.ofFilter, InboundEdge.ofFilter, InboundEdge.sourceText,
      InboundEdge.sourceText, stored, same.types entry.2.source media stored]
  rw [signature, signature, edges]

omit coherent in
theorem SameInto.signature_eq (known : older.types.contains dest = true) :
    graph.signature dest = older.signature dest :=
  same.signature_of_filtersInto olderCoherent (same.filtersInto dest known)

end Coherent

end PrintPlanner.FilterGraph
