import Mathlib.Algebra.GroupWithZero.Nat
import PrintPlanner.Chain.Trace
import PrintPlanner.Proofs.Chain.Execution

/-!
# Costs do not overflow

The costs of filters are words, and the search adds them up in a long word without looking.  This
is safe, though no check in the search says so: the filters of one path enter different types, and
there are no more types than there are handles.  So every addition that a search performs, whether
its chain becomes the answer or not, is exact (`FilterGraph.tracedChain_exact`).
-/

set_option autoImplicit false

namespace PrintPlanner

/-! ## The record changes nothing -/

namespace ChainQuery

variable {query : ChainQuery} {explore : List MediaTypeId → MediaTypeId → Traced}
  {path : List MediaTypeId}

theorem answer_tracedScan (entries : List (FilterId × Filter)) (best : Option FilterChain) :
    (query.tracedScan explore path entries best).answer =
      query.scan (fun path next => (explore path next).answer) path entries best := by
  induction entries generalizing best with
  | nil => rfl
  | cons entry rest ih =>
      obtain ⟨handle, filter⟩ := entry
      simp only [tracedScan, scan]
      split
      · exact ih best
      split
      · rfl
      split
      · exact ih best
      cases (explore (filter.dest :: path) filter.dest).answer with
      | error fault => rfl
      | ok tail? =>
          cases tail? with
          | none => exact ih best
          | some tail =>
              simp only [Traced.answer_after, apply_ite Traced.answer, ih]
              rfl

theorem answer_tracedSearch (steps : Nat) (path : List MediaTypeId) (current : MediaTypeId) :
    (query.tracedSearch steps path current).answer = query.search steps path current := by
  induction steps generalizing path current with
  | zero => rfl
  | succ steps ih =>
      have same : (fun path next => (query.tracedSearch steps path next).answer) =
          query.search steps := by
        funext path next
        exact ih path next
      rw [tracedSearch, search]
      split
      · rfl
      · rw [answer_tracedScan, same]

/-- What is added where a scan follows a filter: something while it explores on from there, or the
cost of the filter to the chain that is found. -/
structure AddedAt (query : ChainQuery) (explore : List MediaTypeId → MediaTypeId → Traced)
    (path : List MediaTypeId) (addition : CostAddition) (filter : Filter) : Prop where
  passes : filter.dest ≠ query.dest
  registered : query.graph.types.contains filter.dest = true
  fresh : filter.dest ∉ path
  takes : filter.accepts query.size = true
  cause : addition ∈ (explore (filter.dest :: path) filter.dest).additions ∨
    ∃ tail, (explore (filter.dest :: path) filter.dest).answer = .ok (some tail) ∧
      addition = ⟨tail, filter⟩

/-- All that a scan adds, it adds where it follows one of its filters. -/
theorem addedAt_of_mem_tracedScan {entries : List (FilterId × Filter)}
    {best : Option FilterChain} {addition : CostAddition}
    (performed : addition ∈ (query.tracedScan explore path entries best).additions) :
    ∃ entry ∈ entries, query.AddedAt explore path addition entry.2 := by
  induction entries generalizing best with
  | nil => cases performed
  | cons entry rest ih =>
      obtain ⟨handle, filter⟩ := entry
      suffices here : query.AddedAt explore path addition filter ∨
          ∃ best, addition ∈ (query.tracedScan explore path rest best).additions by
        rcases here with here | ⟨best, later⟩
        · exact ⟨(handle, filter), List.mem_cons_self, here⟩
        · obtain ⟨other, member, there⟩ := ih later
          exact ⟨other, List.mem_cons_of_mem _ member, there⟩
      simp only [tracedScan] at performed
      split at performed
      · exact .inr ⟨_, performed⟩
      rename_i passes
      split at performed
      · cases performed
      rename_i registered
      split at performed
      · exact .inr ⟨_, performed⟩
      rename_i followed
      simp only [Bool.or_eq_true, decide_eq_true_eq, Bool.not_eq_true', not_or,
        Bool.not_eq_false] at followed registered
      have follows : _ → query.AddedAt explore path addition filter :=
        .mk passes registered followed.1.1 followed.1.2
      split at performed
      · exact .inl (follows (.inl performed))
      · rw [Traced.additions_after, List.mem_append] at performed
        exact performed.imp (fun inner => follows (.inl inner)) fun later => ⟨_, later⟩
      · rename_i tail found
        rw [Traced.additions_after, List.mem_append, List.mem_append, List.mem_singleton]
          at performed
        rcases performed with (inner | rfl) | later
        · exact .inl (follows (.inl inner))
        · exact .inl (follows (.inr ⟨tail, found, rfl⟩))
        · split at later
          · split at later
            · cases later
            · exact .inr ⟨_, later⟩
          · exact .inr ⟨_, later⟩

end ChainQuery

/-! ## Every addition is exact -/

theorem CostAddition.Exact.toNat_sum {addition : CostAddition} (exact : addition.Exact) :
    addition.sum.toNat = addition.tail.cost.toNat + addition.filter.cost.toNat := by
  rw [sum, UInt64.toNat_add, UInt32.toNat_toUInt64]
  exact Nat.mod_eq_of_lt exact

namespace FilterGraph

variable {graph : FilterGraph} {source dest : MediaTypeId} {size : UInt64} {mode : SearchMode}

/-- The filters that a walk names, and what they cost together. -/
theorem Walk.exists_filters {handles : List FilterId}
    (walk : graph.Walk size source handles dest) :
    ∃ filters : List Filter, handles.map graph.filter? = filters.map some ∧
      graph.costOf handles = (filters.map (·.cost.toNat)).sum := by
  induction walk with
  | nil => exact ⟨[], rfl, rfl⟩
  | @cons handle filter rest dest live _ _ ih =>
      obtain ⟨filters, named, cost⟩ := ih
      refine ⟨filter :: filters, ?_, ?_⟩
      · rw [List.map_cons, List.map_cons, live, named]
      · rw [costOf_cons live, cost, List.map_cons, List.sum_cons]

section Coherent

variable (coherent : graph.Coherent)
include coherent

/-- A chain from the enumeration can be extended by the filter that leads to it. -/
theorem Coherent.exact_chainOf {path : List MediaTypeId} {handle : FilterId} {filter : Filter}
    {handles : List FilterId} (destAhead : dest ∉ path)
    (live : graph.filter? handle = some filter)
    (onward : filter.dest ≠ dest ∧ filter.dest ∉ path ∧ filter.accepts size = true)
    (listed : handles ∈ graph.chainsFrom size dest (filter.dest :: path) filter.dest) :
    CostAddition.Exact ⟨graph.chainOf handles, filter⟩ := by
  have longer : handle :: handles ∈ graph.chainsVia size dest path (handle, filter) := by
    rw [coherent.chainsVia_of_onward live onward]
    exact List.mem_map_of_mem listed
  have small := coherent.costOf_lt_of_mem_chainsVia destAhead live longer
  rw [costOf_cons live] at small
  have tailSmall : graph.costOf handles < UInt64.size := by omega
  calc (graph.chainOf handles).cost.toNat + filter.cost.toNat
      = filter.cost.toNat + graph.costOf handles := by
        rw [toNat_cost_chainOf tailSmall, Nat.add_comm]
    _ < UInt64.size := small

/-- **Every addition of a search is exact,** at every depth, as long as it may take one nested step
more than there are types to visit. -/
theorem Coherent.exact_of_mem_tracedSearch {steps : Nat} {path : List MediaTypeId}
    {current : MediaTypeId} (destAhead : dest ∉ path)
    (enough : (graph.unvisited path).length < steps) {addition : CostAddition}
    (performed : addition ∈
      ((ChainQuery.mk graph.indexed size dest mode).tracedSearch steps path current).additions) :
    addition.Exact := by
  induction steps generalizing path current with
  | zero => cases enough
  | succ steps ih =>
      rw [ChainQuery.tracedSearch] at performed
      split at performed
      · cases performed
      obtain ⟨⟨handle, filter⟩, leaves, added⟩ := ChainQuery.addedAt_of_mem_tracedScan performed
      have live : graph.filter? handle = some filter := (coherent.mem_filtersFrom.mp leaves).1
      have ahead : dest ∉ filter.dest :: path := by simp [added.passes.symm, destAhead]
      have fewer : (graph.unvisited (filter.dest :: path)).length < (graph.unvisited path).length :=
        length_unvisited_cons (coherent.mem_handles.mpr added.registered) added.fresh
      have still : (graph.unvisited (filter.dest :: path)).length < steps := by omega
      rcases added.cause with inner | ⟨tail, found, rfl⟩
      · exact ih ahead still inner
      · -- What is found there is a chain of the enumeration, which knows how long a chain can be.
        rw [ChainQuery.answer_tracedSearch, coherent.search_eq ahead still] at found
        obtain ⟨handles, chosen, rfl⟩ := Option.map_eq_some_iff.mp (Except.ok.inj found)
        exact coherent.exact_chainOf destAhead live ⟨added.passes, added.fresh, added.takes⟩
          (select_mem chosen)

end Coherent

theorem answer_tracedChain (graph : FilterGraph) (source : MediaTypeId) (size : UInt64)
    (dest : MediaTypeId) (mode : SearchMode) :
    (graph.tracedChain source size dest mode).answer =
      graph.resolveChain source size dest mode := by
  unfold tracedChain resolveChain
  split
  · rfl
  dsimp only
  split
  · rfl
  · exact ChainQuery.answer_tracedSearch _ _ _

/-- **No addition overflows.**  Recording the additions of a search does not change its answer, each
of them is exact, and so the cost of an answer is the sum of the costs of its filters. -/
theorem tracedChain_exact (reachable : graph.Reachable) (source : MediaTypeId) (size : UInt64)
    (dest : MediaTypeId) (mode : SearchMode) :
    (graph.tracedChain source size dest mode).answer =
        graph.resolveChain source size dest mode ∧
      (∀ addition ∈ (graph.tracedChain source size dest mode).additions,
        addition.tail.cost.toNat + addition.filter.cost.toNat < 2 ^ 64 ∧
          addition.sum.toNat = addition.tail.cost.toNat + addition.filter.cost.toNat) ∧
      ∃ answer, graph.resolveChain source size dest mode = .ok answer ∧
        ∀ chain, answer = some chain → ∃ filters : List Filter,
          chain.filters.map graph.filter? = filters.map some ∧
            chain.cost.toNat = (filters.map (·.cost.toNat)).sum := by
  have coherent := reachable.coherent
  refine ⟨graph.answer_tracedChain source size dest mode, fun addition performed => ?_, ?_⟩
  · have exact : addition.Exact := by
      unfold tracedChain at performed
      split at performed
      · cases performed
      rename_i known
      dsimp only at performed
      split at performed
      · cases performed
      rename_i apart
      have registered : graph.types.contains source = true := by
        simp only [Bool.not_eq_true', Bool.not_eq_false, Bool.and_eq_true] at known
        exact known.1
      have fewer := length_unvisited_cons (coherent.mem_handles.mpr registered) List.not_mem_nil
      exact coherent.exact_of_mem_tracedSearch (by simpa using Ne.symm apart)
        (by simpa [unvisited] using fewer) performed
    exact ⟨exact, exact.toNat_sum⟩
  · have resolved := coherent.resolveChain_eq source size dest mode
    refine ⟨_, resolved, fun chain answered => ?_⟩
    have executable := coherent.executable_of_resolveChain
      (resolved.trans (congrArg Except.ok answered))
    obtain ⟨filters, named, cost⟩ := executable.walk.exists_filters
    exact ⟨filters, named, executable.cost_eq.trans cost⟩

/-- Two ways to the laser printer whose filters cost as much as filters can, or nearly so. -/
def dearEdits : List GraphEdit := [
  .addType "text" "plain", .addType "application" "pdf", .addType "image" "png",
  .addSinkType "laser", .addFilter ⟨0⟩ ⟨1⟩ 4294967295 "texttopdf",
  .addFilter ⟨1⟩ ⟨3⟩ 4294967295 "pdftolaser", .addFilter ⟨0⟩ ⟨2⟩ 4294967294 "texttopng",
  .addFilter ⟨2⟩ ⟨3⟩ 4294967295 "pngtolaser"]

/-- The search adds up both ways, although only one of them is the answer.  Both sums are more than
a word holds. -/
theorem tracedChain_dear :
    (empty.after dearEdits).Reachable ∧
      (empty.after dearEdits).resolveChain ⟨0⟩ 9 ⟨3⟩ .cheapest =
        .ok (some ⟨[⟨2⟩, ⟨3⟩], 8589934589⟩) ∧
      ((empty.after dearEdits).tracedChain ⟨0⟩ 9 ⟨3⟩ .cheapest).answer =
        .ok (some ⟨[⟨2⟩, ⟨3⟩], 8589934589⟩) ∧
      ((empty.after dearEdits).tracedChain ⟨0⟩ 9 ⟨3⟩ .cheapest).additions.map CostAddition.sum =
        [8589934590, 8589934589] ∧
      ∀ addition ∈ ((empty.after dearEdits).tracedChain ⟨0⟩ 9 ⟨3⟩ .cheapest).additions,
        addition.tail.cost.toNat + addition.filter.cost.toNat < 2 ^ 64 := by
  have reachable : (empty.after dearEdits).Reachable := ⟨dearEdits, rfl⟩
  have answered : (empty.after dearEdits).resolveChain ⟨0⟩ 9 ⟨3⟩ .cheapest =
      .ok (some ⟨[⟨2⟩, ⟨3⟩], 8589934589⟩) := by
    decide +kernel
  obtain ⟨same, exact, _⟩ := tracedChain_exact reachable ⟨0⟩ 9 ⟨3⟩ .cheapest
  exact ⟨reachable, answered, same.trans answered, by decide +kernel,
    fun addition performed => (exact addition performed).1⟩

end FilterGraph

end PrintPlanner
