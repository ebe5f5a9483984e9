import Mathlib.Data.List.Nodup
import Mathlib.Data.List.Perm.Subperm
import PrintPlanner.Chain.Walk
import PrintPlanner.Proofs.Graph.Coherence

/-!
# Simple walks

A walk is simple if it enters no type twice and never comes back to its source.  Cutting
the loops out of a walk between different types leaves a simple walk over some of its
filters (`FilterGraph.Walk.exists_simple`), which is neither longer nor dearer.  In a
coherent graph a simple walk has fewer filters than there are types
(`FilterGraph.SimpleWalk.length_lt`).
-/

set_option autoImplicit false

namespace PrintPlanner.FilterGraph

variable {graph : FilterGraph} {size : UInt64} {source dest : MediaTypeId}

/-! ## The types that a walk enters -/

/-- The types that some filters lead into, in order. -/
def destsOf (graph : FilterGraph) (handles : List FilterId) : List MediaTypeId :=
  handles.filterMap fun handle => (graph.filter? handle).map Filter.dest

@[simp] theorem destsOf_nil : graph.destsOf [] = [] := rfl

theorem destsOf_cons {handle : FilterId} {filter : Filter}
    (live : graph.filter? handle = some filter) (rest : List FilterId) :
    graph.destsOf (handle :: rest) = filter.dest :: graph.destsOf rest := by
  simp [destsOf, live]

theorem destsOf_append (first second : List FilterId) :
    graph.destsOf (first ++ second) = graph.destsOf first ++ graph.destsOf second :=
  List.filterMap_append

theorem walk_nil_iff : graph.Walk size source [] dest ↔ source = dest := by
  constructor
  · intro walk
    cases walk
    rfl
  · rintro rfl
    exact .nil source

theorem walk_cons_iff {handle : FilterId} {rest : List FilterId} :
    graph.Walk size source (handle :: rest) dest ↔
      ∃ filter, graph.filter? handle = some filter ∧ filter.source = source ∧
        filter.accepts size = true ∧ graph.Walk size filter.dest rest dest := by
  constructor
  · intro walk
    cases walk with
    | cons live takes tail => exact ⟨_, live, rfl, takes, tail⟩
  · rintro ⟨filter, live, rfl, takes, tail⟩
    exact .cons live takes tail

/-- All filters of a walk are live, so it enters as many types as it has filters. -/
theorem Walk.length_destsOf {handles : List FilterId}
    (walk : graph.Walk size source handles dest) :
    (graph.destsOf handles).length = handles.length := by
  induction walk with
  | nil => rfl
  | cons live _ _ ih => rw [destsOf_cons live, List.length_cons, List.length_cons, ih]

/-- A walk with filters enters its destination last. -/
theorem Walk.getLast?_destsOf {handles : List FilterId}
    (walk : graph.Walk size source handles dest) (proceeds : handles ≠ []) :
    (graph.destsOf handles).getLast? = some dest := by
  induction walk with
  | nil => exact absurd rfl proceeds
  | @cons handle filter rest dest live _ tail ih =>
      rw [destsOf_cons live]
      cases rest with
      | nil =>
          rw [walk_nil_iff.mp tail]
          rfl
      | cons next later =>
          rw [List.getLast?_cons, ih (List.cons_ne_nil next later)]
          rfl

theorem Walk.dest_mem_destsOf {handles : List FilterId}
    (walk : graph.Walk size source handles dest) (proceeds : handles ≠ []) :
    dest ∈ graph.destsOf handles :=
  List.mem_of_getLast? (walk.getLast?_destsOf proceeds)

theorem Walk.ne_nil {handles : List FilterId} (walk : graph.Walk size source handles dest)
    (apart : source ≠ dest) : handles ≠ [] := by
  rintro rfl
  exact apart (walk_nil_iff.mp walk)

/-- A walk can be cut in two after any type that it enters. -/
theorem Walk.exists_split {handles : List FilterId} {place : MediaTypeId}
    (walk : graph.Walk size source handles dest) (entered : place ∈ graph.destsOf handles) :
    ∃ front back, handles = front ++ back ∧ place ∈ graph.destsOf front ∧
      graph.Walk size place back dest := by
  induction walk with
  | nil => cases entered
  | @cons handle filter rest dest live _ tail ih =>
      rw [destsOf_cons live] at entered
      rcases List.mem_cons.mp entered with rfl | later
      · exact ⟨[handle], rest, rfl, by simp [destsOf_cons live], tail⟩
      · obtain ⟨front, back, rfl, inFront, rejoined⟩ := ih later
        refine ⟨handle :: front, back, rfl, ?_, rejoined⟩
        rw [destsOf_cons live]
        exact List.mem_cons_of_mem _ inFront

/-! ## Cutting loops -/

/-- A walk that enters no type twice and never comes back to its source. -/
structure SimpleWalk (graph : FilterGraph) (size : UInt64) (source : MediaTypeId)
    (handles : List FilterId) (dest : MediaTypeId) : Prop where
  walk : graph.Walk size source handles dest
  nodup : (graph.destsOf handles).Nodup
  source_notMem : source ∉ graph.destsOf handles

/-- A filter in front of a simple walk gives one, unless the walk enters its source. -/
theorem SimpleWalk.cons {handle : FilterId} {filter : Filter} {rest : List FilterId}
    (live : graph.filter? handle = some filter) (takes : filter.accepts size = true)
    (tail : graph.SimpleWalk size filter.dest rest dest) (moves : filter.source ≠ filter.dest)
    (fresh : filter.source ∉ graph.destsOf rest) :
    graph.SimpleWalk size filter.source (handle :: rest) dest where
  walk := .cons live takes tail.walk
  nodup := by
    rw [destsOf_cons live]
    exact List.nodup_cons.mpr ⟨tail.source_notMem, tail.nodup⟩
  source_notMem := by
    rw [destsOf_cons live, List.mem_cons]
    rintro (same | later)
    · exact moves same
    · exact fresh later

/-- The part of a simple walk behind a type that it enters is simple. -/
theorem SimpleWalk.exists_back {handles : List FilterId} {place : MediaTypeId}
    (simple : graph.SimpleWalk size source handles dest)
    (entered : place ∈ graph.destsOf handles) :
    ∃ back, back.Sublist handles ∧ graph.SimpleWalk size place back dest := by
  obtain ⟨front, back, rfl, inFront, rejoined⟩ := simple.walk.exists_split entered
  have parts := simple.nodup
  rw [destsOf_append, List.nodup_append'] at parts
  exact ⟨back, List.sublist_append_right front back,
    rejoined, parts.2.1, fun inBack => parts.2.2 inFront inBack⟩

/-- **Cutting the loops out of a walk leaves a simple walk over some of its filters.** -/
theorem Walk.exists_simple {handles : List FilterId}
    (walk : graph.Walk size source handles dest) (apart : source ≠ dest) :
    ∃ simple, simple.Sublist handles ∧ graph.SimpleWalk size source simple dest := by
  induction walk with
  | nil => exact absurd rfl apart
  | @cons handle filter rest dest live takes _ ih =>
      by_cases arrives : filter.dest = dest
      · subst arrives
        have stop : graph.SimpleWalk size filter.dest [] filter.dest :=
          ⟨.nil _, by simp, by simp⟩
        exact ⟨[handle], List.singleton_sublist.mpr (by simp),
          stop.cons live takes apart (by simp)⟩
      · obtain ⟨short, kept, simple⟩ := ih arrives
        by_cases loop : filter.source = filter.dest
        · exact ⟨short, kept.cons handle, loop ▸ simple⟩
        · by_cases entered : filter.source ∈ graph.destsOf short
          · -- The walk comes back to its source: only the part behind that is kept.
            obtain ⟨back, shorter, rejoined⟩ := simple.exists_back entered
            exact ⟨back, (shorter.trans kept).cons handle, rejoined⟩
          · exact ⟨handle :: short, kept.cons_cons handle, simple.cons live takes loop entered⟩

theorem costOf_le_of_sublist {fewer handles : List FilterId} (kept : fewer.Sublist handles) :
    graph.costOf fewer ≤ graph.costOf handles := by
  induction kept with
  | slnil => exact Nat.le_refl _
  | cons handle _ ih => exact Nat.le_trans ih (Nat.le_add_left _ _)
  | cons_cons handle _ ih => exact Nat.add_le_add_left ih _

/-- The cost is that of the filters behind the handles. -/
theorem costOf_congr {older : FilterGraph} {handles : List FilterId}
    (same : ∀ handle ∈ handles, graph.filter? handle = older.filter? handle) :
    graph.costOf handles = older.costOf handles := by
  induction handles with
  | nil => rfl
  | cons handle rest ih =>
      obtain ⟨first, others⟩ := List.forall_mem_cons.mp same
      rw [costOf, costOf, filterCost, filterCost, first, ih others]

/-! ## Bounds in a coherent graph -/

/-- Filters lead into registered types. -/
theorem Coherent.contains_of_mem_destsOf (coherent : graph.Coherent) {handles : List FilterId}
    {place : MediaTypeId} (entered : place ∈ graph.destsOf handles) :
    graph.types.contains place = true := by
  obtain ⟨handle, _, into⟩ := List.mem_filterMap.mp entered
  obtain ⟨filter, live, rfl⟩ := Option.map_eq_some_iff.mp into
  exact (coherent.registered handle filter live).2

/-- A walk through any filter at all connects registered types. -/
theorem Coherent.contains_of_walk (coherent : graph.Coherent) {handles : List FilterId}
    (walk : graph.Walk size source handles dest) (proceeds : handles ≠ []) :
    graph.types.contains source = true ∧ graph.types.contains dest = true := by
  refine ⟨?_, coherent.contains_of_mem_destsOf (walk.dest_mem_destsOf proceeds)⟩
  cases walk with
  | nil => exact absurd rfl proceeds
  | cons live _ _ => exact (coherent.registered _ _ live).1

/-- The types that a simple walk touches are different registered types. -/
theorem SimpleWalk.length_lt (coherent : graph.Coherent) {handles : List FilterId}
    (simple : graph.SimpleWalk size source handles dest)
    (registered : graph.types.contains source = true) :
    handles.length < graph.types.size := by
  have distinct : (source :: graph.destsOf handles).Nodup :=
    List.nodup_cons.mpr ⟨simple.source_notMem, simple.nodup⟩
  have within : source :: graph.destsOf handles ⊆ graph.types.handles := by
    intro place touched
    rw [coherent.mem_handles]
    rcases List.mem_cons.mp touched with rfl | entered
    · exact registered
    · exact coherent.contains_of_mem_destsOf entered
  have bound := (List.Nodup.subperm distinct within).length_le
  rw [List.length_cons, simple.walk.length_destsOf, TypeRegistry.length_handles] at bound
  exact bound

/-- Costs are words of 32 bits, so a few filters cost little. -/
theorem costOf_le (graph : FilterGraph) (handles : List FilterId) :
    graph.costOf handles ≤ handles.length * (UInt32.size - 1) := by
  induction handles with
  | nil => simp
  | cons handle rest ih =>
      have single : graph.filterCost handle ≤ UInt32.size - 1 := by
        unfold filterCost
        split
        · exact Nat.zero_le _
        · rename_i filter _
          exact Nat.le_sub_one_of_lt filter.cost.toNat_lt
      rw [costOf, List.length_cons, Nat.succ_mul, Nat.add_comm]
      exact Nat.add_le_add ih single

/-- As many filters as there are handles cost less than a long word holds. -/
theorem costOf_lt {handles : List FilterId} (few : handles.length ≤ handleCount) :
    graph.costOf handles < UInt64.size := by
  have bound := graph.costOf_le handles
  have most : handles.length * (UInt32.size - 1) ≤ handleCount * (UInt32.size - 1) :=
    Nat.mul_le_mul_right _ few
  have room : handleCount * (UInt32.size - 1) < UInt64.size := by decide
  omega

end PrintPlanner.FilterGraph
