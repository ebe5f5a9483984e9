import PrintPlanner.Proofs.Chain.SimpleWalk

/-!
# Types within a number of filters

A type lies within some number of filters of a destination if a walk of at most so many
filters leads from the one to the other, whatever their size limits.  In a coherent graph
this can be followed along the producers, from the source
(`FilterGraph.Coherent.within_succ_iff`) and from the destination
(`FilterGraph.Coherent.within_succ_iff_back`).
-/

set_option autoImplicit false

namespace PrintPlanner.FilterGraph

variable {graph : FilterGraph} {source middle dest : MediaTypeId} {bound : Nat}

/-- Some walk of at most `bound` filters leads from `source` to `dest`. -/
def Within (graph : FilterGraph) (bound : Nat) (source dest : MediaTypeId) : Prop :=
  ∃ handles, graph.Walk 0 source handles dest ∧ handles.length ≤ bound

theorem Within.refl (graph : FilterGraph) (bound : Nat) (place : MediaTypeId) :
    graph.Within bound place place :=
  ⟨[], .nil place, Nat.zero_le bound⟩

theorem Within.mono {larger : Nat} (near : graph.Within bound source dest)
    (more : bound ≤ larger) : graph.Within larger source dest := by
  obtain ⟨handles, walk, few⟩ := near
  exact ⟨handles, walk, Nat.le_trans few more⟩

theorem within_zero_iff : graph.Within 0 source dest ↔ source = dest := by
  constructor
  · rintro ⟨handles, walk, few⟩
    rw [List.length_eq_zero_iff.mp (Nat.le_zero.mp few)] at walk
    exact walk_nil_iff.mp walk
  · rintro rfl
    exact .refl graph 0 source

/-- A walk with filters ends with one into the destination. -/
theorem Walk.exists_last {size : UInt64} {handles : List FilterId}
    (walk : graph.Walk size source handles dest) (proceeds : handles ≠ []) :
    ∃ front handle filter, handles = front ++ [handle] ∧
      graph.filter? handle = some filter ∧ filter.dest = dest ∧
      graph.Walk size source front filter.source := by
  induction walk with
  | nil => exact absurd rfl proceeds
  | @cons handle filter rest dest live takes tail ih =>
      cases rest with
      | nil => exact ⟨[], handle, filter, rfl, live, walk_nil_iff.mp tail, .nil _⟩
      | cons next later =>
          obtain ⟨front, last, into, same, liveLast, arrives, walk⟩ :=
            ih (List.cons_ne_nil next later)
          refine ⟨handle :: front, last, into, ?_, liveLast, arrives, .cons live takes walk⟩
          rw [same, List.cons_append]

section Coherent

variable (coherent : graph.Coherent)
include coherent

/-- A producer is one filter farther away. -/
theorem Coherent.within_of_producer (feeds : source ∈ graph.producersOf middle)
    (near : graph.Within bound middle dest) : graph.Within (bound + 1) source dest := by
  obtain ⟨handle, filter, live, rfl, rfl⟩ := coherent.mem_producersOf.mp feeds
  obtain ⟨handles, walk, few⟩ := near
  exact ⟨handle :: handles, .cons live filter.accepts_zero walk, Nat.succ_le_succ few⟩

theorem Coherent.within_of_producer_back (near : graph.Within bound source middle)
    (feeds : middle ∈ graph.producersOf dest) : graph.Within (bound + 1) source dest := by
  obtain ⟨handle, filter, live, rfl, rfl⟩ := coherent.mem_producersOf.mp feeds
  obtain ⟨handles, walk, few⟩ := near
  have last : graph.Walk 0 filter.source [handle] filter.dest :=
    .cons live filter.accepts_zero (.nil _)
  exact ⟨handles ++ [handle], walk.append last, by simpa using few⟩

/-- The first filter of a walk leads into a type that is nearer to the destination. -/
theorem Coherent.within_succ_iff :
    graph.Within (bound + 1) source dest ↔
      source = dest ∨ ∃ middle, source ∈ graph.producersOf middle ∧
        graph.Within bound middle dest := by
  constructor
  · rintro ⟨handles, walk, few⟩
    cases walk with
    | nil => exact .inl rfl
    | @cons handle filter rest dest live _ tail =>
        have feeds : filter.source ∈ graph.producersOf filter.dest :=
          coherent.mem_producersOf.mpr ⟨handle, filter, live, rfl, rfl⟩
        exact .inr ⟨filter.dest, feeds, rest, tail, Nat.le_of_succ_le_succ few⟩
  · rintro (rfl | ⟨middle, feeds, near⟩)
    · exact .refl graph _ source
    · exact coherent.within_of_producer feeds near

/-- The last filter of a walk leaves a producer of the destination. -/
theorem Coherent.within_succ_iff_back :
    graph.Within (bound + 1) source dest ↔
      source = dest ∨ ∃ middle, graph.Within bound source middle ∧
        middle ∈ graph.producersOf dest := by
  constructor
  · rintro ⟨handles, walk, few⟩
    by_cases proceeds : handles = []
    · subst proceeds
      exact .inl (walk_nil_iff.mp walk)
    · obtain ⟨front, handle, filter, rfl, live, rfl, before⟩ := walk.exists_last proceeds
      have feeds : filter.source ∈ graph.producersOf filter.dest :=
        coherent.mem_producersOf.mpr ⟨handle, filter, live, rfl, rfl⟩
      exact .inr ⟨filter.source, ⟨front, before, by simpa using few⟩, feeds⟩
  · rintro (rfl | ⟨middle, near, feeds⟩)
    · exact .refl graph _ source
    · exact coherent.within_of_producer_back near feeds

/-- Producers are registered, and so is what they produce. -/
theorem Coherent.contains_of_mem_producersOf (feeds : source ∈ graph.producersOf dest) :
    graph.types.contains source = true ∧ graph.types.contains dest = true := by
  obtain ⟨handle, filter, live, rfl, rfl⟩ := coherent.mem_producersOf.mp feeds
  exact coherent.registered handle filter live

/-- Only registered types lie within some filters of another type. -/
theorem Coherent.contains_of_within (near : graph.Within bound source dest)
    (apart : source ≠ dest) :
    graph.types.contains source = true ∧ graph.types.contains dest = true := by
  obtain ⟨handles, walk, _⟩ := near
  exact coherent.contains_of_walk walk (walk.ne_nil apart)

end Coherent

end PrintPlanner.FilterGraph
