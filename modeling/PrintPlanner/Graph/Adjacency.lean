import Std.Data.TreeMap
import PrintPlanner.Filter

/-!
# Adjacency of filters

Two tables answer which filters touch a type: the producers of a destination and
the filters that leave a source, each in order of creation.  They hold nothing that
the filters themselves do not say, so they can be built from the filters at any
time, or extended filter by filter.
-/

set_option autoImplicit false

namespace PrintPlanner

/-- The filters of a graph, arranged by the types that they touch. -/
structure Adjacency where
  /-- The sources with a filter into a destination. -/
  producers : Std.TreeMap MediaTypeId (List MediaTypeId)
  /-- The filters that leave a source. -/
  outgoing : Std.TreeMap MediaTypeId (List FilterId)

namespace Adjacency

/-- The tables of a graph without filters. -/
def empty : Adjacency := ⟨∅, ∅⟩

/-- The sources of all filters into `dest`. -/
def producersOf (adjacency : Adjacency) (dest : MediaTypeId) : List MediaTypeId :=
  adjacency.producers.getD dest []

/-- The handles of all filters that leave `source`. -/
def outgoingOf (adjacency : Adjacency) (source : MediaTypeId) : List FilterId :=
  adjacency.outgoing.getD source []

/-- The tables with one more filter, which comes after all others. -/
def insert (adjacency : Adjacency) (handle : FilterId) (ends : Endpoints) : Adjacency where
  producers :=
    adjacency.producers.insert ends.dest (adjacency.producersOf ends.dest ++ [ends.source])
  outgoing :=
    adjacency.outgoing.insert ends.source (adjacency.outgoingOf ends.source ++ [handle])

/-- The tables of the given filters, taken in order of creation. -/
def ofFilters (filters : List (FilterId × Filter)) : Adjacency :=
  filters.foldl (fun adjacency entry => adjacency.insert entry.1 entry.2.endpoints) empty

/-! ## What the tables answer -/

theorem producersOf_insert (adjacency : Adjacency) (handle : FilterId) (ends : Endpoints)
    (dest : MediaTypeId) :
    (adjacency.insert handle ends).producersOf dest =
      adjacency.producersOf dest ++ if ends.dest = dest then [ends.source] else [] := by
  simp only [producersOf, insert, Std.TreeMap.getD_insert, Std.compare_eq_iff_eq]
  split
  · rename_i same
    rw [same]
  · simp

theorem outgoingOf_insert (adjacency : Adjacency) (handle : FilterId) (ends : Endpoints)
    (source : MediaTypeId) :
    (adjacency.insert handle ends).outgoingOf source =
      adjacency.outgoingOf source ++ if ends.source = source then [handle] else [] := by
  simp only [outgoingOf, insert, Std.TreeMap.getD_insert, Std.compare_eq_iff_eq]
  split
  · rename_i same
    rw [same]
  · simp

/-- One more filter is the same whether the tables are extended or built anew. -/
theorem ofFilters_append_single (filters : List (FilterId × Filter)) (handle : FilterId)
    (filter : Filter) :
    ofFilters (filters ++ [(handle, filter)]) =
      (ofFilters filters).insert handle filter.endpoints := by
  simp [ofFilters]

private theorem producersOf_foldl (filters : List (FilterId × Filter)) (dest : MediaTypeId)
    (adjacency : Adjacency) :
    (filters.foldl (fun adjacency entry => adjacency.insert entry.1 entry.2.endpoints)
        adjacency).producersOf dest =
      adjacency.producersOf dest ++
        (filters.filter (·.2.dest = dest)).map (·.2.source) := by
  induction filters generalizing adjacency with
  | nil => simp
  | cons entry rest induction =>
      rw [List.foldl_cons, induction, producersOf_insert]
      by_cases same : entry.2.dest = dest <;> simp [Filter.endpoints, same]

private theorem outgoingOf_foldl (filters : List (FilterId × Filter)) (source : MediaTypeId)
    (adjacency : Adjacency) :
    (filters.foldl (fun adjacency entry => adjacency.insert entry.1 entry.2.endpoints)
        adjacency).outgoingOf source =
      adjacency.outgoingOf source ++
        (filters.filter (·.2.source = source)).map Prod.fst := by
  induction filters generalizing adjacency with
  | nil => simp
  | cons entry rest induction =>
      rw [List.foldl_cons, induction, outgoingOf_insert]
      by_cases same : entry.2.source = source <;> simp [Filter.endpoints, same]

/-- The producers in the tables are the sources of the filters into the destination. -/
theorem producersOf_ofFilters (filters : List (FilterId × Filter)) (dest : MediaTypeId) :
    (ofFilters filters).producersOf dest =
      (filters.filter (·.2.dest = dest)).map (·.2.source) := by
  rw [ofFilters, producersOf_foldl]
  simp [producersOf, empty]

/-- The outgoing filters in the tables are the filters that leave the source. -/
theorem outgoingOf_ofFilters (filters : List (FilterId × Filter)) (source : MediaTypeId) :
    (ofFilters filters).outgoingOf source =
      (filters.filter (·.2.source = source)).map Prod.fst := by
  rw [ofFilters, outgoingOf_foldl]
  simp [outgoingOf, empty]

end Adjacency

end PrintPlanner
