import PrintPlanner.Graph.Adjacency
import PrintPlanner.Media.Registry

/-!
# The filter graph

A graph holds a registry of media types and the filters between them.  Filters keep
their slot for ever: a removed filter leaves an empty slot behind, so its handle is
never given out again.  At most one filter connects a pair of types, and a table
from pairs to handles finds it.

The adjacency tables are derived data that a graph may or may not carry.  A query
builds them if they are missing, adding a filter extends them if they are there,
and removing a filter drops them.
-/

set_option autoImplicit false

namespace PrintPlanner

/-- Media types and the filters that convert between them. -/
structure FilterGraph where
  types : TypeRegistry
  /-- The filter of each handle ever given out, or nothing where it was removed. -/
  slots : Array (Option Filter)
  /-- The handle of the filter between two types. -/
  direct : Std.TreeMap Endpoints FilterId
  /-- The adjacency tables, if they have been built since the last removal. -/
  adjacency? : Option Adjacency

namespace FilterGraph

/-- The graph over the given types without filters. -/
def ofTypes (types : TypeRegistry) : FilterGraph := ⟨types, #[], ∅, none⟩

/-- The graph without types and filters. -/
def empty : FilterGraph := ofTypes ∅

instance : EmptyCollection FilterGraph := ⟨empty⟩

instance : Inhabited FilterGraph := ⟨empty⟩

/-! ## Types -/

/-- Registers or finds a media type in the graph's registry. -/
def insertType (graph : FilterGraph) (media : MediaType) :
    Except PlanError (MediaTypeId × FilterGraph) :=
  (graph.types.insert media).map fun (handle, types) => (handle, { graph with types })

/-- Registers or finds the media type with the given parts. -/
def addType (graph : FilterGraph) (superType subType : String) :
    Except PlanError (MediaTypeId × FilterGraph) :=
  (graph.types.addType superType subType).map fun (handle, types) => (handle, { graph with types })

/-- Registers or finds the type of a printer. -/
def addSinkType (graph : FilterGraph) (printer : String) :
    Except PlanError (MediaTypeId × FilterGraph) :=
  (graph.types.addSinkType printer).map fun (handle, types) => (handle, { graph with types })

/-- The same filters over another registry.  The filters may then name types that
the registry does not hold. -/
def replaceTypes (graph : FilterGraph) (types : TypeRegistry) : FilterGraph :=
  { graph with types }

/-! ## Filters by handle and by pair -/

/-- The filter behind a handle, unless it was removed. -/
def filter? (graph : FilterGraph) (handle : FilterId) : Option Filter :=
  graph.slots[handle.index]?.join

/-- All filters with their handles, in order of creation. -/
def filters (graph : FilterGraph) : List (FilterId × Filter) :=
  graph.slots.toList.zipIdx.filterMap fun (slot, position) =>
    slot.map fun filter => (FilterId.ofIndex position, filter)

/-- The handle of the filter from `source` to `dest`. -/
def lookupDirect? (graph : FilterGraph) (source dest : MediaTypeId) : Option FilterId :=
  graph.direct[Endpoints.mk source dest]?

/-- The filter from `source` to `dest`. -/
def directFilter? (graph : FilterGraph) (source dest : MediaTypeId) : Option Filter :=
  (graph.lookupDirect? source dest).bind graph.filter?

/-- The number of filters. -/
def filterCount (graph : FilterGraph) : Nat := graph.direct.size

/-! ## Adding and removing filters -/

/-- The handle as it is, if it names a registered type. -/
def checkType (graph : FilterGraph) (handle : MediaTypeId) : Except PlanError MediaTypeId :=
  if graph.types.contains handle then .ok handle
  else .error (.unknownHandle .mediaType handle.raw)

/-- The graph with a filter in a new slot. -/
def appendFilter (graph : FilterGraph) (filter : Filter) :
    Except PlanError (FilterId × FilterGraph) :=
  if graph.slots.size < handleCount then
    let handle := FilterId.ofIndex graph.slots.size
    .ok (handle,
      { graph with
        slots := graph.slots.push (some filter)
        direct := graph.direct.insert filter.endpoints handle
        adjacency? := graph.adjacency?.map (·.insert handle filter.endpoints) })
  else .error (.unknownHandle .filter (UInt32.ofNat (handleCount - 1)))

/-- Offers a filter from `source` to `dest`, with a size limit if one is stated.  The
handle is that of the pair's filter, whether it was created, improved or left alone. -/
def offerFilter (graph : FilterGraph) (source dest : MediaTypeId) (cost : UInt32)
    (limit : Option UInt64) (program : String) : Except PlanError (FilterId × FilterGraph) := do
  let source ← graph.checkType source
  let dest ← graph.checkType dest
  match graph.lookupDirect? source dest with
  | some handle =>
      match graph.filter? handle with
      | some filter =>
          let slots := graph.slots.setIfInBounds handle.index
            (some (filter.improve cost limit program))
          return (handle, { graph with slots })
      | none => graph.appendFilter ⟨source, dest, cost, limit.getD 0, program⟩
  | none => graph.appendFilter ⟨source, dest, cost, limit.getD 0, program⟩

/-- Adds a filter that states no size limit. -/
def addFilter (graph : FilterGraph) (source dest : MediaTypeId) (cost : UInt32)
    (program : String) : Except PlanError (FilterId × FilterGraph) :=
  graph.offerFilter source dest cost none program

/-- Adds a filter that states a size limit, where zero is no limit. -/
def addLimitedFilter (graph : FilterGraph) (source dest : MediaTypeId) (cost : UInt32)
    (maxSize : UInt64) (program : String) : Except PlanError (FilterId × FilterGraph) :=
  graph.offerFilter source dest cost (some maxSize) program

/-- Removes a filter, if the handle has one, and drops the adjacency tables with it. -/
def removeFilter (graph : FilterGraph) (handle : FilterId) : Option Filter × FilterGraph :=
  match graph.filter? handle with
  | none => (none, graph)
  | some filter =>
      (some filter,
        { graph with
          slots := graph.slots.setIfInBounds handle.index none
          direct := graph.direct.erase filter.endpoints
          adjacency? := none })

/-! ## Adjacency -/

/-- The adjacency tables that the graph carries, or else tables built from its filters. -/
def adjacency (graph : FilterGraph) : Adjacency :=
  graph.adjacency?.getD (Adjacency.ofFilters graph.filters)

/-- The graph with its adjacency tables built, as a query leaves it. -/
def indexed (graph : FilterGraph) : FilterGraph :=
  { graph with adjacency? := some graph.adjacency }

/-- The types with a filter into `dest`. -/
def producersOf (graph : FilterGraph) (dest : MediaTypeId) : List MediaTypeId :=
  graph.adjacency.producersOf dest

/-- The filters that leave `source`, in order of creation. -/
def filtersFrom (graph : FilterGraph) (source : MediaTypeId) : List (FilterId × Filter) :=
  (graph.adjacency.outgoingOf source).filterMap fun handle =>
    (graph.filter? handle).map fun filter => (handle, filter)

/-- The filters into `dest`, one for each producer. -/
def filtersInto (graph : FilterGraph) (dest : MediaTypeId) : List (FilterId × Filter) :=
  (graph.producersOf dest).filterMap fun source =>
    (graph.lookupDirect? source dest).bind fun handle =>
      (graph.filter? handle).map fun filter => (handle, filter)

/-! ## Building the tables changes no answer -/

@[simp] theorem types_indexed (graph : FilterGraph) : graph.indexed.types = graph.types := rfl

@[simp] theorem filter?_indexed (graph : FilterGraph) (handle : FilterId) :
    graph.indexed.filter? handle = graph.filter? handle := rfl

@[simp] theorem filters_indexed (graph : FilterGraph) : graph.indexed.filters = graph.filters :=
  rfl

@[simp] theorem lookupDirect?_indexed (graph : FilterGraph) (source dest : MediaTypeId) :
    graph.indexed.lookupDirect? source dest = graph.lookupDirect? source dest := rfl

@[simp] theorem adjacency_indexed (graph : FilterGraph) :
    graph.indexed.adjacency = graph.adjacency := rfl

@[simp] theorem producersOf_indexed (graph : FilterGraph) (dest : MediaTypeId) :
    graph.indexed.producersOf dest = graph.producersOf dest := rfl

@[simp] theorem filtersFrom_indexed (graph : FilterGraph) (source : MediaTypeId) :
    graph.indexed.filtersFrom source = graph.filtersFrom source := rfl

@[simp] theorem filtersInto_indexed (graph : FilterGraph) (dest : MediaTypeId) :
    graph.indexed.filtersInto dest = graph.filtersInto dest := rfl

end FilterGraph

end PrintPlanner
