import PrintPlanner.Declaration.Basic

/-!
# Graph fixtures

A fixture is a graph that is written down by names and known to be sound.  Its types
are registered on first mention.  A step that a sound fixture cannot contain is a fault
of the fixture, which ends the building with a message for its author.
-/

set_option autoImplicit false

namespace PrintPlanner

/-- An input of a fixture's printer, by name. -/
structure FixtureInput where
  source : String
  cost : UInt32
  program : String
deriving DecidableEq, Repr

/-- A step in building a fixture. -/
inductive FixtureStep where
  | declare (declaration : Declaration)
  | printer (name : String) (inputs : List FixtureInput)
deriving DecidableEq, Repr

/-- Why a fixture is not sound. -/
inductive FixtureFault where
  /-- A name has no slash. -/
  | unsplitName
  | type (error : PlanError)
  | filter (error : PlanError)
  | printer (error : PlanError)
  | printerFilter (error : PlanError)
  /-- A handle was asked for that the fixture does not have. -/
  | missingType (name : String)
deriving DecidableEq, Repr

/-- A planning error spelled out by its kind and contents. -/
def PlanError.describe : PlanError → String
  | .unknownHandle kind raw =>
      "InvalidReference \x7b kind: " ++ (if kind = .mediaType then "MediaType" else "Filter") ++
        ", index: " ++ toString raw.toNat ++ " \x7d"
  | .invalidName reason => "InvalidName(" ++ Text.quote reason.message ++ ")"
  | .capacityOverflow => "AllocationFailure(TryReserveError \x7b kind: CapacityOverflow \x7d)"

/-- The message for the author of an unsound fixture. -/
def FixtureFault.message : FixtureFault → String
  | .unsplitName => "fixture names are super/type"
  | .type error => "fixture type: " ++ error.describe
  | .filter error => "fixture filter: " ++ error.describe
  | .printer error => "fixture printer: " ++ error.describe
  | .printerFilter error => "fixture printer filter: " ++ error.describe
  | .missingType name => "fixture has no type " ++ name

namespace Fixture

/-- Registers or finds the type of a name. -/
def addName (graph : FilterGraph) (name : String) :
    Except FixtureFault (MediaTypeId × FilterGraph) :=
  match Text.cutAtFirst '/' name with
  | none => .error .unsplitName
  | some (superType, subType) => (graph.addType superType subType).mapError .type

/-- Registers the two types of a filter. -/
def addEnds (graph : FilterGraph) (source dest : String) :
    Except FixtureFault (MediaTypeId × MediaTypeId × FilterGraph) := do
  let (sourceId, graph) ← addName graph source
  let (destId, graph) ← addName graph dest
  .ok (sourceId, destId, graph)

/-- Adds the type or the filter of a declaration.  A filter without a declared size limit
states none. -/
def declare (graph : FilterGraph) : Declaration → Except FixtureFault FilterGraph
  | .mediaType name => (addName graph name).map Prod.snd
  | .filter source dest cost program => do
      let (sourceId, destId, graph) ← addEnds graph source dest
      ((graph.addFilter sourceId destId cost program).mapError .filter).map Prod.snd
  | .limitedFilter source dest cost maxSize program => do
      let (sourceId, destId, graph) ← addEnds graph source dest
      ((graph.addLimitedFilter sourceId destId cost maxSize program).mapError .filter).map Prod.snd

/-- Adds the inputs of a printer. -/
def addInputs (sink : MediaTypeId) :
    List FixtureInput → FilterGraph → Except FixtureFault FilterGraph
  | [], graph => .ok graph
  | input :: rest, graph => do
      let (source, graph) ← addName graph input.source
      let (_, graph) ←
        (graph.addFilter source sink input.cost input.program).mapError .printerFilter
      addInputs sink rest graph

/-- Carries out a step. -/
def apply (graph : FilterGraph) : FixtureStep → Except FixtureFault FilterGraph
  | .declare declaration => declare graph declaration
  | .printer name inputs => do
      let (sink, graph) ← (graph.addSinkType name).mapError .printer
      addInputs sink inputs graph

/-- Carries out steps in order. -/
def build : List FixtureStep → FilterGraph → Except FixtureFault FilterGraph
  | [], graph => .ok graph
  | step :: rest, graph => do
      let graph ← apply graph step
      build rest graph

/-- The handle of a name that the fixture is known to contain. -/
def typeId (graph : FilterGraph) (name : String) : Except FixtureFault MediaTypeId :=
  match graph.types.lookupText? name with
  | some handle => .ok handle
  | none => .error (.missingType name)

end Fixture

end PrintPlanner
