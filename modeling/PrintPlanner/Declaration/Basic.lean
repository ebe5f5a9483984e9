import PrintPlanner.Service.Collaborator

/-!
# Declarations

A configuration is a list of declarations of media types and filters by name.  The
loader of such a list first registers every mentioned name, in order of mention, and
then adds the filters; it stops at the first name that it cannot accept.
-/

set_option autoImplicit false

namespace PrintPlanner

/-- A declared media type or filter. -/
inductive Declaration where
  | mediaType (name : String)
  | filter (source dest : String) (cost : UInt32) (program : String)
  | limitedFilter (source dest : String) (cost : UInt32) (maxSize : UInt64) (program : String)
deriving DecidableEq, Repr

namespace Declaration

/-- The names that a declaration mentions, in order. -/
def names : Declaration → List String
  | mediaType name => [name]
  | filter source dest _ _ => [source, dest]
  | limitedFilter source dest _ _ _ => [source, dest]

/-- Registers or finds the type of a declared name. -/
def addName (graph : FilterGraph) (name : String) :
    Except CollaboratorError (MediaTypeId × FilterGraph) :=
  match Text.cutAtFirst '/' name with
  | none => .error (.other ("bad type name " ++ Text.quote name))
  | some (superType, subType) => (graph.addType superType subType).mapError .plan

/-- Registers declared names in order, and returns the graph as far as it got. -/
def addNames : List String → FilterGraph → Except CollaboratorError Unit × FilterGraph
  | [], graph => (.ok (), graph)
  | name :: rest, graph =>
      match addName graph name with
      | .error error => (.error error, graph)
      | .ok (_, graph) => addNames rest graph

/-- Adds a declared filter, which has a size limit even if that is zero. -/
def addNamedFilter (graph : FilterGraph) (source dest : String) (cost : UInt32)
    (maxSize : UInt64) (program : String) : Except CollaboratorError Unit × FilterGraph :=
  match addName graph source with
  | .error error => (.error error, graph)
  | .ok (sourceId, graph) =>
      match addName graph dest with
      | .error error => (.error error, graph)
      | .ok (destId, graph) =>
          match graph.addLimitedFilter sourceId destId cost maxSize program with
          | .error error => (.error (.plan error), graph)
          | .ok (_, graph) => (.ok (), graph)

/-- Adds the filter of a declaration, if it declares one. -/
def addDeclaredFilter (graph : FilterGraph) :
    Declaration → Except CollaboratorError Unit × FilterGraph
  | mediaType _ => (.ok (), graph)
  | filter source dest cost program => addNamedFilter graph source dest cost 0 program
  | limitedFilter source dest cost maxSize program =>
      addNamedFilter graph source dest cost maxSize program

/-- Adds the filters of declarations in order, and returns the graph as far as it got. -/
def addDeclaredFilters :
    List Declaration → FilterGraph → Except CollaboratorError Unit × FilterGraph
  | [], graph => (.ok (), graph)
  | declaration :: rest, graph =>
      match addDeclaredFilter graph declaration with
      | (.error error, graph) => (.error error, graph)
      | (.ok (), graph) => addDeclaredFilters rest graph

/-- Adds the types and then the filters of a list of declarations. -/
def loadAll (declarations : List Declaration) (graph : FilterGraph) :
    Except CollaboratorError Unit × FilterGraph :=
  match addNames (declarations.flatMap names) graph with
  | (.error error, graph) => (.error error, graph)
  | (.ok (), graph) => addDeclaredFilters declarations graph

end Declaration

/-- Where declarations come from: a fixed list, or a failure. -/
inductive DeclarationSource where
  | listed (declarations : List Declaration)
  | failing (error : CollaboratorError)
deriving DecidableEq, Repr

/-- The loader of a source. -/
def DeclarationSource.loader : DeclarationSource → DeclarationLoader
  | listed declarations => ⟨Declaration.loadAll declarations⟩
  | failing error => ⟨fun graph => (.error error, graph)⟩

end PrintPlanner
