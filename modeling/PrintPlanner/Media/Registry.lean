import Std.Data.TreeMap
import PrintPlanner.Media.Basic
import PrintPlanner.Handle

/-!
# The registry of media types

The registry stores every distinct media type once, in order of registration, and
keeps a table from names to handles beside the stored types.  Types are only ever
appended, so a handle keeps its meaning.  Registering a type that is already
stored finds it again.
-/

set_option autoImplicit false

namespace PrintPlanner

/-- The registered media types and the handles of their names. -/
structure TypeRegistry where
  types : Array MediaType
  byName : Std.TreeMap TypeName MediaTypeId

namespace TypeRegistry

/-- The registry without types. -/
def empty : TypeRegistry := ⟨#[], ∅⟩

instance : EmptyCollection TypeRegistry := ⟨empty⟩

instance : Inhabited TypeRegistry := ⟨empty⟩

/-- The number of registered types. -/
def size (registry : TypeRegistry) : Nat := registry.types.size

/-- The handle of a media type, which is registered first if it is new. -/
def insert (registry : TypeRegistry) (media : MediaType) :
    Except PlanError (MediaTypeId × TypeRegistry) :=
  match registry.byName[media.toTypeName]? with
  | some handle => .ok (handle, registry)
  | none =>
      if registry.size < handleCount then
        let handle := MediaTypeId.ofIndex registry.size
        .ok (handle, ⟨registry.types.push media, registry.byName.insert media.toTypeName handle⟩)
      else .error (.invalidName (.registryFull media.text))

/-- The handle of the type with the given parts, which is registered first if it is new. -/
def addType (registry : TypeRegistry) (superType subType : String) :
    Except PlanError (MediaTypeId × TypeRegistry) :=
  match MediaType.ofParts superType subType with
  | .error fault => .error (.invalidName fault)
  | .ok media => registry.insert media

/-- The handle of a printer's own type, which is registered first if it is new. -/
def addSinkType (registry : TypeRegistry) (printer : String) :
    Except PlanError (MediaTypeId × TypeRegistry) :=
  registry.addType MediaType.sinkSuperType printer

/-- The registry after registering some types in order. -/
def insertAll : TypeRegistry → List MediaType → Except PlanError TypeRegistry
  | registry, [] => .ok registry
  | registry, media :: rest => do
      let (_, registry) ← registry.insert media
      insertAll registry rest

/-- The handle registered under two parts, whatever the case of their letters. -/
def lookup? (registry : TypeRegistry) (superType subType : String) : Option MediaTypeId :=
  registry.byName[TypeName.folded superType subType]?

/-- The handle registered under a `super/type` text, which is cut at its first slash. -/
def lookupText? (registry : TypeRegistry) (text : String) : Option MediaTypeId :=
  match Text.cutAtFirst '/' text with
  | none => none
  | some (superType, subType) => registry.lookup? superType subType

/-- The type behind a handle. -/
def get? (registry : TypeRegistry) (handle : MediaTypeId) : Option MediaType :=
  registry.types[handle.index]?

/-- Whether a handle names a registered type. -/
def contains (registry : TypeRegistry) (handle : MediaTypeId) : Bool :=
  handle.index < registry.size

/-- Whether a handle names a printer's own type; an unknown handle does not. -/
def isSink (registry : TypeRegistry) (handle : MediaTypeId) : Bool :=
  (registry.get? handle).any MediaType.isSink

/-- The handles of all registered types, in order of registration. -/
def handles (registry : TypeRegistry) : List MediaTypeId :=
  (List.range registry.size).map MediaTypeId.ofIndex

/-- All registered types with their handles, in order of registration. -/
def entries (registry : TypeRegistry) : List (MediaTypeId × MediaType) :=
  registry.handles.zip registry.types.toList

end TypeRegistry

end PrintPlanner
