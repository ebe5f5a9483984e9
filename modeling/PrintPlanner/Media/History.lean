import PrintPlanner.Media.Registry

/-!
# Histories of a registry

The registrations that a registry receives are written down as data, so that its past is a
list.  Each registration returns its answer with the registry that it leaves; a refused one
leaves the registry as it was.
-/

set_option autoImplicit false

namespace PrintPlanner

/-- A registration of a media type. -/
inductive Registration where
  | addType (superType subType : String)
  | addSinkType (printer : String)
  | insert (media : MediaType)
deriving DecidableEq

namespace Registration

/-- The name under which a type is to be registered, in lower case. -/
def name : Registration → TypeName
  | addType superType subType => .folded superType subType
  | addSinkType printer => .folded MediaType.sinkSuperType printer
  | insert media => media.toTypeName

/-- The media type that is to be registered, or why its name is refused. -/
def media : Registration → Except NameError MediaType
  | addType superType subType => MediaType.ofParts superType subType
  | addSinkType printer => MediaType.ofParts MediaType.sinkSuperType printer
  | insert media => .ok media

end Registration

/-- A registration with its answer. -/
abbrev AnsweredRegistration := Registration × Except PlanError MediaTypeId

namespace TypeRegistry

/-- Registers or finds a type. -/
def register (registry : TypeRegistry) :
    Registration → Except PlanError (MediaTypeId × TypeRegistry)
  | .addType superType subType => registry.addType superType subType
  | .addSinkType printer => registry.addSinkType printer
  | .insert media => registry.insert media

/-- Carries out a registration. -/
def perform (registry : TypeRegistry) (registration : Registration) :
    Except PlanError MediaTypeId × TypeRegistry :=
  match registry.register registration with
  | .ok (handle, changed) => (.ok handle, changed)
  | .error error => (.error error, registry)

/-- The registry after some registrations. -/
def after (registry : TypeRegistry) : List Registration → TypeRegistry
  | [] => registry
  | registration :: rest => (registry.perform registration).2.after rest

/-- The answers to some registrations, each with its registration. -/
def answers (registry : TypeRegistry) : List Registration → List AnsweredRegistration
  | [] => []
  | registration :: rest =>
      (registration, (registry.perform registration).1) ::
        (registry.perform registration).2.answers rest

end TypeRegistry

end PrintPlanner
