import Std.Data.TreeMap
import PrintPlanner.Service.Collaborator
import PrintPlanner.Storage.Extension

/-!
# Classification by extension

A table from the extensions of file names to the names of media types, and the classifier
that goes by it.  The case of an extension does not matter, and a name that the graph has
not registered classifies nothing.

Paths are texts.  So an extension is a text too, and the case of one that is not UTF-8, which
classifies nothing either, does not arise.
-/

set_option autoImplicit false

namespace PrintPlanner

/-- The type names of extensions, whatever the case of their letters. -/
structure ExtensionTable where
  names : Std.TreeMap String String

namespace ExtensionTable

/-- The table without extensions. -/
def empty : ExtensionTable := ⟨∅⟩

/-- The table with one more extension, which replaces the same extension. -/
def insert (table : ExtensionTable) (extension name : String) : ExtensionTable :=
  ⟨table.names.insert (Text.foldCase extension) name⟩

/-- The table of a list of extensions and type names. -/
def ofList (entries : List (String × String)) : ExtensionTable :=
  entries.foldl (fun table entry => table.insert entry.1 entry.2) empty

/-- The registered type of the file at a path. -/
def classify? (table : ExtensionTable) (types : TypeRegistry) (path : String) :
    Option MediaTypeId := do
  let extension ← Path.extension? path
  let name ← table.names[Text.foldCase extension]?
  types.lookupText? name

end ExtensionTable

namespace TypeClassifier

/-- The classifier that goes by the extension. -/
def ofExtensions (table : ExtensionTable) : TypeClassifier :=
  ⟨fun types path => .ok (table.classify? types path)⟩

/-- The classifier that always gives the same answer. -/
def always (answer : Except CollaboratorError (Option MediaTypeId)) : TypeClassifier :=
  ⟨fun _ _ => answer⟩

end TypeClassifier

end PrintPlanner
