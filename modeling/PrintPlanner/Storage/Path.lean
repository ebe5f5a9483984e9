import PrintPlanner.Text.Pieces

/-!
# Paths

A path is a text whose components stand between slashes.  Empty components carry no
meaning; a single dot stands for the directory itself and matters only at the end of a
path, where it asks for a directory.  Both count for the length of a path, so a path is
its text, and the paths of the directories above it are beginnings of that text.
-/

set_option autoImplicit false

namespace PrintPlanner.Path

/-- Whether a path starts at the root. -/
def isAbsolute (path : String) : Bool := path.toList.head? == some '/'

/-- A path below another one; an absolute path stands for itself. -/
def join (base path : String) : String :=
  if isAbsolute path then path
  else if base = "" ∨ base.toList.getLast? = some '/' then base ++ path
  else base ++ "/" ++ path

/-- The components of a path, without empty ones. -/
def components (path : String) : List String := (Text.pieces '/' path).filter (· ≠ "")

/-- Whether a component says nothing about the place. -/
def isIdle (component : String) : Bool := component = "" || component = "."

/-- The texts of a path and of the directories above it, given the pieces between its
slashes from the last one on.  Each text ends with a component that is not idle. -/
def enclosing : List String → List String
  | [] => []
  | piece :: above =>
      if isIdle piece then enclosing above
      else Text.joinPieces '/' (piece :: above).reverse :: enclosing above

/-- A path as it stands and the paths of the directories above it, the nearest first.  The
root is left out. -/
def ancestors (path : String) : List String :=
  match enclosing (Text.pieces '/' path).reverse with
  | [] => []
  | _ :: above => path :: above

/-- The path of the directory that a path lies in, or the empty text for the root. -/
def parent (path : String) : String := (ancestors path)[1]?.getD ""

/-- The last component of a path, without idle ones at the end. -/
def fileName? (path : String) : Option String :=
  ((Text.pieces '/' path).reverse.dropWhile isIdle).head?

/-- The text of a path as seen from a directory above it, without idle components at the
two ends; a path that does not lie below keeps its text. -/
def relativeTo (root path : String) : String :=
  let rootPieces := Text.pieces '/' root
  let pieces := Text.pieces '/' path
  if rootPieces.isPrefixOf pieces then
    let inner := (pieces.drop rootPieces.length).dropWhile isIdle
    Text.joinPieces '/' (inner.reverse.dropWhile isIdle).reverse
  else path

end PrintPlanner.Path
