import PrintPlanner.Storage.Path

/-!
# Extensions of file names

The extension of a path is what follows the last dot in the name of the file.  A dot at
the start of a name opens no extension, and neither does the name of the parent
directory have one.
-/

set_option autoImplicit false

namespace PrintPlanner.Path

/-- What follows the last dot of a file name, if anything stands before that dot. -/
def extensionOfName? (name : List Char) : Option String :=
  let reversed := name.reverse
  match reversed.dropWhile (· != '.') with
  | [] => none
  | _ :: stem =>
      if stem.isEmpty then none else some (String.ofList (reversed.takeWhile (· != '.')).reverse)

/-- The extension of the file that a path names.  The step to the parent directory names
none. -/
def extension? (path : String) : Option String :=
  match Path.fileName? path with
  | none => none
  | some name => if name = ".." then none else extensionOfName? name.toList

end PrintPlanner.Path
