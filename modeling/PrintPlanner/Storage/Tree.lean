import Std.Data.TreeMap
import PrintPlanner.Storage.Fault
import PrintPlanner.Storage.Path

/-!
# Directory trees

A directory tree holds numbered directories, of which the first is the root.  A directory
knows the one it lies in and, by name, the files and directories in it; directories are
only ever added, so a number keeps its meaning.  Paths are resolved component by component:
each step needs a directory to start from, and the step to the parent goes where the
directories lead and not where the text does.
-/

set_option autoImplicit false

namespace PrintPlanner

/-- What a name in a directory stands for. -/
inductive TreeEntry where
  | directory (number : Nat)
  | file (bytes : List UInt8)
deriving DecidableEq, Repr

/-- A directory: the number of the one it lies in, and what is in it.  The root lies in
itself. -/
structure Directory where
  parent : Nat
  entries : Std.TreeMap String TreeEntry

/-- Directories by number. -/
structure DirectoryTree where
  directories : Array Directory

namespace DirectoryTree

/-- The number of the root. -/
def root : Nat := 0

/-- The tree of an empty root. -/
def empty : DirectoryTree := ⟨#[⟨root, ∅⟩]⟩

instance : EmptyCollection DirectoryTree := ⟨empty⟩

/-- The greatest number of bytes in a name. -/
def nameLimit : Nat := 255

/-- The greatest number of bytes in a path. -/
def pathLimit : Nat := 4095

/-- The directory that a directory lies in. -/
def parentOf (tree : DirectoryTree) (number : Nat) : Nat :=
  match tree.directories[number]? with
  | some directory => directory.parent
  | none => root

/-- What a name stands for in a directory. -/
def entry? (tree : DirectoryTree) (number : Nat) (name : String) : Option TreeEntry :=
  tree.directories[number]?.bind fun directory => directory.entries[name]?

/-- Puts something under a name into a directory. -/
def put (tree : DirectoryTree) (number : Nat) (name : String) (entry : TreeEntry) :
    DirectoryTree :=
  ⟨tree.directories.modify number fun directory =>
    { directory with entries := directory.entries.insert name entry }⟩

/-- Puts a new directory under a name into a directory. -/
def putDirectory (tree : DirectoryTree) (number : Nat) (name : String) : DirectoryTree :=
  let extended := tree.put number name (.directory tree.directories.size)
  ⟨extended.directories.push ⟨number, ∅⟩⟩

/-! ## Resolving paths -/

/-- The fault of a text that is no path. -/
def pathFault? (path : String) : Option StorageFault :=
  if path.toList.contains '\x00' then some .nulInName
  else if pathLimit < path.utf8ByteSize then some .nameTooLong
  else none

/-- What components lead to from a directory. -/
def walk (tree : DirectoryTree) :
    (number : Nat) → (components : List String) → Except StorageFault TreeEntry
  | number, [] => .ok (.directory number)
  | number, component :: rest =>
      if component = "." then walk tree number rest
      else if component = ".." then walk tree (tree.parentOf number) rest
      else if nameLimit < component.utf8ByteSize then .error .nameTooLong
      else
        match tree.entry? number component with
        | none => .error .noSuchFile
        | some (.directory next) => walk tree next rest
        | some (.file bytes) => if rest = [] then .ok (.file bytes) else .error .notADirectory

/-- What a path leads to. -/
def locate (tree : DirectoryTree) (path : String) : Except StorageFault TreeEntry :=
  match pathFault? path with
  | some fault => .error fault
  | none => tree.walk root (Path.components path)

/-- The directory and the name of a possibly missing entry: the rest of the path has to
exist.  Nothing can be made at the root or at a component of dots. -/
def locateNew (tree : DirectoryTree) (path : String) : Except StorageFault (Nat × String) :=
  match pathFault? path with
  | some fault => .error fault
  | none =>
      match (Path.components path).getLast? with
      | none => .error .fileExists
      | some name =>
          match tree.walk root (Path.components path).dropLast with
          | .error fault => .error fault
          | .ok (.file _) => .error .notADirectory
          | .ok (.directory number) =>
              if name = "." ∨ name = ".." then .error .fileExists
              else if nameLimit < name.utf8ByteSize then .error .nameTooLong
              else .ok (number, name)

/-- Whether a path leads to a directory. -/
def leadsToDirectory (tree : DirectoryTree) (path : String) : Bool :=
  match tree.locate path with
  | .ok (.directory _) => true
  | _ => false

/-! ## Directories -/

/-- Makes one directory. -/
def makeDirectory (tree : DirectoryTree) (path : String) : Except StorageFault DirectoryTree :=
  match tree.locateNew path with
  | .error fault => .error fault
  | .ok (number, name) =>
      if (tree.entry? number name).isSome then .error .fileExists
      else .ok (tree.putDirectory number name)

/-- Tries to make the first of some directories, each lying in the next one.  Those that
cannot be made because the next one is missing are returned, the outermost first. -/
def makeOutermost (tree : DirectoryTree) :
    (missing pending : List String) → Except StorageFault (List String) × DirectoryTree
  | missing, [] => (.ok missing, tree)
  | missing, path :: pending =>
      match tree.makeDirectory path with
      | .ok tree => (.ok missing, tree)
      | .error .noSuchFile => makeOutermost tree (path :: missing) pending
      | .error .fileExists =>
          if tree.leadsToDirectory path then (.ok missing, tree) else (.error .fileExists, tree)
      | .error fault => (.error fault, tree)

/-- Makes directories in order, leaving alone those that are there. -/
def makeEach (tree : DirectoryTree) : List String → Except StorageFault Unit × DirectoryTree
  | [] => (.ok (), tree)
  | path :: rest =>
      match tree.makeDirectory path with
      | .ok tree => makeEach tree rest
      | .error .fileExists =>
          if tree.leadsToDirectory path then makeEach tree rest else (.error .fileExists, tree)
      | .error fault => (.error fault, tree)

/-- Makes a directory and all directories that it lies in, as far as they are missing. -/
def makeDirectories (tree : DirectoryTree) (path : String) :
    Except StorageFault Unit × DirectoryTree :=
  match tree.makeOutermost [] (Path.ancestors path) with
  | (.error fault, tree) => (.error fault, tree)
  | (.ok missing, tree) => tree.makeEach missing

/-! ## Files -/

/-- The bytes of a file. -/
def readFile (tree : DirectoryTree) (path : String) : Except StorageFault (List UInt8) :=
  match tree.locate path with
  | .error fault => .error fault
  | .ok (.file bytes) => .ok bytes
  | .ok (.directory _) => .error .isADirectory

/-- Puts bytes into a file, which is made if it is missing. -/
def writeFile (tree : DirectoryTree) (path : String) (bytes : List UInt8) :
    Except StorageFault DirectoryTree :=
  match tree.locateNew path with
  | .error .fileExists => .error .isADirectory
  | .error fault => .error fault
  | .ok (number, name) =>
      match tree.entry? number name with
      | some (.directory _) => .error .isADirectory
      | _ => .ok (tree.put number name (.file bytes))

/-! ## Listing -/

/-- Everything below a directory down to some depth, each with the names that lead to it. -/
def listing (tree : DirectoryTree) :
    (depth : Nat) → (number : Nat) → List (List String × TreeEntry)
  | 0, _ => []
  | depth + 1, number =>
      match tree.directories[number]? with
      | none => []
      | some directory =>
          directory.entries.toList.flatMap fun (name, entry) =>
            ([name], entry) ::
              match entry with
              | .file _ => []
              | .directory next =>
                  (listing tree depth next).map fun (names, entry) => (name :: names, entry)

/-- Everything below the directory at a path, each with the names that lead to it.  No
directory is deeper than there are directories. -/
def below (tree : DirectoryTree) (path : String) : List (List String × TreeEntry) :=
  match tree.locate path with
  | .ok (.directory number) => tree.listing tree.directories.size number
  | _ => []

end DirectoryTree

end PrintPlanner
