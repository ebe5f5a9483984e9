import PrintPlanner.Settings.Store
import PrintPlanner.Storage.Tree

/-!
# Settings in a directory

A store that keeps the bytes of each key in a file below a base directory.  Keys are
not checked: slashes and dots in a key act as they do in any path.
-/

set_option autoImplicit false

namespace PrintPlanner

/-- A directory tree with the base directory of the stored keys. -/
structure DirectoryStore where
  base : String
  tree : DirectoryTree

namespace DirectoryStore

/-- The store at a base directory, which is made if it is missing.  The tree may have
changed even if that fails. -/
def openAt (tree : DirectoryTree) (base : String) :
    Except ConfigError DirectoryStore × DirectoryTree :=
  match tree.makeDirectories base with
  | (.error fault, tree) => (.error (.storage fault), tree)
  | (.ok (), tree) => (.ok ⟨base, tree⟩, tree)

/-- The base directory of a user's settings: below the configured directory if that is
given as an absolute path, and otherwise below the home directory. -/
def defaultBase (configured : Option String) (home : String) : String :=
  let directory :=
    match configured with
    | some path => if Path.isAbsolute path then path else Path.join home ".config"
    | none => Path.join home ".config"
  Path.join directory "spool"

/-- The path of a key's file. -/
def pathOf (store : DirectoryStore) (key : String) : String :=
  Path.join store.base (key ++ ".json")

/-- The bytes of a key's file. -/
def load (store : DirectoryStore) (key : String) : Except ConfigError (List UInt8) :=
  match store.tree.readFile (store.pathOf key) with
  | .ok bytes => .ok bytes
  | .error .noSuchFile => .error .notFound
  | .error fault => .error (.storage fault)

/-- Writes the file of a key, and makes the directories that it lies in. -/
def save (store : DirectoryStore) (key : String) (bytes : List UInt8) :
    Except ConfigError Unit × DirectoryStore :=
  match store.tree.makeDirectories (Path.parent (store.pathOf key)) with
  | (.error fault, tree) => (.error (.storage fault), { store with tree })
  | (.ok (), tree) =>
      match tree.writeFile (store.pathOf key) bytes with
      | .error fault => (.error (.storage fault), { store with tree })
      | .ok tree => (.ok (), { store with tree })

instance : ConfigStore DirectoryStore where
  loadRaw store key := (store.load key, store)
  saveRaw store key bytes := store.save key bytes

end DirectoryStore

end PrintPlanner
