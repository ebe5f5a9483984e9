/-!
# Storage faults

The ways in which a file operation can fail, with the wording and the number that the
operating system gives them.
-/

set_option autoImplicit false

namespace PrintPlanner

/-- Why a file operation failed. -/
inductive StorageFault where
  | noSuchFile
  | fileExists
  | notADirectory
  | isADirectory
  | nameTooLong
  /-- A name contains the character that ends names. -/
  | nulInName
  /-- A fault worded by another component. -/
  | reported (text : String)
deriving DecidableEq, Repr

/-- The wording of a storage fault. -/
def StorageFault.message : StorageFault → String
  | .noSuchFile => "No such file or directory (os error 2)"
  | .fileExists => "File exists (os error 17)"
  | .notADirectory => "Not a directory (os error 20)"
  | .isADirectory => "Is a directory (os error 21)"
  | .nameTooLong => "File name too long (os error 36)"
  | .nulInName => "file name contained an unexpected NUL byte"
  | .reported text => text

end PrintPlanner
