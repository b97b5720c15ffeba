/-!
# Paths

A path is a text; nothing in it is normalised but its end, where an extension is appended. Reading
at a path gives bytes or fails.
-/

namespace FeatureCheck

set_option autoImplicit false

namespace Path

def isAbsolute (path : String) : Bool :=
  path.toList.head? = some '/'

/-- Appends a part behind a slash; an absolute part replaces the path. -/
def join (path part : String) : String :=
  if isAbsolute part then part
  else if path.isEmpty || path.toList.getLast? = some '/' then path ++ part
  else path ++ "/" ++ part

/-- Appends an extension to the name that a path ends in, and drops what stands behind the name. A
path may end in no name. -/
def withExtension? (path extension : String) : Option String :=
  let parts := (path.toList.splitOn '/').reverse.dropWhile fun part => part.isEmpty || part = ['.']
  match parts with
  | [] => none
  | name :: front =>
      if name = ['.', '.'] then none
      else
        let whole := (name :: front).reverse
        some (String.ofList (['/'].intercalate whole) ++ "." ++ extension)

end Path

inductive FileError where
  | notFound
  /-- No file can have the name. -/
  | unusableName
  | notADirectory
  | isADirectory
  | notText
  deriving DecidableEq, Repr

def FileError.message : FileError → String
  | .notFound => "No such file or directory"
  | .unusableName => "File name too long"
  | .notADirectory => "Not a directory"
  | .isADirectory => "Is a directory"
  | .notText => "stream did not contain valid UTF-8"

/-- What reading the file at a path gives. -/
abbrev Files := String → Except FileError (List UInt8)

end FeatureCheck
