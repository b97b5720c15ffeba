import FeatureCheck.Catalog.Bundled
import FeatureCheck.FileTree
import FeatureCheck.Path
import FeatureCheck.Runtime

/-!
# Sources of catalogs

A catalog is asked for at a remote source, at the installed runtime, and at last at a source that
always answers with the same bytes. An answer may take time. The built-in sources read files: a
mirror holds the published catalogs by kind and version, an installation the one it generated.
-/

namespace FeatureCheck

set_option autoImplicit false

inductive ResolverError where
  | file (message : String)
  | remote (message : String)
  | catalog (problem : Problem CatalogError)
  | internal (message : String)
  deriving DecidableEq, Repr

namespace ResolverError

def word : ResolverError → String
  | .file _ => "Io"
  | .remote _ => "Remote"
  | .catalog _ => "Catalog"
  | .internal _ => "Internal"

def label : ResolverError → String
  | .file _ => "Catalog IO error"
  | .remote _ => "Remote catalog unavailable"
  | .catalog _ => "Catalog rejected"
  | .internal _ => "Internal resolver error"

def details : ResolverError → String
  | .file message | .remote message | .internal message => message
  | .catalog problem => CatalogError.message problem

def message (problem : Problem ResolverError) : String :=
  problem.describe label details

end ResolverError

abbrev Bytes := List UInt8

/-- An answer, and how many milliseconds after the call it comes. -/
structure Delayed (α : Type) where
  answer : α
  latency : Nat := 0

abbrev RemoteAnswer := Except (Problem ResolverError) Bytes

/-- The installed runtime may have no catalog. -/
abbrev InstalledAnswer := Except (Problem ResolverError) (Option Bytes)

structure Sources where
  remote : RuntimeIdentity → Delayed RemoteAnswer
  installed : Delayed InstalledAnswer
  default : Delayed RemoteAnswer

namespace Sources

def mirrorPath (root : String) (identity : RuntimeIdentity) : String :=
  Path.join (Path.join (Path.join root identity.kind.word) identity.version)
    ("features-" ++ identity.version ++ ".json")

def unreadable (path : String) (error : FileError) : Problem ResolverError :=
  ⟨.file error.message, some ("Reading " ++ path)⟩

def fetchMirrored (files : Files) (root : String) (identity : RuntimeIdentity) : RemoteAnswer :=
  let path := mirrorPath root identity
  (files path).mapError (unreadable path)

def noRemote (identity : RuntimeIdentity) : RemoteAnswer :=
  .error ⟨.remote "no remote catalog source configured", some identity.display⟩

/-- The catalog of an installation; that it has none is no failure. -/
def readInstalled (files : Files) (directory : Option String) (relative : String) :
    InstalledAnswer :=
  match directory with
  | none => .ok none
  | some directory =>
      let path := Path.join directory relative
      match files path with
      | .ok bytes => .ok (some bytes)
      | .error .notFound => .ok none
      | .error error => .error (unreadable path error)

/-- No remote source, no installed runtime, and the bundled catalog. -/
def bundledOnly : Sources where
  remote identity := ⟨noRemote identity, 0⟩
  installed := ⟨.ok none, 0⟩
  default := ⟨.ok Catalog.bundled, 0⟩

end Sources

end FeatureCheck
