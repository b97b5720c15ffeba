import FeatureCheck.Path
import FeatureCheck.Text.Utf8

/-!
# File trees

The files and directories below one directory. A path is followed part by part: an empty part or a
dot stays where it is, two dots go up, and only a directory leads on. Outside of the tree only the
directories above it are known, and nothing by its name.
-/

namespace FeatureCheck

set_option autoImplicit false

/-- A place in a tree: the names that lead to it from the top. -/
abbrev Place := List String

inductive FileNode where
  | file (content : List UInt8)
  | directory
  deriving DecidableEq, Repr

/-- What stands at each place below the top; a later entry replaces an earlier one. -/
structure FileTree where
  nodes : List (Place × FileNode)
  deriving Repr

namespace FileTree

def empty : FileTree :=
  ⟨[]⟩

/-- The node at a place; the top is a directory, as is every place above another. -/
def node? (tree : FileTree) (place : Place) : Option FileNode :=
  if place.isEmpty then some .directory
  else
    match tree.nodes.reverse.find? fun entry => entry.1 = place with
    | some entry => some entry.2
    | none =>
        if tree.nodes.any fun entry => place.isPrefixOf entry.1 then some .directory else none

def parts (path : String) : List String :=
  (path.toList.splitOn '/').map String.ofList

def longestName : Nat := 255

def longestPath : Nat := 4095

/-- Refuses paths that no file can have. -/
def checkPath (path : String) : Except FileError Unit :=
  if path.toList.contains '\x00' ∨ longestPath < path.utf8ByteSize then .error .unusableName
  else .ok ()

/-- Parts that lead to no other place below where they start. -/
def isStill (part : String) : Bool :=
  part ∈ ["", ".", ".."]

/-- What a path leads to that leaves the tree: a directory above it, or nothing that is known. -/
def outside (parts : List String) : FileError :=
  if parts.all isStill then .isADirectory else .notFound

/-- Follows the parts of a path from a place. -/
def follow (tree : FileTree) (place : Place) : List String → Except FileError Place
  | [] => .ok place
  | part :: rest =>
      match tree.node? place with
      | none => .error .notFound
      | some (.file _) => .error .notADirectory
      | some .directory =>
          if part = "" ∨ part = "." then follow tree place rest
          else if part = ".." then
            if place.isEmpty then .error (outside rest) else follow tree place.dropLast rest
          else if longestName < part.utf8ByteSize then .error .unusableName
          else follow tree (place ++ [part]) rest

def locate (tree : FileTree) (path : String) : Except FileError Place := do
  checkPath path
  if path.isEmpty then .error .notFound
  else if path.toList.head? = some '/' then .error (outside (parts path))
  else tree.follow [] (parts path)

def read (tree : FileTree) : Files := fun path => do
  match tree.node? (← tree.locate path) with
  | none => .error .notFound
  | some .directory => .error .isADirectory
  | some (.file content) => .ok content

def add (tree : FileTree) (place : Place) (node : FileNode) : FileTree :=
  ⟨tree.nodes ++ [(place, node)]⟩

/-- The place of the directory that a path leads to; the empty path stays at the top. -/
def locateDirectory (tree : FileTree) (path : String) : Except FileError Place := do
  let place ← tree.follow [] (parts path)
  match tree.node? place with
  | some .directory => .ok place
  | some (.file _) => .error .notADirectory
  | none => .error .notFound

def remove (tree : FileTree) (place : Place) : FileTree :=
  ⟨tree.nodes.filter fun entry => entry.1 ≠ place⟩

def makeDirectories (tree : FileTree) (place : Place) : List String → Except FileError FileTree
  | [] => .ok tree
  | part :: rest =>
      if part = "" ∨ part = "." then makeDirectories tree place rest
      else if part = ".." then
        if place.isEmpty then .error .notFound else makeDirectories tree place.dropLast rest
      else if longestName < part.utf8ByteSize then .error .unusableName
      else
        let next := place ++ [part]
        match tree.node? next with
        | some .directory => makeDirectories tree next rest
        | some (.file _) => .error .notADirectory
        | none => makeDirectories (tree.add next .directory) next rest

/-- Appends to a file, which is made if it is missing. -/
def append (tree : FileTree) (place : Place) (content : List UInt8) : Except FileError FileTree :=
  if place.any fun name => longestName < name.utf8ByteSize then .error .unusableName
  else match tree.node? place with
    | some .directory => .error .isADirectory
    | some (.file start) => .ok (tree.add place (.file (start ++ content)))
    | none => .ok (tree.add place (.file content))

/-- The names of the files directly in a directory, each once. -/
def filesIn (tree : FileTree) (place : Place) : List String :=
  ((tree.nodes.filterMap fun entry =>
    match entry.1.getLast?, tree.node? entry.1 with
    | some name, some (.file _) => if entry.1.dropLast = place then some name else none
    | _, _ => none)).eraseDups

end FileTree

end FeatureCheck
