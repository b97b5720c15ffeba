import FeatureCheck.Toml.Scalar
import FeatureCheck.Toml.Table

/-!
# TOML documents

A document is a list of statements, each on a line. Dates and times are read as their texts.
-/

namespace FeatureCheck.Toml

open Text

set_option autoImplicit false

/-- Passes over blanks, line ends and comments. -/
def dropLayout (inComment : Bool) : List Char → List Char
  | [] => []
  | '\r' :: '\n' :: text => dropLayout false text
  | '\n' :: text => dropLayout false text
  | '#' :: text => dropLayout true text
  | c :: text =>
      if inComment && !isControl c || c == ' ' || c == '\t' then dropLayout inComment text
      else c :: text

def layout : Reader Unit := do
  set (dropLayout false (← get))

def blanks : Reader Unit := do
  let _ ← Reader.takeWhile fun c => c = ' ' ∨ c = '\t'

/-- What ends a statement: blanks, a comment, and the line or the text. -/
def lineEnd : Reader Unit := do
  blanks
  if ← Reader.accept "#" then
    let _ ← Reader.takeWhile fun c => !isControl c
  unless ← Reader.accept "\n" do
    unless ← Reader.accept "\r\n" do
      unless ← Reader.ended do failure

/-! ## Keys -/

def isBare (c : Char) : Bool :=
  c.isAlphanum || c == '_' || c == '-'

def key : Reader String := do
  match ← Reader.peek? with
  | some '"' | some '\'' => return String.ofList (← quoted)
  | _ =>
      let text ← Reader.takeWhile isBare
      if text.isEmpty then failure
      return String.ofList text

def keys : Nat → Reader (List String)
  | 0 => failure
  | fuel + 1 => do
      blanks
      let first ← key
      blanks
      if ← Reader.accept "." then return first :: (← keys fuel)
      return [first]

/-- How many parts a key may have, and how deeply brackets may be nested. -/
def greatestDepth : Nat := 80

def keyPath : Reader (List String) :=
  keys greatestDepth

/-! ## Values -/

def scalar : Reader Json := do
  match ← Reader.peek? with
  | some '"' | some '\'' => return .text (String.ofList (← anyText))
  | _ =>
      match plainValue? (← plainText) with
      | some value => return value
      | none => failure

def value : Nat → Reader Json
  | 0 => scalar
  | depth + 1 => do
      let count := (← get).length
      if ← Reader.accept "[" then
        return .array (← Reader.itemsUntil "]" layout (value depth) count)
      else if ← Reader.accept "\x7b" then
        let entry := do
          let path ← keyPath
          layout
          Reader.expect "="
          layout
          return (path, ← value depth)
        let entries ← Reader.itemsUntil "\x7d" layout entry count
        let members := entries.foldlM (fun members (path, value) =>
          Members.assign value path members) []
        match members with
        | some members => return .object (membersJson members)
        | none => failure
      else scalar

/-! ## Statements -/

inductive Statement where
  | assign (path : List String) (value : Json)
  | table (path : List String)
  | entry (path : List String)

def statement : Reader Statement := do
  if ← Reader.accept "[[" then
    let path ← keyPath
    Reader.expect "]]"
    return .entry path
  if ← Reader.accept "[" then
    let path ← keyPath
    Reader.expect "]"
    return .table path
  let path ← keyPath
  Reader.expect "="
  blanks
  return .assign path (← value greatestDepth)

def statements : Nat → Reader (List Statement)
  | 0 => failure
  | count + 1 => do
      layout
      if ← Reader.ended then return []
      let first ← statement
      lineEnd
      return first :: (← statements count)

/-- The tables so far, and the keys of the one that is open. -/
structure Building where
  members : Members
  place : List String

def Building.follow (building : Building) : Statement → Option Building
  | .assign path value =>
      (building.members.within (Members.assign value path) building.place).map fun members =>
        { building with members := members }
  | .table path => do
      let members ← building.members.within (Members.openTable (← path.getLast?)) path.dropLast
      return ⟨members, path⟩
  | .entry path => do
      let members ← building.members.within (Members.openEntry (← path.getLast?)) path.dropLast
      return ⟨members, path⟩

def parse (text : List Char) : Option Json := do
  let building ← (← (statements (text.length + 1)).all? text).foldlM Building.follow ⟨[], []⟩
  return .object (membersJson building.members)

end FeatureCheck.Toml
