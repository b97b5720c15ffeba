import FeatureCheck.Json.Basic

/-!
# TOML tables

A table is built by statements: headers open tables, and keys put values into the one that is
open. What a table may still be used for depends on how it came about.
-/

namespace FeatureCheck.Toml

set_option autoImplicit false

inductive Origin where
  /-- It stands on the way to the table of a header. -/
  | implied
  | header
  /-- It stands on the way to a value whose key has dots. -/
  | dotted
  deriving DecidableEq, Repr

inductive Item where
  | value (value : Json)
  | table (origin : Origin) (members : List (String × Item))
  /-- A list of tables, latest first. -/
  | tables (entries : List (List (String × Item)))

abbrev Members := List (String × Item)

namespace Members

def item? (members : Members) (key : String) : Option Item :=
  members.lookup key

/-- Puts an item in the place of the one with its key, or behind all others. -/
def put (key : String) (item : Item) : Members → Members
  | [] => [(key, item)]
  | (other, old) :: members =>
      if other = key then (key, item) :: members else (other, old) :: put key item members

/-- Changes the table that a header's leading keys lead to. -/
def within (change : Members → Option Members) : List String → Members → Option Members
  | [], members => change members
  | key :: keys, members =>
      match members.item? key with
      | none => (within change keys []).map fun inner => members.put key (.table .implied inner)
      | some (.table origin inner) =>
          (within change keys inner).map fun inner => members.put key (.table origin inner)
      | some (.tables (entry :: entries)) =>
          (within change keys entry).map fun entry => members.put key (.tables (entry :: entries))
      | some (.tables []) | some (.value _) => none

/-- Opens the table of a header; it may so far stand on the way to others only. -/
def openTable (key : String) (members : Members) : Option Members :=
  match members.item? key with
  | none => some (members.put key (.table .header []))
  | some (.table .implied inner) => some (members.put key (.table .header inner))
  | some _ => none

def openEntry (key : String) (members : Members) : Option Members :=
  match members.item? key with
  | none => some (members.put key (.tables [[]]))
  | some (.tables entries) => some (members.put key (.tables ([] :: entries)))
  | some _ => none

/-- Puts in a value that has no place yet. The table it goes into, if the key has dots, has no header
of its own. -/
def assign (value : Json) : List String → Members → Option Members
  | [], _ => none
  | [key], members =>
      if (members.item? key).isSome then none else some (members.put key (.value value))
  | key :: next :: keys, members =>
      match members.item? key with
      | none =>
          (assign value (next :: keys) []).map fun inner =>
            members.put key (.table .dotted inner)
      | some (.table .dotted inner) =>
          (assign value (next :: keys) inner).map fun inner =>
            members.put key (.table .dotted inner)
      | some (.table .implied inner) =>
          (assign value (next :: keys) inner).map fun inner =>
            members.put key (.table .implied inner)
      | some (.tables (entry :: entries)) =>
          if keys.isEmpty then none
          else
            (assign value (next :: keys) entry).map fun entry =>
              members.put key (.tables (entry :: entries))
      | some (.table .header _) | some (.tables []) | some (.value _) => none

end Members

mutual

def Item.toJson : Item → Json
  | .value value => value
  | .table _ members => .object (membersJson members)
  | .tables entries => .array (entriesJson entries).reverse

def membersJson : List (String × Item) → List (String × Json)
  | [] => []
  | (key, item) :: members => (key, item.toJson) :: membersJson members

def entriesJson : List (List (String × Item)) → List Json
  | [] => []
  | entry :: entries => .object (membersJson entry) :: entriesJson entries

end

end FeatureCheck.Toml
