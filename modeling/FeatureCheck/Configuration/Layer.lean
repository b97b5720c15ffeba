import FeatureCheck.Configuration.KeyPath
import FeatureCheck.Json.Basic

/-!
# Layers of settings

Settings form a tree. A layer puts values into it, one path at a time: objects are merged member by
member, and any other value replaces what was there.
-/

namespace FeatureCheck

set_option autoImplicit false

namespace Json

/-- Changes the member with a key, which is null if it is missing. -/
def updateMember (change : Json → Json) (key : String) :
    List (String × Json) → List (String × Json)
  | [] => [(key, change .null)]
  | (other, value) :: members =>
      if other = key then (key, change value) :: members
      else (other, value) :: updateMember change key members

/-- Changes the item at a place; the list is made longer with nulls where it is too short. -/
def updateItem (change : Json → Json) (index : Int) (items : List Json) : List Json :=
  let fromEnd := (-index).toNat
  if 0 ≤ index then
    let filled := items ++ List.replicate (index.toNat + 1 - items.length) .null
    filled.modify index.toNat change
  else if fromEnd ≤ items.length then items.modify (items.length - fromEnd) change
  else change .null :: (List.replicate (fromEnd - items.length - 1) .null ++ items)

mutual

/-- Puts a value over another. -/
def overlay : Json → Json → Json
  | .object new, old => .object (overlayMembers new old.members)
  | new, _ => new

def overlayMembers : List (String × Json) → List (String × Json) → List (String × Json)
  | [], old => old
  | (key, value) :: new, old => overlayMembers new (updateMember (overlay value) key old)

end

def change (leaf : Json → Json) : KeyPath → Json → Json
  | [], old => leaf old
  | .name key :: path, old => .object (updateMember (change leaf path) key old.members)
  | .place index :: path, old => .array (updateItem (change leaf path) index old.items)

end Json

/-- Values and the paths that they belong to. -/
abbrev Layer := List (KeyPath × Json)

namespace Layer

def ofObject (value : Json) : Layer :=
  value.members.map fun (key, value) => (KeyPath.ofKey key, value)

/-- Puts the values of a layer over what is there, one after the other. -/
def onto (layer : Layer) (settings : Json) : Json :=
  layer.foldl (fun settings (path, value) => settings.change value.overlay path) settings

end Layer

end FeatureCheck
