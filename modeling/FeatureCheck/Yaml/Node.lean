import FeatureCheck.Json.Basic
import FeatureCheck.Yaml.Property

/-!
# YAML nodes

The values of documents. A plain scalar is null, a truth value, a number, or a text, as it looks or
as its tag says; any other scalar is a text.
-/

namespace FeatureCheck.Yaml

open Text

set_option autoImplicit false

inductive Node where
  | null
  | bool (value : Bool)
  | whole (value : Int)
  /-- A number that is not whole, as it is written. -/
  | real (literal : String)
  | text (value : String)
  | list (items : List Node)
  | mapping (members : List (Node × Node))
  /-- A scalar that is not what its tag says, or an alias of a node that it is a part of. -/
  | unknown
  deriving Repr

namespace Node

/-! ## Scalars -/

/-- A whole number in another base, behind the mark of that base. -/
def inBase? (base : Nat) (text : List Char) : Option Int := do
  let digits ← (unsigned text).mapM hexValue?
  if digits.isEmpty ∨ digits.any (base ≤ ·) then none
  else bounded? (signedBy text (valueInBase base digits))

/-- A whole number, in base ten unless its mark says otherwise. -/
def integer? (text : List Char) : Option Int :=
  match text with
  | '0' :: 'x' :: digits => inBase? 16 digits
  | '0' :: 'o' :: digits => inBase? 8 digits
  | '+' :: digits => wholeNumber? digits
  | _ => wholeNumber? text

/-- Texts for infinities and for none of the numbers. -/
def isUnbounded (text : String) : Bool :=
  text ∈ [".inf", ".Inf", ".INF", "+.inf", "+.Inf", "+.INF", "-.inf", "-.Inf", "-.INF", ".nan",
    ".NaN", ".NAN"]

def isReal (text : String) : Bool :=
  isUnbounded text || text.toList.any Char.isDigit && isNumeral text.toList

/-- What a plain scalar without a tag stands for. -/
def ofPlain (text : String) : Node :=
  if text ∈ ["", "~", "null"] then .null
  else if text ∈ ["true", "True", "TRUE"] then .bool true
  else if text ∈ ["false", "False", "FALSE"] then .bool false
  else match integer? text.toList with
    | some value => .whole value
    | none => if isReal text then .real text else .text text

/-- What a plain scalar stands for whose tag is one of those that every document knows. -/
def ofTagged (suffix text : String) : Node :=
  match suffix with
  | "bool" => if text = "true" then .bool true else if text = "false" then .bool false else .unknown
  | "int" => (wholeNumber? text.toList).elim .unknown .whole
  | "float" => if isReal text then .real text else .unknown
  | "null" => if text = "~" ∨ text = "null" then .null else .unknown
  | _ => .text text

/-- What the handle of the tags stands for that every document knows. -/
def coreHandle : String := "tag:yaml.org,2002:"

def ofScalar (isPlain : Bool) (tag : Option Tag) (text : String) : Node :=
  if !isPlain then .text text
  else match tag with
    | none => ofPlain text
    | some tag => if tag.handle = coreHandle then ofTagged tag.suffix text else .text text

/-! ## Mappings -/

mutual

def same : Node → Node → Bool
  | .null, .null => true
  | .bool left, .bool right => left == right
  | .whole left, .whole right => left == right
  | .real left, .real right => left == right
  | .text left, .text right => left == right
  | .list left, .list right => sameItems left right
  | .mapping left, .mapping right => sameMembers left right
  | .unknown, .unknown => true
  | _, _ => false

def sameItems : List Node → List Node → Bool
  | [], [] => true
  | left :: lefts, right :: rights => left.same right && sameItems lefts rights
  | _, _ => false

def sameMembers : List (Node × Node) → List (Node × Node) → Bool
  | [], [] => true
  | (key, left) :: lefts, (other, right) :: rights =>
      key.same other && left.same right && sameMembers lefts rights
  | _, _ => false

end

def isUnknown : Node → Bool
  | .unknown => true
  | _ => false

/-- Pairs keys and values, which take turns. An unknown node is no key: the next one takes its
place. -/
def pairs : Option Node → List Node → List (Node × Node)
  | _, [] => []
  | none, node :: nodes => pairs (if node.isUnknown then none else some node) nodes
  | some key, node :: nodes => (key, node) :: pairs none nodes

/-- The mapping of keys and values that take turns; keys must be distinct. -/
def mapping? (nodes : List Node) : Option Node :=
  let members := pairs none nodes
  if (members.map (·.1)).Pairwise fun left right => left.same right = false then
    some (.mapping members)
  else none

/-! ## Values -/

def name? : Node → Option String
  | .text name => some name
  | .real name => some name
  | .whole value => some (toString value)
  | .bool value => some (if value then "true" else "false")
  | _ => none

mutual

/-- The value of a node: keys are names, and numbers are finite as they are written. -/
def toJson? : Node → Option Json
  | .null | .unknown => some .null
  | .bool value => some (.bool value)
  | .whole value => some (.number (.whole value))
  | .real literal => if isUnbounded literal then none else some (.number (.other literal))
  | .text value => some (.text value)
  | .list items => (itemsToJson? items).map .array
  | .mapping members => (membersToJson? members).map .object

def itemsToJson? : List Node → Option (List Json)
  | [] => some []
  | item :: items => do return (← item.toJson?) :: (← itemsToJson? items)

def membersToJson? : List (Node × Node) → Option (List (String × Json))
  | [] => some []
  | (key, value) :: members => do
      return (← key.name?, ← value.toJson?) :: (← membersToJson? members)

end

end Node

end FeatureCheck.Yaml
