/-!
# JSON values
-/

namespace FeatureCheck

set_option autoImplicit false

/-- A number as it is written: a whole number that fits in 64 bits, or any other. -/
inductive JsonNumber where
  | whole (value : Int)
  | other (literal : String)
  deriving DecidableEq, Repr

/-- The members of an object stand in the order in which they are written. -/
inductive Json where
  | null
  | bool (value : Bool)
  | number (value : JsonNumber)
  | text (value : String)
  | array (items : List Json)
  | object (members : List (String × Json))
  deriving Repr, Inhabited

namespace Json

def texts (values : List String) : Json :=
  .array (values.map .text)

/-- The members of an object; other values have none. -/
def members : Json → List (String × Json)
  | .object members => members
  | _ => []

/-- The items of an array; other values have none. -/
def items : Json → List Json
  | .array items => items
  | _ => []

def ofOption (value : Option String) : Json :=
  value.elim .null .text

end Json

end FeatureCheck
