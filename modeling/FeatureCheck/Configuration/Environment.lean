import FeatureCheck.Configuration.Layer
import FeatureCheck.Text.Lowercase
import FeatureCheck.Text.Numeral

/-!
# Settings from the environment

A variable whose name starts with `FCOMPAT__`, in any case, sets the value of a path: the rest of
its name in lower case, two underscores standing for a dot. Texts that look like truth values or
numbers are taken as such.
-/

namespace FeatureCheck.Environment

set_option autoImplicit false

abbrev Variables := List (String × String)

/-- What the names of variables for settings start with, in lower case. -/
def lead : String := "fcompat__"

/-- Puts a dot for two underscores, from the front. -/
def dotted : List Char → List Char
  | '_' :: '_' :: rest => '.' :: dotted rest
  | c :: rest => c :: dotted rest
  | [] => []

def key? (name : String) : Option String :=
  (lead.toList.isPrefixOf? (Text.lowercase name).toList).map fun rest =>
    String.ofList (dotted rest)

def valueOf (text : String) : Json :=
  if Text.lowercase text = "true" then .bool true
  else if Text.lowercase text = "false" then .bool false
  else match Text.wholeNumber? text.toList with
    | some value => .number (.whole value)
    | none => if Text.isNumeral text.toList then .number (.other text) else .text text

def layer (environment : Variables) : Layer :=
  environment.filterMap fun (name, text) =>
    (key? name).map fun key => (KeyPath.ofKey key, valueOf text)

end FeatureCheck.Environment
