import FeatureCheck.Catalog.Basic
import FeatureCheck.Json.Decoder
import FeatureCheck.Json.Printer
import FeatureCheck.Problem

/-!
# Published catalogs

A catalog is published as a JSON array with one object for each feature. The name of a feature is
its short name or, as with most private features, the first of the features it provides.
-/

namespace FeatureCheck

set_option autoImplicit false

inductive CatalogError where
  | unreadable (fault : Json.Fault)
  /-- The entry at this place has no name. -/
  | nameless (place : Nat)
  | invalid (message : String)
  | internal (message : String)
  deriving DecidableEq, Repr

namespace CatalogError

def word : CatalogError → String
  | .unreadable _ => "Parse"
  | .nameless _ | .invalid _ => "Invalid"
  | .internal _ => "Internal"

def label : CatalogError → String
  | .unreadable _ => "Catalog parse error"
  | .nameless _ | .invalid _ => "Invalid catalog entry"
  | .internal _ => "Internal catalog error"

def details : CatalogError → String
  | .unreadable .endOfText => "the text ends too early"
  | .unreadable .malformed => "the text is not JSON"
  | .unreadable .unexpected => "the text is not a list of features"
  | .nameless place =>
      "entry #" ++ toString place ++ " has neither shortName nor provideFeature"
  | .invalid message | .internal message => message

def message (problem : Problem CatalogError) : String :=
  problem.describe label details

end CatalogError

/-- What is published about one feature. -/
structure CatalogEntry where
  description : Option String := none
  shortName : Option String := none
  provides : List String := []
  visibility : Option String := none
  platforms : List String := []
  requires : List String := []
  tolerated : List ToleratedRequirement := []
  configElements : List String := []
  deriving DecidableEq, Repr

namespace CatalogEntry

open Json

def toleratedDecoder : Decoder ToleratedRequirement :=
  .record [
    .of "feature" true .text fun name requirement => { requirement with feature := name },
    .of "tolerates" false (.list .text) fun versions requirement =>
      { requirement with tolerates := versions }]
    ⟨"", []⟩

/-- Reads the object with all but the description. -/
def informationDecoder : Decoder CatalogEntry :=
  .record [
    .of "shortName" false (.optional .text) fun name entry => { entry with shortName := name },
    .of "provideFeature" false (.list .text) fun names entry => { entry with provides := names },
    .of "visibility" false (.optional .text) fun word entry => { entry with visibility := word },
    .of "platforms" false (.list .text) fun names entry => { entry with platforms := names },
    .of "requireFeature" false (.list .text) fun names entry => { entry with requires := names },
    .of "requireFeatureWithTolerates" false (.list toleratedDecoder) fun requirements entry =>
      { entry with tolerated := requirements },
    .of "configElements" false (.list .text) fun names entry =>
      { entry with configElements := names }]
    {}

def decoder : Decoder CatalogEntry :=
  .record [
    .of "shortDescription" false (.optional .text) fun description entry =>
      { entry with description := description },
    .of "wlpInformation" true informationDecoder fun information entry =>
      { information with description := entry.description }]
    {}

/-- The published word up to case; no word means public, an unknown one private. -/
def visibilityOf : Option String → Visibility
  | none => .isPublic
  | some word =>
      (Visibility.all.find? fun visibility =>
        Text.equalsIgnoringCase (Text.trim word) visibility.word).getD .isPrivate

/-- The short name, unless it is blank, or else the first provided name. -/
def name? (entry : CatalogEntry) : Option String :=
  entry.shortName.filter (!Text.isBlank ·) <|> entry.provides.head?

/-- The feature that an entry describes, under a name. -/
def toFeature (entry : CatalogEntry) (name : String) : Feature :=
  let feature := (((Feature.named name (visibilityOf entry.visibility)).withPlatforms
    entry.platforms).withRequires entry.requires).withConfigElements entry.configElements
  let feature := entry.provides.head?.elim feature feature.withSymbolicName
  let feature := entry.description.elim feature feature.withDescription
  entry.tolerated.foldl Feature.withTolerated feature

/-- The features of the entries from a place on, or the first place without a name. -/
def toFeatures (place : Nat) : List CatalogEntry → Except CatalogError (List Feature)
  | [] => .ok []
  | entry :: entries =>
      match entry.name? with
      | none => .error (.nameless place)
      | some name => (toFeatures (place + 1) entries).map (entry.toFeature name :: ·)

end CatalogEntry

namespace Catalog

def parse (bytes : List UInt8) : Except (Problem CatalogError) Catalog :=
  match Json.Decoder.decode (.list CatalogEntry.decoder) (Text.glyphs bytes) with
  | .error fault => .error ⟨.unreadable fault, some "Failed to decode feature catalog"⟩
  | .ok entries =>
      match CatalogEntry.toFeatures 0 entries with
      | .error error => .error ⟨error, none⟩
      | .ok features => .ok (ofFeatures features)

end Catalog

namespace CatalogEntry

def toJson (entry : CatalogEntry) : Json :=
  let information := [
    ("provideFeature", Json.texts entry.provides),
    ("platforms", Json.texts entry.platforms),
    ("requireFeature", Json.texts entry.requires),
    ("requireFeatureWithTolerates", .array (entry.tolerated.map fun requirement =>
      .object [("feature", .text requirement.feature),
        ("tolerates", Json.texts requirement.tolerates)])),
    ("configElements", Json.texts entry.configElements)]
  let named := entry.shortName.toList.map fun name => ("shortName", Json.text name)
  let seen := entry.visibility.toList.map fun word => ("visibility", Json.text word)
  let described := entry.description.toList.map fun description =>
    ("shortDescription", Json.text description)
  .object (described ++ [("wlpInformation", .object (named ++ seen ++ information))])

/-- The text in which a list of entries is published. -/
def publish (entries : List CatalogEntry) : String :=
  Json.compact (.array (entries.map toJson))

end CatalogEntry

end FeatureCheck
