import FeatureCheck.Json.Decoder
import FeatureCheck.Name
import FeatureCheck.NameSet

/-!
# Compatibility tables

Pairs of platforms that exclude each other and pairs of old and new feature names. A table is read
in both directions: either side of an entry finds the other.
-/

namespace FeatureCheck

set_option autoImplicit false

/-- The other side of an entry that has the name on one side, in lower case. -/
def otherSide? (name : String) (entry : String × String) : Option String :=
  if Text.equalsIgnoringCase entry.1 name then some (Text.lowercase entry.2)
  else if Text.equalsIgnoringCase entry.2 name then some (Text.lowercase entry.1)
  else none

/-- The other side of the first entry with the name on one side. -/
def counterpart? (table : NameMap String) (name : String) : Option String :=
  table.toList.findSome? (otherSide? name)

structure CompatibilityTables where
  conflictingPlatforms : NameMap String
  renamedFeatures : NameMap String
  /-- Namespace of the private features that stand behind a versionless public one. -/
  versionlessNamespace : String
  deriving DecidableEq

namespace CompatibilityTables

def conflictingPlatform? (tables : CompatibilityTables) (base : String) : Option String :=
  counterpart? tables.conflictingPlatforms base

def alternateFeatureName? (tables : CompatibilityTables) (base : String) : Option String :=
  counterpart? tables.renamedFeatures base

def standard : CompatibilityTables where
  conflictingPlatforms := .ofList [("javaee", "jakartaee")]
  renamedFeatures := .ofList [
    ("ejb", "enterpriseBeans"),
    ("ejbHome", "enterpriseBeansHome"),
    ("ejbLite", "enterpriseBeansLite"),
    ("ejbPersistentTimer", "enterpriseBeansPersistentTimer"),
    ("ejbRemote", "enterpriseBeansRemote"),
    ("el", "expressionLanguage"),
    ("jacc", "appAuthorization"),
    ("jaspic", "appAuthentication"),
    ("javaMail", "mail"),
    ("jaxb", "xmlBinding"),
    ("jaxrs", "restfulWS"),
    ("jaxrsClient", "restfulWSClient"),
    ("jaxws", "xmlWS"),
    ("jca", "connectors"),
    ("jcaInboundSecurity", "connectorsInboundSecurity"),
    ("jms", "messaging"),
    ("jpa", "persistence"),
    ("jpaContainer", "persistenceContainer"),
    ("jsf", "faces"),
    ("jsfContainer", "facesContainer"),
    ("jsp", "pages"),
    ("wasJmsClient", "messagingClient"),
    ("wasJmsSecurity", "messagingSecurity"),
    ("wasJmsServer", "messagingServer")]
  versionlessNamespace := Name.versionlessNamespace

open Json in
/-- Reads a table; of entries with one name the last counts. -/
def tableDecoder : Decoder (NameMap String) := fun draft =>
  (Decoder.members .text draft).map fun entries => .ofList entries

open Json in
def decoder : Decoder CompatibilityTables :=
  .record [
    .of "conflicting_platforms" false tableDecoder fun table tables =>
      { tables with conflictingPlatforms := table },
    .of "renamed_features" false tableDecoder fun table tables =>
      { tables with renamedFeatures := table },
    .of "versionless_namespace" false .text fun space tables =>
      { tables with versionlessNamespace := space }]
    standard

end CompatibilityTables

end FeatureCheck
