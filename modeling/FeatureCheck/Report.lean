import FeatureCheck.Finding
import FeatureCheck.Json.Decoder
import FeatureCheck.Json.Printer
import FeatureCheck.Runtime

/-!
# Reports

The findings of one check and where the catalog behind them came from, as text and as JSON.
-/

namespace FeatureCheck

set_option autoImplicit false

/-- Where a catalog came from; `empty` stands for no catalog at all. -/
inductive CatalogSource where
  | remote
  | installed
  | default
  | empty
  deriving DecidableEq, Repr

namespace CatalogSource

def all : List CatalogSource := [.remote, .installed, .default, .empty]

def word : CatalogSource → String
  | .remote => "remote"
  | .installed => "installed"
  | .default => "default"
  | .empty => "empty"

def ofWord? (word : String) : Option CatalogSource :=
  all.find? fun source => source.word = word

@[simp] theorem ofWord?_word (source : CatalogSource) : ofWord? source.word = some source := by
  cases source <;> decide

end CatalogSource

open Json in
def Finding.decoder : Decoder Finding :=
  .record [
    .of "kind" true (.variant FindingKind.ofWord?) fun kind finding =>
      { finding with kind := kind },
    .of "subject" true .text fun subject finding => { finding with subject := subject },
    .of "related" true (.list .text) fun names finding => { finding with related := names }]
    (.about .featureNotFound "")

def Finding.toJson (finding : Finding) : Json :=
  .object [("kind", .text finding.kind.word), ("subject", .text finding.subject),
    ("related", Json.texts finding.related)]

open Json in
def RuntimeIdentity.decoder : Decoder RuntimeIdentity :=
  .record [
    .of "kind" true (.variant RuntimeKind.ofWord?) fun kind identity =>
      { identity with kind := kind },
    .of "version" true .text fun version identity => { identity with version := version }]
    ⟨.ol, ""⟩

def RuntimeIdentity.toJson (identity : RuntimeIdentity) : Json :=
  .object [("kind", .text identity.kind.word), ("version", .text identity.version)]

structure Report where
  identity : RuntimeIdentity
  source : CatalogSource
  findings : List Finding
  deriving DecidableEq, Repr

namespace Report

def count (report : Report) (severity : Severity) : Nat :=
  report.findings.countP fun finding => finding.severity = severity

def hasErrors (report : Report) : Bool :=
  0 < report.count .error

/-- There was no catalog to check against. -/
def isUnchecked (report : Report) : Bool :=
  report.source = .empty

open Json in
def decoder : Decoder Report :=
  .record [
    .of "identity" true RuntimeIdentity.decoder fun identity report =>
      { report with identity := identity },
    .of "source" true (.variant CatalogSource.ofWord?) fun source report =>
      { report with source := source },
    .of "findings" true (.list Finding.decoder) fun findings report =>
      { report with findings := findings }]
    ⟨⟨.ol, ""⟩, .empty, []⟩

def toJson (report : Report) : Json :=
  .object [("identity", report.identity.toJson), ("source", .text report.source.word),
    ("findings", .array (report.findings.map Finding.toJson))]

def renderJson (report : Report) : String :=
  report.toJson.pretty

def findingLine (finding : Finding) : String :=
  finding.severity.word ++ "[" ++ finding.kind.code ++ "]: " ++ finding.message ++ "\n"

def summary (report : Report) : String :=
  if report.isUnchecked then "No feature catalog available, nothing was checked.\n"
  else
    toString (report.count .error) ++ " error(s), " ++ toString (report.count .warning) ++
      " warning(s) against the " ++ report.source.word ++ " catalog of " ++
      report.identity.display ++ "\n"

def renderText (report : Report) : String :=
  String.join (report.findings.map findingLine) ++ report.summary

end Report

/-- The platforms of a feature, one on a line. -/
def renderPlatforms (feature : String) (platforms : NameSet) : String :=
  if platforms.isEmpty then feature ++ ": no platforms\n"
  else String.join (platforms.toList.map (· ++ "\n"))

def renderPlatformsJson (feature : String) (platforms : NameSet) : String :=
  (Json.object [("feature", .text feature), ("platforms", Json.texts platforms.toList)]).pretty

end FeatureCheck
