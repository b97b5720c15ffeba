import FeatureCheck.Catalog.Basic
import FeatureCheck.Finding
import FeatureCheck.Tables

/-!
# The feature pass

Declared features in document order: unknown ones, repetitions, several versions of one feature,
and a feature beside its renamed successor. What is accepted is handed on to the later passes.
-/

namespace FeatureCheck

set_option autoImplicit false

structure FeatureScan where
  findings : List Finding
  /-- Accepted versioned features, the first of each base, in document order. -/
  versioned : List Feature
  /-- Accepted versionless features, each once, in document order. -/
  versionless : List Feature
  /-- A repetition, version conflict or rename was found. -/
  flagged : Bool
  versionedKeys : NameSet
  versionlessKeys : NameSet
  /-- First versioned declaration of each base. -/
  versionedBases : NameMap String
  /-- First accepted declaration of each base. -/
  bases : NameMap String

/-- Public features whose base is that of the name. -/
def Catalog.replacementCandidates (catalog : Catalog) (name : String) : NameSet :=
  let wanted := Name.normalize (Name.base (Text.trim name))
  NameSet.ofList
    ((catalog.publicFeatures.filter fun feature => Name.normalize feature.base = wanted).map
      (·.name))

namespace FeatureScan

def empty : FeatureScan :=
  ⟨[], [], [], false, ∅, ∅, ∅, ∅⟩

def report (scan : FeatureScan) (finding : Finding) : FeatureScan :=
  { scan with findings := scan.findings ++ [finding] }

/-- Reports a finding that makes the accepted features unfit for the family pass. -/
def flag (scan : FeatureScan) (finding : Finding) : FeatureScan :=
  { scan.report finding with flagged := true }

/-- Reports an accepted declaration that renames an earlier one, and records its base. -/
def recordBase (tables : CompatibilityTables) (scan : FeatureScan) (name : String) :
    FeatureScan :=
  let base := Name.base (Name.normalize name)
  let other := (tables.alternateFeatureName? base).bind fun alternate => scan.bases[alternate]?
  let reported := match other with
    | some other => scan.flag ((Finding.about .featureRenamed name).withRelated [other])
    | none => scan
  { reported with bases := reported.bases.insertIfNew base name }

def readVersionless (tables : CompatibilityTables) (scan : FeatureScan) (name : String)
    (feature : Feature) : FeatureScan :=
  let key := Name.normalize name
  if scan.versionlessKeys.contains key then
    scan.flag (.about .featureAlreadyIncluded name)
  else
    recordBase tables
      { scan with
        versionlessKeys := scan.versionlessKeys.insert key
        versionless := scan.versionless ++ [feature] } name

def readVersioned (tables : CompatibilityTables) (scan : FeatureScan) (name : String)
    (feature : Feature) : FeatureScan :=
  let key := Name.normalize name
  if scan.versionedKeys.contains key then
    scan.flag (.about .featureAlreadyIncluded name)
  else
    let seen := { scan with versionedKeys := scan.versionedKeys.insert key }
    match scan.versionedBases[Name.base key]? with
    | some first =>
        seen.flag ((Finding.about .featureVersionConflict (Name.base name)).withRelated
          [first, name])
    | none =>
        recordBase tables
          { seen with
            versionedBases := seen.versionedBases.insert (Name.base key) name
            versioned := seen.versioned ++ [feature] } name

/-- Reads one declaration; blank names and user features are passed over. -/
def read (catalog : Catalog) (tables : CompatibilityTables) (scan : FeatureScan)
    (declared : String) : FeatureScan :=
  let name := Text.trim declared
  if name.isEmpty || Name.isUser name then scan
  else match catalog.publicFeature? name with
    | none =>
        scan.report ((Finding.about .featureNotFound name).withRelated
          (catalog.replacementCandidates name).toList)
    | some feature =>
        if feature.isVersionless then readVersionless tables scan name feature
        else readVersioned tables scan name feature

def of (catalog : Catalog) (tables : CompatibilityTables) (declared : List String) :
    FeatureScan :=
  declared.foldl (read catalog tables) empty

end FeatureScan

end FeatureCheck
