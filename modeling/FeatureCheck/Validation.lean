import FeatureCheck.Catalog.Loaded
import FeatureCheck.Platform
import FeatureCheck.Validation.FeatureScan
import FeatureCheck.Validation.PlatformScan
import FeatureCheck.Validation.Versionless

/-!
# Validation

The findings about a document's declarations, pass by pass: features, versionless features,
platforms, families, config elements. Nothing is checked against an empty catalog.
-/

namespace FeatureCheck

set_option autoImplicit false

/-- What a configuration document declares, in document order. -/
structure Declarations where
  features : List String := []
  platforms : List String := []
  configElements : List String := []
  deriving DecidableEq, Repr

def Declarations.isEmpty (declarations : Declarations) : Bool :=
  declarations.features.isEmpty && declarations.platforms.isEmpty &&
    declarations.configElements.isEmpty

/-! ## The config element pass -/

namespace Catalog

/-- The first of the elements with each key, trimmed, in order; `seen` holds earlier keys. -/
def distinctElements (seen : NameSet) : List String → List String
  | [] => []
  | element :: elements =>
      let key := Name.normalize element
      if seen.contains key then distinctElements seen elements
      else Text.trim element :: distinctElements (seen.insert key) elements

/-- The finding for an element of the graph that no declared feature enables. -/
def elementFinding (catalog : Catalog) (graph : EnablementGraph) (declared : NameSet)
    (element : String) : Option Finding :=
  (graph.element? element).bind fun node =>
    let enabled := (graph.allEnabledBy element).toList.any fun name =>
      declared.contains (Name.normalize name)
    if enabled then none
    else
      some ((Finding.about .missingConfiguredFeature element).withRelated
        (node.enabledBy.toList.filterMap fun key =>
          (catalog.publicFeature? key).map (·.name)))

def missingFeatures (catalog : Catalog) (features elements : List String) : List Finding :=
  let graph := catalog.graph
  let declared := NameSet.ofList (features.map Name.normalize)
  (distinctElements ∅ elements).filterMap (catalog.elementFinding graph declared)

end Catalog

/-! ## All passes -/

def validate (tables : CompatibilityTables) (catalog : Catalog) (declarations : Declarations) :
    List Finding :=
  if catalog.isEmpty then []
  else
    let scan := FeatureScan.of catalog tables declarations.features
    let versionless := catalog.versionlessFindings tables scan.versionless scan.versioned
      (declaredPlatforms declarations.platforms)
    let platforms := (PlatformScan.of catalog tables declarations.platforms).findings
    let families := if scan.flagged then [] else catalog.incompatibilities scan.versioned
    let elements := catalog.missingFeatures declarations.features declarations.configElements
    scan.findings ++ versionless ++ platforms ++ families ++ elements

end FeatureCheck
