import FeatureCheck.Catalog.Basic
import FeatureCheck.Finding
import FeatureCheck.Tables

/-!
# Resolution of versionless features

A versionless feature needs a platform that it allows: one of those declared or, if none is, the
only platform common to the accepted versioned features.
-/

namespace FeatureCheck.Catalog

set_option autoImplicit false

/-- Key of the feature a requirement of a versionless feature stands for. -/
def versionlessTarget (tables : CompatibilityTables) (required : String) : String :=
  Name.normalize (Name.withoutNamespace required tables.versionlessNamespace)

/-- Names of the features that satisfy a tolerated requirement, renamed ones among them. -/
def toleratedTargets (tables : CompatibilityTables) (requirement : ToleratedRequirement) :
    List String :=
  let target := versionlessTarget tables requirement.feature
  let base := Name.base target
  let bases := base :: (tables.alternateFeatureName? base).toList
  let versions := (Name.version? target).toList ++ requirement.tolerates
  target :: versions.flatMap fun version => bases.map fun base => base ++ "-" ++ Text.trim version

/-- Names of the features whose platforms a versionless feature allows. -/
def allowedTargets (tables : CompatibilityTables) (feature : Feature) : List String :=
  feature.requires.map (versionlessTarget tables) ++
    feature.tolerated.flatMap (toleratedTargets tables)

def allowedPlatforms (catalog : Catalog) (tables : CompatibilityTables) (name : String) :
    NameSet :=
  (catalog.feature? name).elim ∅ fun feature =>
    NameSet.unionAll ((allowedTargets tables feature).map catalog.platformsOf)

def inferredPlatformFinding (catalog : Catalog) (feature : Feature) (allowed : NameSet)
    (versioned : List Feature) : Option Finding :=
  if versioned.isEmpty then
    some (.about .noPlatformOrFeatureToResolve feature.name)
  else
    match (NameSet.commonTo (versioned.map fun v => catalog.platformsOf v.name)).toList with
    | [] =>
        some ((Finding.about .noCommonPlatform feature.name).withRelated
          (versioned.map (·.name)))
    | [platform] =>
        if allowed.contains platform then none
        else some ((Finding.about .noSupportedPlatform feature.name).withRelated [platform])
    | common =>
        some ((Finding.about .ambiguousCommonPlatform feature.name).withRelated common)

/-- What is wrong with a versionless feature; `declared` holds keys of platforms. -/
def versionlessFinding (catalog : Catalog) (tables : CompatibilityTables)
    (versioned : List Feature) (declared : NameSet) (feature : Feature) : Option Finding :=
  let allowed := catalog.allowedPlatforms tables feature.name
  if declared.isEmpty then catalog.inferredPlatformFinding feature allowed versioned
  else if NameSet.isDisjoint allowed declared then
    some ((Finding.about .noConfiguredPlatform feature.name).withRelated declared.toList)
  else none

def versionlessFindings (catalog : Catalog) (tables : CompatibilityTables)
    (versionless versioned : List Feature) (declared : NameSet) : List Finding :=
  versionless.filterMap (catalog.versionlessFinding tables versioned declared)

end FeatureCheck.Catalog
