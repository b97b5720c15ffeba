import FeatureCheck.Catalog.Basic
import FeatureCheck.Finding
import FeatureCheck.Tables

/-!
# The platform pass

Declared platforms in document order: unknown ones, repetitions, several versions of one platform,
and platforms that exclude each other.
-/

namespace FeatureCheck

set_option autoImplicit false

/-- Keys of the declared platforms, blank ones left out. -/
def declaredPlatforms (declared : List String) : NameSet :=
  NameSet.ofList ((declared.map Name.normalize).filter (!·.isEmpty))

structure PlatformScan where
  findings : List Finding
  keys : NameSet
  /-- First known declaration of each base. -/
  bases : NameMap String

namespace PlatformScan

def empty : PlatformScan :=
  ⟨[], ∅, ∅⟩

def report (scan : PlatformScan) (finding : Finding) : PlatformScan :=
  { scan with findings := scan.findings ++ [finding] }

/-- Reports a platform that an earlier one excludes, and records its base. -/
def recordBase (tables : CompatibilityTables) (scan : PlatformScan) (name base : String) :
    PlatformScan :=
  let other := (tables.conflictingPlatform? base).bind fun excluded => scan.bases[excluded]?
  let reported := match other with
    | some other => scan.report ((Finding.about .platformConflict name).withRelated [other, name])
    | none => scan
  { reported with bases := reported.bases.insert base name }

def readKnown (tables : CompatibilityTables) (scan : PlatformScan) (name : String) :
    PlatformScan :=
  let key := Name.normalize name
  if scan.keys.contains key then scan.report (.about .platformAlreadyIncluded name)
  else
    let seen := { scan with keys := scan.keys.insert key }
    match scan.bases[Name.base key]? with
    | some first =>
        seen.report ((Finding.about .platformVersionConflict (Name.base name)).withRelated
          [first, name])
    | none => recordBase tables seen name (Name.base key)

/-- Reads one declaration; blank names are passed over. -/
def read (catalog : Catalog) (tables : CompatibilityTables) (scan : PlatformScan)
    (declared : String) : PlatformScan :=
  let name := Text.trim declared
  if name.isEmpty then scan
  else if catalog.hasPlatform (Name.normalize name) then readKnown tables scan name
  else
    let base := Name.base (Name.normalize name)
    scan.report ((Finding.about .platformNotFound name).withRelated
      (catalog.platforms.toList.filter fun platform => Name.base platform = base))

def of (catalog : Catalog) (tables : CompatibilityTables) (declared : List String) :
    PlatformScan :=
  declared.foldl (read catalog tables) empty

end PlatformScan

end FeatureCheck
