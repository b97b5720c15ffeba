import FeatureCheck.Catalog.Basic
import FeatureCheck.Finding

/-!
# Platform families

Platforms that exclude one another by version share a family. The features with platforms of one
family must have one of them in common.
-/

namespace FeatureCheck

set_option autoImplicit false

inductive PlatformFamily where
  | javaEE
  | jakartaEE
  | microProfile
  deriving DecidableEq, Repr

namespace PlatformFamily

def all : List PlatformFamily := [.javaEE, .jakartaEE, .microProfile]

/-- Base name of the platforms of the family. -/
def word : PlatformFamily → String
  | .javaEE => "javaee"
  | .jakartaEE => "jakartaee"
  | .microProfile => "microprofile"

def contains (family : PlatformFamily) (platform : String) : Bool :=
  Text.startsIgnoringCase platform (family.word ++ "-")

def of? (platform : String) : Option PlatformFamily :=
  all.find? (·.contains platform)

end PlatformFamily

namespace Catalog

/-- The platforms of a family that a feature is available on. -/
def familyPlatforms (catalog : Catalog) (family : PlatformFamily) (feature : Feature) : NameSet :=
  (catalog.platformsOf feature.name).filter family.contains

/-- The features with a platform of the family. -/
def familyMembers (catalog : Catalog) (features : List Feature) (family : PlatformFamily) :
    List Feature :=
  features.filter fun feature => !(catalog.familyPlatforms family feature).isEmpty

/-- One finding for each member, if they share no platform of the family. -/
def familyFindings (catalog : Catalog) (features : List Feature) (family : PlatformFamily) :
    List Finding :=
  let members := catalog.familyMembers features family
  let common := NameSet.commonTo (members.map (catalog.familyPlatforms family))
  if members.length > 1 && common.isEmpty then
    let names := members.map (·.name)
    names.map fun name =>
      (Finding.about .incompatibleFeatures name).withRelated (names.filter (· ≠ name))
  else []

def incompatibilities (catalog : Catalog) (features : List Feature) : List Finding :=
  PlatformFamily.all.flatMap (catalog.familyFindings features)

end Catalog

end FeatureCheck
