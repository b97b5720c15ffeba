import FeatureCheck.Name
import FeatureCheck.NameSet

/-!
# Features

A feature of a catalog. Its version is the one its name carries, its name has no white space
around it, and its platforms are in normal form.
-/

namespace FeatureCheck

set_option autoImplicit false

inductive Visibility where
  | isPublic
  | isPrivate
  | isProtected
  | install
  deriving DecidableEq, Repr, Inhabited

namespace Visibility

def word : Visibility → String
  | .isPublic => "PUBLIC"
  | .isPrivate => "PRIVATE"
  | .isProtected => "PROTECTED"
  | .install => "INSTALL"

def all : List Visibility := [.isPublic, .isPrivate, .isProtected, .install]

def ofWord? (word : String) : Option Visibility :=
  all.find? fun visibility => visibility.word = word

end Visibility

/-- A requirement that alternate versions satisfy too. -/
structure ToleratedRequirement where
  feature : String
  tolerates : List String := []
  deriving DecidableEq, Repr

structure Feature where
  name : String
  symbolicName : Option String
  visibility : Visibility
  description : Option String
  platforms : NameSet
  requires : List String
  tolerated : List ToleratedRequirement
  configElements : List String
  trim_name : Text.trim name = name
  normalize_platform : ∀ platform ∈ platforms, Name.normalize platform = platform
  deriving DecidableEq

namespace Feature

def named (name : String) (visibility : Visibility) : Feature where
  name := Text.trim name
  symbolicName := none
  visibility := visibility
  description := none
  platforms := ∅
  requires := []
  tolerated := []
  configElements := []
  trim_name := Text.trim_trim name
  normalize_platform := by simp

def withSymbolicName (feature : Feature) (name : String) : Feature :=
  { feature with symbolicName := some name }

def withDescription (feature : Feature) (description : String) : Feature :=
  { feature with description := some description }

/-- Adds platforms, in normal form. -/
def withPlatforms (feature : Feature) (platforms : List String) : Feature :=
  { feature with
    platforms := feature.platforms ∪ NameSet.ofList (platforms.map Name.normalize)
    normalize_platform := by
      intro platform h
      rw [Std.ExtTreeSet.mem_union_iff, NameSet.mem_ofList, List.mem_map] at h
      rcases h with h | ⟨name, -, rfl⟩
      · exact feature.normalize_platform platform h
      · exact Name.normalize_normalize name }

def withRequires (feature : Feature) (requires : List String) : Feature :=
  { feature with requires := feature.requires ++ requires }

def withTolerated (feature : Feature) (requirement : ToleratedRequirement) : Feature :=
  { feature with tolerated := feature.tolerated ++ [requirement] }

def withConfigElements (feature : Feature) (elements : List String) : Feature :=
  { feature with configElements := feature.configElements ++ elements }

def isPublic (feature : Feature) : Bool :=
  feature.visibility = .isPublic

def version? (feature : Feature) : Option String :=
  Name.version? feature.name

def isVersionless (feature : Feature) : Bool :=
  feature.version?.isNone

def base (feature : Feature) : String :=
  Name.base feature.name

/-- The short or the symbolic name, up to the case of ASCII letters. -/
def matchesName (feature : Feature) (name : String) : Bool :=
  Text.equalsIgnoringCase feature.name name ||
    feature.symbolicName.any (Text.equalsIgnoringCase · name)

/-- Names of the features it requires, plain requirements first. -/
def requirements (feature : Feature) : List String :=
  feature.requires ++ feature.tolerated.map (·.feature)

end Feature

end FeatureCheck
