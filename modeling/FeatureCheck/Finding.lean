import FeatureCheck.NameSet

/-!
# Findings

A finding is a kind, the feature, platform or config element it is about, and the other names
involved. `Finding.message` is its wording.
-/

namespace FeatureCheck

set_option autoImplicit false

inductive Severity where
  | error
  | warning
  deriving DecidableEq, Repr

def Severity.word : Severity → String
  | .error => "error"
  | .warning => "warning"

inductive FindingKind where
  | featureNotFound
  | featureAlreadyIncluded
  | featureVersionConflict
  | featureRenamed
  | platformNotFound
  | platformAlreadyIncluded
  | platformVersionConflict
  | platformConflict
  | noPlatformOrFeatureToResolve
  | noCommonPlatform
  | ambiguousCommonPlatform
  /-- The platform inferred from the versioned features is not supported. -/
  | noSupportedPlatform
  /-- None of the declared platforms is supported. -/
  | noConfiguredPlatform
  | incompatibleFeatures
  | missingConfiguredFeature
  deriving DecidableEq, Repr

namespace FindingKind

def all : List FindingKind := [
  .featureNotFound, .featureAlreadyIncluded, .featureVersionConflict, .featureRenamed,
  .platformNotFound, .platformAlreadyIncluded, .platformVersionConflict, .platformConflict,
  .noPlatformOrFeatureToResolve, .noCommonPlatform, .ambiguousCommonPlatform,
  .noSupportedPlatform, .noConfiguredPlatform, .incompatibleFeatures, .missingConfiguredFeature]

def word : FindingKind → String
  | .featureNotFound => "FeatureNotFound"
  | .featureAlreadyIncluded => "FeatureAlreadyIncluded"
  | .featureVersionConflict => "FeatureVersionConflict"
  | .featureRenamed => "FeatureRenamed"
  | .platformNotFound => "PlatformNotFound"
  | .platformAlreadyIncluded => "PlatformAlreadyIncluded"
  | .platformVersionConflict => "PlatformVersionConflict"
  | .platformConflict => "PlatformConflict"
  | .noPlatformOrFeatureToResolve => "NoPlatformOrFeatureToResolve"
  | .noCommonPlatform => "NoCommonPlatform"
  | .ambiguousCommonPlatform => "AmbiguousCommonPlatform"
  | .noSupportedPlatform => "NoSupportedPlatform"
  | .noConfiguredPlatform => "NoConfiguredPlatform"
  | .incompatibleFeatures => "IncompatibleFeatures"
  | .missingConfiguredFeature => "MissingConfiguredFeature"

def ofWord? (word : String) : Option FindingKind :=
  all.find? fun kind => kind.word = word

@[simp] theorem ofWord?_word (kind : FindingKind) : ofWord? kind.word = some kind := by
  cases kind <;> decide

def code : FindingKind → String
  | .featureNotFound => "incorrect_feature"
  | .featureAlreadyIncluded => "duplicate_feature"
  | .featureVersionConflict => "feature_version_conflict"
  | .featureRenamed => "feature_name_changed"
  | .platformNotFound => "incorrect_platform"
  | .platformAlreadyIncluded => "duplicate_platform"
  | .platformVersionConflict => "platform_version_conflict"
  | .platformConflict => "conflicting_platforms"
  | .noPlatformOrFeatureToResolve => "versionless_no_platform_or_feature"
  | .noCommonPlatform => "versionless_no_common_platform"
  | .ambiguousCommonPlatform => "versionless_ambiguous_platform"
  | .noSupportedPlatform => "versionless_unsupported_platform"
  | .noConfiguredPlatform => "versionless_no_configured_platform"
  | .incompatibleFeatures => "incompatible_features"
  | .missingConfiguredFeature => "missing_configured_feature"

def severity : FindingKind → Severity
  | .missingConfiguredFeature => .warning
  | _ => .error

theorem severity_eq_error_iff {kind : FindingKind} :
    kind.severity = .error ↔ kind ≠ .missingConfiguredFeature := by
  cases kind <;> decide

end FindingKind

structure Finding where
  kind : FindingKind
  subject : String
  related : List String
  deriving DecidableEq, Repr

namespace Finding

def about (kind : FindingKind) (subject : String) : Finding :=
  ⟨kind, subject, []⟩

/-- Adds names to the related ones, which are then sorted and listed once each. -/
def withRelated (finding : Finding) (names : List String) : Finding :=
  { finding with related := (NameSet.ofList (finding.related ++ names)).toList }

@[simp] theorem kind_about (kind : FindingKind) (subject : String) :
    (about kind subject).kind = kind := rfl

@[simp] theorem kind_withRelated (finding : Finding) (names : List String) :
    (finding.withRelated names).kind = finding.kind := rfl

/-- Only the set of the names that are added counts. -/
theorem withRelated_congr {finding : Finding} {names others : List String}
    (h : ∀ name, name ∈ names ↔ name ∈ others) :
    finding.withRelated names = finding.withRelated others := by
  have hset : NameSet.ofList (finding.related ++ names) =
      NameSet.ofList (finding.related ++ others) := by
    refine Std.ExtTreeSet.ext_mem fun name => ?_
    rw [NameSet.mem_ofList, NameSet.mem_ofList, List.mem_append, List.mem_append, h]
  rw [withRelated, hset, withRelated]

def severity (finding : Finding) : Severity :=
  finding.kind.severity

def message (finding : Finding) : String :=
  let subject := finding.subject
  let related := ", ".intercalate finding.related
  match finding.kind with
  | .featureNotFound => "The feature \"" ++ subject ++ "\" does not exist."
  | .featureAlreadyIncluded => subject ++ " is already included."
  | .featureVersionConflict =>
      "More than one version of feature " ++ subject ++
        " is included. Only one version of a feature may be specified."
  | .featureRenamed =>
      "The " ++ subject ++ " feature cannot be configured with the " ++ related ++
        " feature because they are two different versions of the same feature."
  | .platformNotFound => "The platform \"" ++ subject ++ "\" does not exist."
  | .platformAlreadyIncluded => subject ++ " is already included."
  | .platformVersionConflict =>
      "More than one version of platform " ++ subject ++
        " is included. Only one version of a platform may be specified."
  | .platformConflict =>
      "The following configured platform versions are in conflict [" ++ related ++ "]."
  | .noPlatformOrFeatureToResolve =>
      "The " ++ subject ++ " versionless feature cannot be resolved. Specify a platform or " ++
        "a feature with a version to enable resolution."
  | .noCommonPlatform =>
      "The " ++ subject ++ " versionless feature cannot be resolved. The versioned features [" ++
        related ++ "] do not have a platform in common."
  | .ambiguousCommonPlatform =>
      "The " ++ subject ++ " versionless feature cannot be resolved since there is more than one " ++
        "common platform [" ++ related ++ "]. Specify a platform to enable resolution."
  | .noSupportedPlatform =>
      "The " ++ subject ++ " versionless feature does not support the platform [" ++ related ++
        "] inferred from the configured features."
  | .noConfiguredPlatform =>
      "The " ++ subject ++ " versionless feature is not supported by the configured platforms [" ++
        related ++ "]."
  | .incompatibleFeatures =>
      "The " ++ subject ++ " feature does not share a common platform with [" ++ related ++ "]."
  | .missingConfiguredFeature =>
      "The " ++ subject ++ " element requires one of the following features: [" ++ related ++ "]."

def display (finding : Finding) : String :=
  "[" ++ finding.kind.code ++ "] " ++ finding.message

end Finding

end FeatureCheck
