import FeatureCheck.Finding

/-!
# Passes

The kind of a finding tells which pass it comes from, and its severity goes by the pass.
-/

namespace FeatureCheck

set_option autoImplicit false

/-- The passes in the order in which they are made. -/
inductive Pass where
  | features
  | versionless
  | platforms
  | families
  | elements
  deriving DecidableEq, Repr

def Pass.all : List Pass := [.features, .versionless, .platforms, .families, .elements]

namespace FindingKind

def pass : FindingKind → Pass
  | .featureNotFound | .featureAlreadyIncluded | .featureVersionConflict | .featureRenamed =>
      .features
  | .platformNotFound | .platformAlreadyIncluded | .platformVersionConflict | .platformConflict =>
      .platforms
  | .noPlatformOrFeatureToResolve | .noCommonPlatform | .ambiguousCommonPlatform
  | .noSupportedPlatform | .noConfiguredPlatform => .versionless
  | .incompatibleFeatures => .families
  | .missingConfiguredFeature => .elements

theorem pass_eq_elements_iff {kind : FindingKind} :
    kind.pass = .elements ↔ kind = .missingConfiguredFeature := by
  cases kind <;> decide

theorem severity_eq_error_iff_pass {kind : FindingKind} :
    kind.severity = .error ↔ kind.pass ≠ .elements := by
  rw [severity_eq_error_iff, ne_eq, ne_eq, pass_eq_elements_iff]

end FindingKind

/-- Of the findings of one pass a filter by pass leaves all or none. -/
theorem filter_pass_of_forall {findings : List Finding} {pass : Pass}
    (h : ∀ finding ∈ findings, finding.kind.pass = pass) (other : Pass) :
    findings.filter (·.kind.pass = other) = if pass = other then findings else [] := by
  split
  · rename_i heq
    rw [List.filter_eq_self]
    intro finding hfinding
    rw [h finding hfinding]
    exact decide_eq_true heq
  · rename_i hne
    rw [List.filter_eq_nil_iff]
    intro finding hfinding
    rw [h finding hfinding]
    simpa using hne

end FeatureCheck
