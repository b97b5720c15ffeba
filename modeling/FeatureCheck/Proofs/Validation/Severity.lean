import FeatureCheck.Proofs.Validation.FeatureScan
import FeatureCheck.Proofs.Validation.PlatformScan
import FeatureCheck.Proofs.Validation.SharedPlatforms
import FeatureCheck.Validation

/-!
# Errors and warnings

A report is what the passes find, one after the other, and each finding tells its pass:
`filter_pass_validate`. All passes report errors, but for the last one, which reports warnings only.
-/

namespace FeatureCheck

set_option autoImplicit false

variable {tables : CompatibilityTables} {catalog : Catalog} {declarations : Declarations}
  {finding : Finding} {pass : Pass}

/-- The findings of all passes but the last. -/
def errorFindings (tables : CompatibilityTables) (catalog : Catalog)
    (declarations : Declarations) : List Finding :=
  let scan := FeatureScan.of catalog tables declarations.features
  scan.findings ++
    catalog.versionlessFindings tables scan.versionless scan.versioned
      (declaredPlatforms declarations.platforms) ++
    (PlatformScan.of catalog tables declarations.platforms).findings ++
    if scan.flagged then [] else catalog.incompatibilities scan.versioned

theorem validate_eq (h : catalog.isEmpty = false) :
    validate tables catalog declarations = errorFindings tables catalog declarations ++
      catalog.missingFeatures declarations.features declarations.configElements := by
  rw [validate, h]
  rfl

/-! ## Pass by pass -/

def passFindings (tables : CompatibilityTables) (catalog : Catalog) (declarations : Declarations) :
    Pass → List Finding
  | .features => (FeatureScan.of catalog tables declarations.features).findings
  | .versionless =>
      let scan := FeatureScan.of catalog tables declarations.features
      catalog.versionlessFindings tables scan.versionless scan.versioned
        (declaredPlatforms declarations.platforms)
  | .platforms => (PlatformScan.of catalog tables declarations.platforms).findings
  | .families =>
      let scan := FeatureScan.of catalog tables declarations.features
      if scan.flagged then [] else catalog.incompatibilities scan.versioned
  | .elements => catalog.missingFeatures declarations.features declarations.configElements

theorem errorFindings_eq_flatMap : errorFindings tables catalog declarations =
    [Pass.features, .versionless, .platforms, .families].flatMap
      (passFindings tables catalog declarations) := by
  simp [errorFindings, passFindings]

theorem validate_eq_flatMap (h : catalog.isEmpty = false) :
    validate tables catalog declarations =
      Pass.all.flatMap (passFindings tables catalog declarations) := by
  rw [validate_eq h, errorFindings_eq_flatMap]
  simp [Pass.all, passFindings]

theorem exists_of_mem_missingFeatures {features elements : List String}
    (h : finding ∈ catalog.missingFeatures features elements) :
    ∃ element names,
      finding = (Finding.about .missingConfiguredFeature element).withRelated names := by
  obtain ⟨element, -, hfinding⟩ := List.mem_filterMap.mp h
  obtain ⟨node, -, hnode⟩ := Option.bind_eq_some_iff.mp hfinding
  dsimp only at hnode
  split at hnode
  · simp at hnode
  · exact ⟨element, _, (Option.some.inj hnode).symm⟩

theorem kind_of_mem_missingFeatures {features elements : List String}
    (h : finding ∈ catalog.missingFeatures features elements) :
    finding.kind = .missingConfiguredFeature := by
  obtain ⟨element, names, rfl⟩ := exists_of_mem_missingFeatures h
  rfl

theorem pass_of_mem_passFindings (h : finding ∈ passFindings tables catalog declarations pass) :
    finding.kind.pass = pass := by
  cases pass with
  | features => exact FeatureScan.pass_of_mem_findings catalog tables h
  | versionless => exact Catalog.pass_of_mem_versionlessFindings h
  | platforms => exact PlatformScan.pass_of_mem_findings catalog tables h
  | families =>
    dsimp only [passFindings] at h
    split at h
    · simp at h
    · exact Catalog.pass_of_mem_incompatibilities h
  | elements =>
    rw [kind_of_mem_missingFeatures h]
    rfl

theorem filter_pass_validate (h : catalog.isEmpty = false) (pass : Pass) :
    (validate tables catalog declarations).filter (·.kind.pass = pass) =
      passFindings tables catalog declarations pass := by
  have hfilter : ∀ other, (passFindings tables catalog declarations other).filter
      (·.kind.pass = pass) =
        if other = pass then passFindings tables catalog declarations other else [] :=
    fun other => filter_pass_of_forall (fun _ => pass_of_mem_passFindings) pass
  rw [validate_eq_flatMap h, List.filter_flatMap]
  simp only [hfilter]
  cases pass <;> simp [Pass.all]

theorem isEmpty_eq_false_of_mem_validate (h : finding ∈ validate tables catalog declarations) :
    catalog.isEmpty = false := by
  by_contra hempty
  simp [validate, hempty] at h

theorem mem_validate_iff (h : catalog.isEmpty = false) :
    finding ∈ validate tables catalog declarations ↔
      finding ∈ passFindings tables catalog declarations finding.kind.pass := by
  rw [← filter_pass_validate h, List.mem_filter]
  simp

theorem exists_kind_validate_iff (h : catalog.isEmpty = false) (kind : FindingKind) :
    (∃ finding ∈ validate tables catalog declarations, finding.kind = kind) ↔
      ∃ finding ∈ passFindings tables catalog declarations kind.pass, finding.kind = kind := by
  constructor
  · rintro ⟨finding, hfinding, rfl⟩
    exact ⟨finding, (mem_validate_iff h).mp hfinding, rfl⟩
  · rintro ⟨finding, hfinding, rfl⟩
    exact ⟨finding, (mem_validate_iff h).mpr hfinding, rfl⟩

/-- The findings of the last pass are told by their kind. -/
theorem filter_kind_validate (h : catalog.isEmpty = false) :
    (validate tables catalog declarations).filter (·.kind = .missingConfiguredFeature) =
      catalog.missingFeatures declarations.features declarations.configElements := by
  simp only [← FindingKind.pass_eq_elements_iff]
  exact filter_pass_validate h .elements

/-! ## Severity -/

theorem severity_of_mem_errorFindings (h : finding ∈ errorFindings tables catalog declarations) :
    finding.severity = .error := by
  rw [errorFindings_eq_flatMap, List.mem_flatMap] at h
  obtain ⟨pass, hpass, hfinding⟩ := h
  rw [Finding.severity, FindingKind.severity_eq_error_iff_pass, pass_of_mem_passFindings hfinding]
  rintro rfl
  simp at hpass

theorem exists_error_iff (h : catalog.isEmpty = false) :
    (∃ finding ∈ validate tables catalog declarations, finding.severity = .error) ↔
      errorFindings tables catalog declarations ≠ [] := by
  rw [validate_eq h]
  constructor
  · intro hexists
    obtain ⟨finding, hfinding, herror⟩ := hexists
    rcases List.mem_append.mp hfinding with hmem | hmem
    · exact List.ne_nil_of_mem hmem
    · exact absurd (kind_of_mem_missingFeatures hmem) (FindingKind.severity_eq_error_iff.mp herror)
  · intro hsome
    obtain ⟨finding, hfinding⟩ := List.exists_mem_of_ne_nil _ hsome
    exact ⟨finding, List.mem_append_left _ hfinding, severity_of_mem_errorFindings hfinding⟩

end FeatureCheck
