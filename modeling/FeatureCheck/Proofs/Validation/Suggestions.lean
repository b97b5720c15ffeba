import FeatureCheck.Proofs.Validation.MissingFeatures
import FeatureCheck.Proofs.Validation.Orderly

/-!
# Suggested names

The related names of some findings are suggestions: what could be declared in place of an unknown
feature or platform, or beside the other features for an element. The check that reports the finding
accepts each of them (`suggestions_validate`).
-/

namespace FeatureCheck

set_option autoImplicit false

variable {catalog : Catalog} {tables : CompatibilityTables} {declarations others : Declarations}
  {finding : Finding} {declared : List String} {name base : String}

theorem Finding.related_withRelated_toList (kind : FindingKind) (subject : String)
    (names : NameSet) : ((about kind subject).withRelated names.toList).related = names.toList := by
  rw [withRelated, about, List.nil_append, NameSet.ofList_toList]

/-! ## Unknown features -/

namespace Catalog

/-- The names of the public features with a base, in order. -/
def publicNames (catalog : Catalog) (base : String) : List String :=
  ((catalog.publicFeatures.filter fun feature =>
    Name.normalize feature.base = Name.normalize base).map (·.name)).mergeSort

theorem toList_replacementCandidates (catalog : Catalog) (name : String) :
    (catalog.replacementCandidates name).toList =
      catalog.publicNames (Name.base (Text.trim name)) :=
  NameSet.toList_ofList_of_nodup (nodup_publicNames _)

theorem publicFeature?_of_mem_publicNames (h : name ∈ catalog.publicNames base) :
    ∃ feature, catalog.publicFeature? name = some feature ∧ feature.name = name := by
  rw [publicNames, List.mem_mergeSort, List.mem_map] at h
  obtain ⟨feature, hfeature, rfl⟩ := h
  exact ⟨feature, publicFeature?_name (List.mem_filter.mp hfeature).1, rfl⟩

end Catalog

theorem of_featureNotFound (h : finding ∈ (FeatureScan.of catalog tables declared).findings)
    (hkind : finding.kind = .featureNotFound) :
    (∃ written ∈ declared, Text.trim written = finding.subject) ∧
      catalog.publicFeature? finding.subject = none ∧
      finding.related = catalog.publicNames (Name.base finding.subject) := by
  obtain ⟨earlier, name, later, hnames, hfinding⟩ := FeatureScan.mem_findings_iff.mp h
  have hchecked : name ∈ checkedNames declared := by
    rw [hnames]
    exact List.mem_append_right _ List.mem_cons_self
  obtain ⟨written, hwritten, rfl⟩ := List.mem_map.mp (List.mem_filter.mp hchecked).1
  rcases mem_nameFindings hfinding with ⟨hunknown, rfl⟩ | rfl | ⟨_, -, -, rfl⟩ | ⟨_, -, rfl⟩
  · refine ⟨⟨written, hwritten, rfl⟩, hunknown, ?_⟩
    rw [Finding.related_withRelated_toList, Catalog.toList_replacementCandidates, Text.trim_trim]
    rfl
  · simp at hkind
  · simp at hkind
  · simp at hkind

/-! ## Unknown platforms -/

theorem hasPlatform_of_platformNotFound
    (h : finding ∈ (PlatformScan.of catalog tables declared).findings)
    (hkind : finding.kind = .platformNotFound) (hname : name ∈ finding.related) :
    catalog.hasPlatform name := by
  obtain ⟨earlier, other, later, -, hfinding⟩ := PlatformScan.mem_findings_iff.mp h
  rcases mem_platformFindings hfinding with rfl | rfl | ⟨_, -, -, rfl | rfl⟩
  · rw [Finding.mem_related_withRelated] at hname
    have hplatform := Std.ExtTreeSet.mem_toList.mp (List.mem_filter.mp hname).1
    rw [Catalog.hasPlatform, Catalog.normalize_of_mem_platforms hplatform]
    exact Std.ExtTreeSet.contains_iff_mem.mpr hplatform
  · simp at hkind
  · simp at hkind
  · simp at hkind

/-! ## Elements without a feature -/

/-- A feature that lists the element enables it, whatever is declared besides. -/
theorem not_reportsMissing_of_related {elements : List String}
    (h : finding ∈ catalog.missingFeatures declared elements) (hname : name ∈ finding.related)
    (hdeclared : name ∈ others.features) :
    ¬ ReportsMissing tables catalog others finding.subject := by
  obtain ⟨element, -, -, rfl⟩ := mem_missingFeatures_iff.mp h
  rw [Catalog.missingFinding, List.mem_mergeSort, List.mem_map] at hname
  obtain ⟨feature, hmem, rfl⟩ := hname
  obtain ⟨hpublic, hlists⟩ := List.mem_filter.mp hmem
  rw [Catalog.missingFinding, reportsMissing_iff, Name.normalize_trim]
  rintro ⟨-, -, hnone⟩
  exact hnone ⟨feature.name, hdeclared, feature, (List.mem_filter.mp hpublic).1,
    .lists (of_decide_eq_true hlists), rfl⟩

/-- For an unknown feature all public features with its base are suggested, and nothing that spells
its name; for an element, features that by themselves keep it from being reported. -/
theorem suggestions_validate (tables : CompatibilityTables) (catalog : Catalog)
    (declarations : Declarations) (finding : Finding)
    (hfinding : finding ∈ validate tables catalog declarations) :
    (finding.kind = .featureNotFound →
      (∃ written ∈ declarations.features, Text.trim written = finding.subject) ∧
      finding.related = ((catalog.publicFeatures.filter fun feature =>
        Name.normalize feature.base = Name.normalize (Name.base finding.subject)).map
          (·.name)).mergeSort ∧
      ∀ name ∈ finding.related, (catalog.publicFeature? name).isSome ∧
        Name.normalize name ≠ Name.normalize finding.subject) ∧
    (finding.kind = .platformNotFound → ∀ name ∈ finding.related, catalog.hasPlatform name) ∧
    (finding.kind = .missingConfiguredFeature → ∀ name ∈ finding.related, ∀ features,
      name ∈ features → ¬ ReportsMissing tables catalog
        { declarations with features := features } finding.subject) := by
  rw [mem_validate_iff (isEmpty_eq_false_of_mem_validate hfinding)] at hfinding
  refine ⟨fun hkind => ?_, fun hkind name hname => ?_, fun hkind name hname features hmem => ?_⟩
  · rw [hkind] at hfinding
    obtain ⟨hwritten, hunknown, hrelated⟩ := of_featureNotFound hfinding hkind
    refine ⟨hwritten, hrelated, fun name hname => ?_⟩
    rw [hrelated] at hname
    obtain ⟨feature, hfound, -⟩ := Catalog.publicFeature?_of_mem_publicNames hname
    refine ⟨by rw [hfound]; rfl, fun hkey => ?_⟩
    rw [Catalog.publicFeature?_congr hkey, hunknown] at hfound
    cases hfound
  · rw [hkind] at hfinding
    exact hasPlatform_of_platformNotFound hfinding hkind hname
  · rw [hkind] at hfinding
    exact not_reportsMissing_of_related hfinding hname hmem

def privateJaxrs : Feature :=
  .named "jaxrs-3.0" .isPrivate

def jaxrsCatalog : Catalog := .ofFeatures [
  .named "jaxrs-2.1" .isPublic,
  .named "JAXRS-2.0" .isPublic,
  privateJaxrs,
  (Feature.named "servlet-6.0" .isPublic).withConfigElements ["httpSession"],
  (Feature.named "eeCompatible-10.0" .isPrivate).withPlatforms ["JakartaEE-10.0"]]

def unknownNames : Declarations where
  features := [" jaxrs-3.0"]
  platforms := ["jakartaee-11.0"]
  configElements := ["httpSession"]

theorem misses_unknownNames :
    jaxrsCatalog.Misses unknownNames.features (Name.normalize "httpSession") := by
  refine ⟨by decide +kernel, ?_⟩
  rintro ⟨name, hname, feature, hfeature, henables, hkey⟩
  obtain rfl := List.mem_singleton.mp hname
  have hprivate : ∀ feature ∈ jaxrsCatalog.features,
      Name.normalize " jaxrs-3.0" = feature.key → feature = privateJaxrs := by
    decide +kernel
  obtain rfl := hprivate feature hfeature hkey
  cases henables with
  | lists hlists =>
    obtain ⟨element, helement, -⟩ := hlists
    exact List.not_mem_nil helement
  | requires hrequired => exact List.not_mem_nil hrequired

/-- A feature that is not public is neither found nor suggested. -/
theorem validate_unknownNames : validate .standard jaxrsCatalog unknownNames = [
    ⟨.featureNotFound, "jaxrs-3.0", ["JAXRS-2.0", "jaxrs-2.1"]⟩,
    ⟨.platformNotFound, "jakartaee-11.0", ["jakartaee-10.0"]⟩,
    ⟨.missingConfiguredFeature, "httpSession", ["servlet-6.0"]⟩] := by
  classical
  have herrors : errorFindings .standard jaxrsCatalog unknownNames = [
      ⟨.featureNotFound, "jaxrs-3.0", ["JAXRS-2.0", "jaxrs-2.1"]⟩,
      ⟨.platformNotFound, "jakartaee-11.0", ["jakartaee-10.0"]⟩] := by
    decide +kernel
  have hfirst : firstOfEach Name.normalize unknownNames.configElements = ["httpSession"] := by
    decide +kernel
  have hwarning : jaxrsCatalog.missingFinding "httpSession" =
      ⟨.missingConfiguredFeature, "httpSession", ["servlet-6.0"]⟩ := by
    decide +kernel
  rw [validate_eq rfl, herrors, Catalog.missingFeatures_eq, hfirst]
  simp [misses_unknownNames, hwarning]

/-- An unknown feature, an unknown platform and an element without its feature, each with what is
suggested for it. -/
theorem suggestions_validate_unknownNames :
    validate .standard jaxrsCatalog unknownNames = [
      ⟨.featureNotFound, "jaxrs-3.0", ["JAXRS-2.0", "jaxrs-2.1"]⟩,
      ⟨.platformNotFound, "jakartaee-11.0", ["jakartaee-10.0"]⟩,
      ⟨.missingConfiguredFeature, "httpSession", ["servlet-6.0"]⟩] ∧
    (∀ name ∈ ["JAXRS-2.0", "jaxrs-2.1"], (jaxrsCatalog.publicFeature? name).isSome ∧
      Name.normalize name ≠ Name.normalize "jaxrs-3.0") ∧
    jaxrsCatalog.hasPlatform "jakartaee-10.0" ∧
    ¬ ReportsMissing .standard jaxrsCatalog
      { unknownNames with features := [" jaxrs-3.0", "servlet-6.0"] } "httpSession" := by
  have hsound := suggestions_validate .standard jaxrsCatalog unknownNames
  rw [validate_unknownNames] at hsound
  obtain ⟨⟨hfeature, -, -⟩, hothers⟩ := List.forall_mem_cons.mp hsound
  obtain ⟨⟨-, hplatform, -⟩, hlast⟩ := List.forall_mem_cons.mp hothers
  obtain ⟨-, -, helement⟩ := List.forall_mem_singleton.mp hlast
  obtain ⟨-, -, hfound⟩ := hfeature rfl
  refine ⟨validate_unknownNames, hfound, ?_, ?_⟩
  · exact hplatform rfl "jakartaee-10.0" List.mem_cons_self
  · exact helement rfl "servlet-6.0" List.mem_cons_self _
      (List.mem_cons_of_mem _ List.mem_cons_self)

end FeatureCheck
