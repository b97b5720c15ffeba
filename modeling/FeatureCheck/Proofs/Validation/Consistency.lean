import FeatureCheck.Proofs.Validation.MissingFeatures
import FeatureCheck.Proofs.Validation.NamesAgree
import FeatureCheck.Proofs.Validation.PlatformsAgree

/-!
# Consistent declarations

Declarations are consistent when the names and the platforms agree, the features have the platforms
that they need, and every config element has its feature. Nothing is found just when they are:
`validate_eq_nil_iff`. All but the last of these make for errors: `errorFindings_eq_nil_iff`.
-/

namespace FeatureCheck

set_option autoImplicit false

namespace Catalog

/-- The public features that are declared. -/
def declaredFeatures (catalog : Catalog) (declared : List String) : List Feature :=
  (checkedNames declared).filterMap catalog.publicFeature?

def declaredVersioned (catalog : Catalog) (declared : List String) : List Feature :=
  (catalog.declaredFeatures declared).filter (!·.isVersionless)

end Catalog

/-- What declarations must fulfil so that no errors are found. -/
structure Agrees (tables : CompatibilityTables) (catalog : Catalog) (declarations : Declarations) :
    Prop where
  names : NamesAgree catalog tables (checkedNames declarations.features)
  platforms : PlatformsAgree catalog tables (checkedPlatforms declarations.platforms)
  resolves : ∀ feature ∈ catalog.declaredFeatures declarations.features, feature.isVersionless →
    catalog.Resolves tables (catalog.declaredVersioned declarations.features)
      (declaredPlatforms declarations.platforms) feature
  shares : ∀ family,
    catalog.SharesFamily (catalog.declaredVersioned declarations.features) family

/-- Declarations in which nothing is wrong, by the standard tables. -/
structure Consistent (catalog : Catalog) (declarations : Declarations) : Prop where
  names : NamesAgree catalog .standard (checkedNames declarations.features)
  known_platforms : ∀ name ∈ checkedPlatforms declarations.platforms, catalog.hasPlatform name
  distinct_platforms : (checkedPlatforms declarations.platforms).Pairwise fun name other =>
    Name.normalize name ≠ Name.normalize other
  one_platform_version : (checkedPlatforms declarations.platforms).Pairwise fun name other =>
    baseKey name ≠ baseKey other
  one_platform_side : ¬ ∃ name ∈ checkedPlatforms declarations.platforms,
    ∃ other ∈ checkedPlatforms declarations.platforms,
      baseKey name = "javaee" ∧ baseKey other = "jakartaee"
  resolves : ∀ feature ∈ catalog.declaredFeatures declarations.features, feature.isVersionless →
    catalog.Resolves .standard (catalog.declaredVersioned declarations.features)
      (declaredPlatforms declarations.platforms) feature
  shares : ∀ family,
    catalog.SharesFamily (catalog.declaredVersioned declarations.features) family
  enabled : ∀ element ∈ declarations.configElements,
    ¬ catalog.Misses declarations.features (Name.normalize element)

variable {tables : CompatibilityTables} {catalog : Catalog} {declarations : Declarations}

/-! ## What is handed on -/

theorem filterMap_filter_knows {p : Feature → Bool} (names : List String) :
    (names.filter fun name => (catalog.publicFeature? name).any p).filterMap
        catalog.publicFeature? =
      (names.filterMap catalog.publicFeature?).filter p := by
  induction names with
  | nil => rfl
  | cons name names ih =>
    cases hfeature : catalog.publicFeature? name with
    | none => simp [hfeature, ih]
    | some feature => cases hp : p feature <;> simp [hfeature, hp, ih]

theorem versioned_of_namesAgree {declared : List String}
    (h : NamesAgree catalog tables (checkedNames declared)) :
    (FeatureScan.of catalog tables declared).versioned = catalog.declaredVersioned declared := by
  rw [(accepted_of_namesAgree h).1]
  exact filterMap_filter_knows _

theorem mem_versionless_of_namesAgree {declared : List String} {feature : Feature}
    (h : NamesAgree catalog tables (checkedNames declared)) :
    feature ∈ (FeatureScan.of catalog tables declared).versionless ↔
      feature ∈ catalog.declaredFeatures declared ∧ feature.isVersionless := by
  rw [(accepted_of_namesAgree h).2, ← List.mem_filter]
  exact Iff.of_eq (congrArg _ (filterMap_filter_knows _))

/-! ## Errors -/

theorem errorFindings_eq_nil_iff (hrenamed : Unambiguous tables.renamedFeatures)
    (hconflicting : Unambiguous tables.conflictingPlatforms) :
    errorFindings tables catalog declarations = [] ↔ Agrees tables catalog declarations := by
  have hnames := featureScan_findings_eq_nil_iff catalog hrenamed declarations.features
  have hplatforms := platformScan_findings_eq_nil_iff catalog hconflicting declarations.platforms
  simp only [errorFindings, List.append_eq_nil_iff, Catalog.versionlessFindings_eq_nil_iff,
    hplatforms]
  constructor
  · intro hall
    obtain ⟨⟨⟨hnone, hresolves⟩, hagree⟩, hshares⟩ := hall
    have hnames_agree := hnames.mp hnone
    rw [flagged_of_findings_eq_nil hnone, versioned_of_namesAgree hnames_agree] at hshares
    rw [versioned_of_namesAgree hnames_agree] at hresolves
    refine ⟨hnames_agree, hagree, ?_, Catalog.incompatibilities_eq_nil_iff.mp hshares⟩
    intro feature hfeature hversion
    exact hresolves feature ((mem_versionless_of_namesAgree hnames_agree).mpr ⟨hfeature, hversion⟩)
  · intro hall
    obtain ⟨hnames_agree, hagree, hresolves, hshares⟩ := hall
    have hnone := hnames.mpr hnames_agree
    rw [flagged_of_findings_eq_nil hnone, versioned_of_namesAgree hnames_agree]
    refine ⟨⟨⟨hnone, ?_⟩, hagree⟩, Catalog.incompatibilities_eq_nil_iff.mpr hshares⟩
    intro feature hfeature
    obtain ⟨hdeclared, hversion⟩ := (mem_versionless_of_namesAgree hnames_agree).mp hfeature
    exact hresolves feature hdeclared hversion

/-! ## Errors and warnings -/

/-- The standard tables hold two platforms apart. -/
theorem platformsAgree_standard_iff {names : List String} :
    PlatformsAgree catalog .standard names ↔
      (∀ name ∈ names, catalog.hasPlatform name) ∧
      (names.Pairwise fun name other => Name.normalize name ≠ Name.normalize other) ∧
      (names.Pairwise fun name other => baseKey name ≠ baseKey other) ∧
      ¬ ∃ name ∈ names, ∃ other ∈ names, baseKey name = "javaee" ∧ baseKey other = "jakartaee" := by
  have hsides : (names.Pairwise fun name other =>
      ¬ Counterparts CompatibilityTables.standard.conflictingPlatforms
        (baseKey name) (baseKey other)) ↔
      ¬ ∃ name ∈ names, ∃ other ∈ names,
        baseKey name = "javaee" ∧ baseKey other = "jakartaee" := by
    simp only [CompatibilityTables.counterparts_conflictingPlatforms_iff]
    constructor
    · intro hpairwise hexists
      obtain ⟨name, hname, other, hother, hjava, hjakarta⟩ := hexists
      have hsymm : Std.Symm fun name other =>
          ¬ (baseKey name = "javaee" ∧ baseKey other = "jakartaee" ∨
            baseKey name = "jakartaee" ∧ baseKey other = "javaee") :=
        ⟨fun _ _ hnone hsides => hnone (hsides.symm.imp And.symm And.symm)⟩
      have hne : name ≠ other := by
        intro heq
        rw [← heq, hjava] at hjakarta
        simp at hjakarta
      exact hpairwise.forall hname hother hne (Or.inl ⟨hjava, hjakarta⟩)
    · intro hnone
      refine List.pairwise_of_forall_mem_list ?_
      intro name hname other hother hsides
      rcases hsides with ⟨hjava, hjakarta⟩ | ⟨hjakarta, hjava⟩
      · exact hnone ⟨name, hname, other, hother, hjava, hjakarta⟩
      · exact hnone ⟨other, hother, name, hname, hjava, hjakarta⟩
  constructor
  · intro hall
    obtain ⟨hknown, hdistinct, hversion, hexclusion⟩ := hall
    exact ⟨hknown, hdistinct, hversion, hsides.mp hexclusion⟩
  · intro hall
    obtain ⟨hknown, hdistinct, hversion, hexclusion⟩ := hall
    exact ⟨hknown, hdistinct, hversion, hsides.mpr hexclusion⟩

theorem missingFeatures_eq_nil_iff {declared elements : List String} :
    catalog.missingFeatures declared elements = [] ↔
      ∀ element ∈ elements, ¬ catalog.Misses declared (Name.normalize element) := by
  rw [Catalog.missingFeatures_eq, List.map_eq_nil_iff, List.filter_eq_nil_iff]
  constructor
  · intro h element helement
    obtain ⟨first, hfirst, hkey⟩ := exists_mem_firstOfEach Name.normalize helement
    rw [← hkey]
    simpa using h first hfirst
  · intro h element helement
    simpa using h element (mem_of_mem_firstOfEach helement)

/-- Nothing is found just when the declarations are consistent. -/
theorem validate_eq_nil_iff (h : catalog.isEmpty = false) :
    validate .standard catalog declarations = [] ↔ Consistent catalog declarations := by
  rw [validate_eq h, List.append_eq_nil_iff, missingFeatures_eq_nil_iff,
    errorFindings_eq_nil_iff CompatibilityTables.unambiguous_renamedFeatures
      CompatibilityTables.unambiguous_conflictingPlatforms]
  constructor
  · intro hall
    obtain ⟨⟨hnames, hplatforms, hresolves, hshares⟩, henabled⟩ := hall
    obtain ⟨hknown, hdistinct, hversion, hside⟩ := platformsAgree_standard_iff.mp hplatforms
    exact ⟨hnames, hknown, hdistinct, hversion, hside, hresolves, hshares, henabled⟩
  · intro hall
    obtain ⟨hnames, hknown, hdistinct, hversion, hside, hresolves, hshares, henabled⟩ := hall
    have hplatforms := platformsAgree_standard_iff.mpr ⟨hknown, hdistinct, hversion, hside⟩
    exact ⟨⟨hnames, hplatforms, hresolves, hshares⟩, henabled⟩

/-- A feature in two versions, on a platform each, and a versionless one that allows the later. -/
def servletCatalog : Catalog := .ofFeatures [
  (Feature.named "compatible-10.0" .isPrivate).withPlatforms ["jakartaee-9.1", "jakartaee-10.0"],
  (Feature.named "servlet-5.0" .isPublic).withPlatforms ["jakartaee-9.1"],
  (Feature.named "servlet-6.0" .isPublic).withPlatforms ["jakartaee-10.0"],
  (Feature.named "servlet" .isPublic).withRequires
    ["io.openliberty.internal.versionless.servlet-6.0"]]

theorem consistent_servletCatalog : servletCatalog.isEmpty = false ∧
    Consistent servletCatalog { features := ["Servlet-6.0", " ", "usr:own-1.0", "servlet"] } := by
  have hfilled : servletCatalog.isEmpty = false := by decide +kernel
  exact ⟨hfilled, (validate_eq_nil_iff hfilled).mp (by decide +kernel)⟩

end FeatureCheck
