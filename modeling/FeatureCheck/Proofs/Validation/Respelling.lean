import FeatureCheck.Proofs.Names
import FeatureCheck.Proofs.Validation.Consistency
import Mathlib.Data.List.Forall2

/-!
# Spellings

A report depends on the declared names up to letter case and white space only: `respells_validate`.
Every pass reports the same about the normal forms of the names, but for the spelling of the names
in its findings. So two documents with the same normal forms have the same report up to spelling.
-/

namespace FeatureCheck

set_option autoImplicit false

variable {catalog : Catalog} {tables : CompatibilityTables} {kind : FindingKind}
  {names declared elements : List String} {name subject : String}

/-! ## Findings up to spelling -/

namespace Finding

/-- The finding with normal forms for names. -/
def normalize (finding : Finding) : Finding :=
  (about finding.kind (Name.normalize finding.subject)).withRelated
    (finding.related.map Name.normalize)

/-- The same finding, but for the spelling of the names. -/
structure Respells (finding other : Finding) : Prop where
  kind : finding.kind = other.kind
  subject : Name.normalize finding.subject = Name.normalize other.subject
  related : ∀ name, name ∈ finding.related.map Name.normalize ↔
    name ∈ other.related.map Name.normalize

@[simp] theorem kind_normalize (finding : Finding) : finding.normalize.kind = finding.kind := by
  rw [normalize, kind_withRelated, kind_about]

theorem subject_normalize (finding : Finding) :
    finding.normalize.subject = Name.normalize finding.subject := by
  rw [normalize, withRelated, about]

theorem mem_related_normalize {finding : Finding} :
    name ∈ finding.normalize.related ↔ name ∈ finding.related.map Name.normalize := by
  simp [normalize, withRelated, about]

theorem respells_of_normalize_eq {finding other : Finding}
    (h : finding.normalize = other.normalize) : finding.Respells other where
  kind := by rw [← kind_normalize, h, kind_normalize]
  subject := by rw [← subject_normalize, h, subject_normalize]
  related name := by rw [← mem_related_normalize, h, mem_related_normalize]

theorem normalize_about : (about kind subject).normalize = about kind (Name.normalize subject) :=
  rfl

theorem normalize_withRelated : ((about kind subject).withRelated names).normalize =
    (about kind (Name.normalize subject)).withRelated (names.map Name.normalize) := by
  apply withRelated_congr
  intro name
  simp [withRelated, about]

@[simp] theorem normalize_normalize (finding : Finding) :
    finding.normalize.normalize = finding.normalize := by
  have h := @normalize_withRelated finding.kind (finding.related.map Name.normalize)
    (Name.normalize finding.subject)
  have hnames : (finding.related.map Name.normalize).map Name.normalize =
      finding.related.map Name.normalize := by simp [Function.comp_def]
  rw [hnames, Name.normalize_normalize, ← normalize] at h
  exact h

end Finding

/-! ## Normal forms of declared names -/

@[simp] theorem baseKey_normalize (name : String) :
    baseKey (Name.normalize name) = baseKey name := by
  rw [baseKey, Name.normalize_normalize, baseKey]

theorem isChecked_normalize (name : String) :
    isChecked (Name.normalize name) = isChecked (Text.trim name) := by
  rw [isChecked, Name.isEmpty_normalize, Name.isUser_normalize, isChecked]

namespace Catalog

theorem publicFeature?_normalize (name : String) :
    catalog.publicFeature? (Name.normalize name) = catalog.publicFeature? name :=
  publicFeature?_congr (Name.normalize_normalize name)

theorem knows_normalize (name : String) :
    catalog.knows (Name.normalize name) = catalog.knows name := by
  rw [knows, publicFeature?_normalize, knows]

theorem knowsVersioned_normalize (name : String) :
    catalog.knowsVersioned (Name.normalize name) = catalog.knowsVersioned name := by
  rw [knowsVersioned, publicFeature?_normalize, knowsVersioned]

theorem knowsVersionless_normalize (name : String) :
    catalog.knowsVersionless (Name.normalize name) = catalog.knowsVersionless name := by
  rw [knowsVersionless, publicFeature?_normalize, knowsVersionless]

theorem hasPlatform_normalize (name : String) :
    catalog.hasPlatform (Name.normalize name) = catalog.hasPlatform name :=
  PlatformScan.hasPlatform_congr (Name.normalize_normalize name)

end Catalog

theorem filter_map_normalize {p : String → Bool} (hp : ∀ name, p (Name.normalize name) = p name)
    (names : List String) :
    (names.map Name.normalize).filter p = (names.filter p).map Name.normalize := by
  have hcomp : p ∘ Name.normalize = p := funext hp
  rw [List.filter_map, hcomp]

theorem find?_baseKey_map_normalize (names : List String) (base : String) :
    (names.map Name.normalize).find? (baseKey · = base) =
      (names.find? (baseKey · = base)).map Name.normalize := by
  simp only [List.find?_map, Function.comp_def, baseKey_normalize]

theorem any_key_map_normalize (names : List String) (name : String) :
    ((names.map Name.normalize).any fun other =>
        Name.normalize other = Name.normalize (Name.normalize name)) =
      names.any fun other => Name.normalize other = Name.normalize name := by
  simp [List.any_map, Function.comp_def]

theorem firstOfEach_map {key f : String → String} (hkey : ∀ name, key (f name) = key name)
    (names : List String) : firstOfEach key (names.map f) = (firstOfEach key names).map f := by
  induction names with
  | nil => rfl
  | cons name names ih =>
    rw [List.map_cons, firstOfEach, ih, List.filter_map, firstOfEach, List.map_cons]
    simp [Function.comp_def, hkey]

theorem checkedNames_map_normalize (declared : List String) :
    checkedNames (declared.map Name.normalize) = (checkedNames declared).map Name.normalize := by
  rw [checkedNames, checkedNames, List.map_map, List.filter_map, List.filter_map, List.map_map]
  simp [Function.comp_def, isChecked_normalize]

theorem checkedPlatforms_map_normalize (declared : List String) :
    checkedPlatforms (declared.map Name.normalize) =
      (checkedPlatforms declared).map Name.normalize := by
  rw [checkedPlatforms, checkedPlatforms, List.map_map, List.filter_map, List.filter_map,
    List.map_map]
  simp [Function.comp_def, Name.isEmpty_normalize]

theorem declaredPlatforms_map_normalize (declared : List String) :
    declaredPlatforms (declared.map Name.normalize) = declaredPlatforms declared := by
  simp [declaredPlatforms, Function.comp_def]

/-- What is found about an earlier name of some base, in normal form. -/
theorem map_found_normalize {base? : Option String} {first? : String → Option String}
    {finding normal : String → Finding}
    (h : ∀ other, normal (Name.normalize other) = (finding other).normalize) :
    (base?.bind fun base => (first? base).map Name.normalize).toList.map normal =
      ((base?.bind first?).toList.map finding).map Finding.normalize := by
  cases base? with
  | none => rfl
  | some base =>
    cases hfirst : first? base with
    | none => simp [hfirst]
    | some other => simp [hfirst, h]

/-! ## The feature pass -/

theorem renameFindings_normalize (first? : String → Option String) (name : String) :
    renameFindings tables (fun base => (first? base).map Name.normalize) (Name.normalize name) =
      (renameFindings tables first? name).map Finding.normalize := by
  rw [renameFindings, renameFindings, baseKey_normalize]
  apply map_found_normalize
  intro other
  rw [Finding.normalize_withRelated, List.map_singleton]

theorem replacementCandidates_normalize (name : String) :
    catalog.replacementCandidates (Name.normalize name) = catalog.replacementCandidates name := by
  simp only [Catalog.replacementCandidates, Name.trim_normalize, Name.normalize_base_normalize]

theorem nameFindings_normalize (catalog : Catalog) (tables : CompatibilityTables)
    (earlier : List String) {name : String} (htrim : Text.trim name = name) :
    (nameFindings catalog tables (earlier.map Name.normalize) (Name.normalize name)).map
        Finding.normalize =
      (nameFindings catalog tables earlier name).map Finding.normalize := by
  have hfirst : ∀ p : String → Bool, (∀ name, p (Name.normalize name) = p name) → ∀ base,
      ((earlier.map Name.normalize).filter p).find? (baseKey · = base) =
        ((earlier.filter p).find? (baseKey · = base)).map Name.normalize := by
    intro p hp base
    rw [filter_map_normalize hp, find?_baseKey_map_normalize]
  have hrenamed := @renameFindings_normalize tables
    (fun base => (earlier.filter catalog.knows).find? (baseKey · = base)) name
  simp only [nameFindings, Catalog.publicFeature?_normalize, any_key_map_normalize,
    baseKey_normalize, hfirst _ Catalog.knowsVersioned_normalize,
    hfirst _ Catalog.knows_normalize, hrenamed]
  cases catalog.publicFeature? name with
  | none => simp [Finding.normalize_withRelated, replacementCandidates_normalize]
  | some feature =>
    dsimp only
    split
    · simp [Finding.normalize_about]
    · cases hversion : feature.isVersionless
      · cases (earlier.filter catalog.knowsVersioned).find? (baseKey · = baseKey name) with
        | none => simp [Function.comp_def]
        | some first =>
          simp [Finding.normalize_withRelated, Name.normalize_base_normalize, htrim]
      · simp [Function.comp_def]

namespace FeatureScan

variable (catalog tables)

theorem findings_normalize (declared : List String) :
    (of catalog tables (declared.map Name.normalize)).findings.map Finding.normalize =
      (of catalog tables declared).findings.map Finding.normalize := by
  induction declared using List.reverseRecOn with
  | nil => rfl
  | append_singleton declared name ih =>
    rw [List.map_append, List.map_singleton, findings_of_concat, findings_of_concat,
      List.map_append, List.map_append, ih, checkedNames_map_normalize, Name.trim_normalize,
      isChecked_normalize]
    have hname := nameFindings_normalize catalog tables (checkedNames declared)
      (Text.trim_trim name)
    rw [Name.normalize_trim] at hname
    split
    · rw [hname]
    · simp only [List.map_nil]

theorem flagged_normalize (declared : List String) :
    (of catalog tables (declared.map Name.normalize)).flagged =
      (of catalog tables declared).flagged := by
  have hkinds := congrArg (·.any (·.kind ≠ .featureNotFound))
    (findings_normalize catalog tables declared)
  simp only [List.any_map, Function.comp_def, Finding.kind_normalize] at hkinds
  rw [(reads_of catalog tables _).flagged, hkinds, (reads_of catalog tables declared).flagged]

theorem versioned_normalize (declared : List String) :
    (of catalog tables (declared.map Name.normalize)).versioned =
      (of catalog tables declared).versioned := by
  rw [(reads_of catalog tables _).versioned, checkedNames_map_normalize,
    filter_map_normalize Catalog.knowsVersioned_normalize, firstOfEach_map baseKey_normalize,
    List.filterMap_map, (reads_of catalog tables declared).versioned]
  simp only [Function.comp_def, Catalog.publicFeature?_normalize]

theorem versionless_normalize (declared : List String) :
    (of catalog tables (declared.map Name.normalize)).versionless =
      (of catalog tables declared).versionless := by
  rw [(reads_of catalog tables _).versionless, checkedNames_map_normalize,
    filter_map_normalize Catalog.knowsVersionless_normalize,
    firstOfEach_map Name.normalize_normalize, List.filterMap_map,
    (reads_of catalog tables declared).versionless]
  simp only [Function.comp_def, Catalog.publicFeature?_normalize]

end FeatureScan

/-! ## The platform pass -/

theorem exclusionFindings_normalize (first? : String → Option String) (name : String) :
    exclusionFindings tables (fun base => (first? base).map Name.normalize) (Name.normalize name) =
      (exclusionFindings tables first? name).map Finding.normalize := by
  rw [exclusionFindings, exclusionFindings, baseKey_normalize]
  apply map_found_normalize
  intro other
  rw [Finding.normalize_withRelated, List.map_cons, List.map_singleton]

theorem platformFindings_normalize (catalog : Catalog) (tables : CompatibilityTables)
    (earlier : List String) {name : String} (htrim : Text.trim name = name) :
    (platformFindings catalog tables (earlier.map Name.normalize) (Name.normalize name)).map
        Finding.normalize =
      (platformFindings catalog tables earlier name).map Finding.normalize := by
  have hexcluded := @exclusionFindings_normalize tables
    (fun base => (earlier.filter catalog.hasPlatform).find? (baseKey · = base)) name
  simp only [platformFindings, Catalog.hasPlatform_normalize, any_key_map_normalize,
    baseKey_normalize, filter_map_normalize Catalog.hasPlatform_normalize,
    find?_baseKey_map_normalize, hexcluded]
  split
  · split
    · simp [Finding.normalize_about]
    · cases (earlier.filter catalog.hasPlatform).find? (baseKey · = baseKey name) with
      | none => simp [Function.comp_def]
      | some first => simp [Finding.normalize_withRelated, Name.normalize_base_normalize, htrim]
  · simp [Finding.normalize_withRelated]

theorem PlatformScan.findings_normalize (catalog : Catalog) (tables : CompatibilityTables)
    (declared : List String) :
    (of catalog tables (declared.map Name.normalize)).findings.map Finding.normalize =
      (of catalog tables declared).findings.map Finding.normalize := by
  induction declared using List.reverseRecOn with
  | nil => rfl
  | append_singleton declared name ih =>
    rw [List.map_append, List.map_singleton, findings_of_concat, findings_of_concat,
      List.map_append, List.map_append, ih, checkedPlatforms_map_normalize, Name.trim_normalize,
      Name.isEmpty_normalize]
    have hname := platformFindings_normalize catalog tables (checkedPlatforms declared)
      (Text.trim_trim name)
    rw [Name.normalize_trim] at hname
    split
    · simp only [List.map_nil]
    · rw [hname]

/-! ## The element pass -/

namespace Catalog

theorem misses_map_normalize_iff (declared : List String) (key : String) :
    catalog.Misses (declared.map Name.normalize) key ↔ catalog.Misses declared key := by
  simp [Misses]

theorem normalize_missingFinding_normalize (element : String) :
    (catalog.missingFinding (Name.normalize element)).normalize =
      (catalog.missingFinding element).normalize := by
  simp [Finding.normalize, missingFinding]

open Classical in
theorem missingFeatures_normalize (declared elements : List String) :
    (catalog.missingFeatures (declared.map Name.normalize) (elements.map Name.normalize)).map
        Finding.normalize =
      (catalog.missingFeatures declared elements).map Finding.normalize := by
  have hmisses : ∀ element,
      decide (catalog.Misses (declared.map Name.normalize)
          (Name.normalize (Name.normalize element))) =
        decide (catalog.Misses declared (Name.normalize element)) := by
    intro element
    rw [Name.normalize_normalize, decide_eq_decide, misses_map_normalize_iff]
  rw [missingFeatures_eq, missingFeatures_eq, firstOfEach_map Name.normalize_normalize,
    List.filter_map, List.map_map, List.map_map, List.map_map]
  simp only [Function.comp_def, hmisses, normalize_missingFinding_normalize]

end Catalog

/-! ## Reports -/

/-- The declarations with normal forms for names. -/
def Declarations.normalize (declarations : Declarations) : Declarations where
  features := declarations.features.map Name.normalize
  platforms := declarations.platforms.map Name.normalize
  configElements := declarations.configElements.map Name.normalize

theorem passFindings_normalize (declarations : Declarations) (pass : Pass) :
    (passFindings tables catalog declarations.normalize pass).map Finding.normalize =
      (passFindings tables catalog declarations pass).map Finding.normalize := by
  cases pass with
  | features => exact FeatureScan.findings_normalize catalog tables declarations.features
  | versionless =>
    simp only [passFindings, Declarations.normalize, FeatureScan.versionless_normalize,
      FeatureScan.versioned_normalize, declaredPlatforms_map_normalize]
  | platforms => exact PlatformScan.findings_normalize catalog tables declarations.platforms
  | families =>
    simp only [passFindings, Declarations.normalize, FeatureScan.flagged_normalize,
      FeatureScan.versioned_normalize]
  | elements =>
    exact Catalog.missingFeatures_normalize declarations.features declarations.configElements

theorem validate_normalize (tables : CompatibilityTables) (catalog : Catalog)
    (declarations : Declarations) :
    (validate tables catalog declarations.normalize).map Finding.normalize =
      (validate tables catalog declarations).map Finding.normalize := by
  cases hempty : catalog.isEmpty with
  | true => simp [validate, hempty]
  | false =>
    rw [validate_eq_flatMap hempty, validate_eq_flatMap hempty, List.map_flatMap, List.map_flatMap]
    simp only [passFindings_normalize]

/-- The names are spellings of one name: they differ in letter case and white space around them. -/
def SameName (name other : String) : Prop :=
  Name.normalize name = Name.normalize other

/-- Spellings of the same names, position by position. -/
structure Declarations.Respells (declarations others : Declarations) : Prop where
  features : List.Forall₂ SameName declarations.features others.features
  platforms : List.Forall₂ SameName declarations.platforms others.platforms
  configElements : List.Forall₂ SameName declarations.configElements others.configElements

theorem forall₂_map_eq_iff {α β : Type} {f : α → β} {items others : List α} :
    List.Forall₂ (fun item other => f item = f other) items others ↔
      items.map f = others.map f := by
  rw [← List.forall₂_eq_eq_eq, List.forall₂_map_left_iff, List.forall₂_map_right_iff]

theorem Declarations.Respells.normalize_eq {declarations others : Declarations}
    (h : declarations.Respells others) : declarations.normalize = others.normalize := by
  rw [normalize, normalize, forall₂_map_eq_iff.mp h.features, forall₂_map_eq_iff.mp h.platforms,
    forall₂_map_eq_iff.mp h.configElements]

/-- Documents that spell the same names have the same findings in the same order, but for the
spelling of the names in them. -/
theorem respells_validate (tables : CompatibilityTables) (catalog : Catalog)
    {declarations others : Declarations} (h : declarations.Respells others) :
    List.Forall₂ Finding.Respells (validate tables catalog declarations)
      (validate tables catalog others) := by
  have hmaps : (validate tables catalog declarations).map Finding.normalize =
      (validate tables catalog others).map Finding.normalize := by
    rw [← validate_normalize, h.normalize_eq, validate_normalize]
  exact (forall₂_map_eq_iff.mpr hmaps).imp fun _ _ => Finding.respells_of_normalize_eq

def servlets : Declarations where
  features := ["servlet-6.0", "servlet-5.0", "ΣΊΣΥΦΟΣ-1.0"]
  platforms := ["İ-1"]

/-- A capital sigma that ends a word is lowered to another letter than one inside it, and a capital
I with a dot to two characters. -/
def respelledServlets : Declarations where
  features := [" Servlet-6.0", "SERVLET-5.0", "σίσυφος-1.0 "]
  platforms := ["i\u0307-1"]

theorem respells_validate_servlets :
    servlets.Respells respelledServlets ∧
    (validate .standard servletCatalog servlets).map (·.kind) =
      [.featureVersionConflict, .featureNotFound, .platformNotFound] ∧
    List.Forall₂ Finding.Respells (validate .standard servletCatalog servlets)
      (validate .standard servletCatalog respelledServlets) := by
  have hfeatures : servlets.features.map Name.normalize =
      respelledServlets.features.map Name.normalize := by decide +kernel
  have hplatforms : servlets.platforms.map Name.normalize =
      respelledServlets.platforms.map Name.normalize := by decide +kernel
  have hrespells : servlets.Respells respelledServlets :=
    ⟨forall₂_map_eq_iff.mpr hfeatures, forall₂_map_eq_iff.mpr hplatforms, .nil⟩
  exact ⟨hrespells, by decide +kernel, respells_validate .standard servletCatalog hrespells⟩

end FeatureCheck
