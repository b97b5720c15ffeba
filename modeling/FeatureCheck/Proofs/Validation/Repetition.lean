import FeatureCheck.Proofs.Catalog.Lookup
import FeatureCheck.Proofs.Names
import FeatureCheck.Proofs.Validation.Severity

/-!
# Features declared again

The feature pass goes by what a declaration reads, not by the feature that it finds: a declaration
counts as a repetition just when an earlier one has its key, and as one more version just when an
earlier one has its base. Where features are declared by their short names this comes to the same as
comparing the features (`repetition_reported_iff`). A feature that is declared under each of its two
names goes unnoticed (`repetition_unreported`).
-/

namespace FeatureCheck

set_option autoImplicit false

variable {catalog : Catalog} {tables : CompatibilityTables} {declared names : List String}
  {name written : String} {feature other : Feature} {position : Nat}

theorem Feature.base_key (feature : Feature) :
    Name.base feature.key = Text.lowercase feature.base := by
  rw [key, Name.base_normalize, feature.trim_name, base]

/-- Under its short name a feature is declared with its own base. -/
theorem baseKey_of_key (h : Name.normalize name = feature.key) :
    baseKey name = Text.lowercase feature.base := by
  rw [baseKey, h, feature.base_key]

namespace FeatureScan

/-! ## Position by position -/

/-- What the pass adds to its findings when it comes to a declaration. -/
def findingsAt (catalog : Catalog) (tables : CompatibilityTables) (declared : List String)
    (position : Nat) : List Finding :=
  (of catalog tables (declared.take (position + 1))).findings.drop
    (of catalog tables (declared.take position)).findings.length

def Reports (catalog : Catalog) (tables : CompatibilityTables) (declared : List String)
    (position : Nat) (kind : FindingKind) : Prop :=
  ∃ finding ∈ findingsAt catalog tables declared position, finding.kind = kind

theorem findings_take_succ (h : declared[position]? = some written) :
    (of catalog tables (declared.take (position + 1))).findings =
      (of catalog tables (declared.take position)).findings ++
        if isChecked (Text.trim written) then
          nameFindings catalog tables (checkedNames (declared.take position)) (Text.trim written)
        else [] := by
  rw [List.take_add_one, h, Option.toList_some, findings_of_concat]

theorem findingsAt_eq (h : declared[position]? = some written) :
    findingsAt catalog tables declared position =
      if isChecked (Text.trim written) then
        nameFindings catalog tables (checkedNames (declared.take position)) (Text.trim written)
      else [] := by
  rw [findingsAt, findings_take_succ h, List.drop_left]

/-- The findings of the pass are those at the positions, one after the other. -/
theorem findings_eq_flatMap (declared : List String) :
    (of catalog tables declared).findings =
      (List.range declared.length).flatMap (findingsAt catalog tables declared) := by
  have hfront : ∀ n ≤ declared.length, (of catalog tables (declared.take n)).findings =
      (List.range n).flatMap (findingsAt catalog tables declared) := by
    intro n
    induction n with
    | zero =>
      intro _
      rfl
    | succ n ih =>
      intro hn
      have hget : declared[n]? = some declared[n] := List.getElem?_eq_getElem hn
      rw [findings_take_succ hget, List.range_succ, List.flatMap_append, List.flatMap_singleton,
        ih (Nat.le_of_lt hn), findingsAt_eq hget]
  have hall := hfront declared.length (Nat.le_refl _)
  rwa [List.take_length] at hall

end FeatureScan

/-! ## One name -/

/-- A repetition is told by the keys alone. -/
theorem exists_alreadyIncluded_iff (hfeature : catalog.publicFeature? name = some feature) :
    (∃ finding ∈ nameFindings catalog tables names name,
        finding.kind = .featureAlreadyIncluded) ↔
      ∃ other ∈ names, Name.normalize other = Name.normalize name := by
  by_cases hrepeat : ∃ other ∈ names, Name.normalize other = Name.normalize name
  · rw [FeatureScan.nameFindings_of_repeated hfeature hrepeat]
    simp [hrepeat]
  · refine iff_of_false ?_ hrepeat
    rintro ⟨finding, hfinding, hkind⟩
    cases hversion : feature.isVersionless with
    | true =>
      rw [FeatureScan.nameFindings_of_versionless hfeature hversion hrepeat] at hfinding
      rw [kind_of_mem_renameFindings hfinding] at hkind
      simp at hkind
    | false =>
      rw [FeatureScan.nameFindings_of_versioned hfeature hversion hrepeat] at hfinding
      split at hfinding
      · rw [List.mem_singleton.mp hfinding] at hkind
        simp at hkind
      · rw [kind_of_mem_renameFindings hfinding] at hkind
        simp at hkind

/-- A repetition or another version of a versioned feature is told by the bases. -/
theorem exists_included_iff (hfeature : catalog.publicFeature? name = some feature)
    (hversion : feature.isVersionless = false) :
    (∃ finding ∈ nameFindings catalog tables names name,
        finding.kind = .featureAlreadyIncluded ∨ finding.kind = .featureVersionConflict) ↔
      ∃ other ∈ names, catalog.knowsVersioned other ∧ baseKey other = baseKey name := by
  by_cases hrepeat : ∃ other ∈ names, Name.normalize other = Name.normalize name
  · rw [FeatureScan.nameFindings_of_repeated hfeature hrepeat]
    obtain ⟨other, hother, hkey⟩ := hrepeat
    have hknown : catalog.knowsVersioned other := by
      rw [Catalog.knowsVersioned_of_key hfeature hkey, hversion, Bool.not_false]
    refine iff_of_true ?_ ⟨other, hother, hknown, baseKey_eq_of_key_eq hkey⟩
    exact ⟨_, List.mem_singleton_self _, .inl rfl⟩
  · rw [FeatureScan.nameFindings_of_versioned hfeature hversion hrepeat]
    cases hfirst : (names.filter catalog.knowsVersioned).find? (baseKey · = baseKey name) with
    | some first =>
      obtain ⟨hmem, hknown⟩ := List.mem_filter.mp (List.mem_of_find?_eq_some hfirst)
      have hbase : baseKey first = baseKey name := by simpa using List.find?_some hfirst
      refine iff_of_true ?_ ⟨first, hmem, hknown, hbase⟩
      exact ⟨_, List.mem_singleton_self _, .inr rfl⟩
    | none =>
      refine iff_of_false ?_ ?_
      · rintro ⟨finding, hfinding, hkind⟩
        rw [kind_of_mem_renameFindings hfinding] at hkind
        simp at hkind
      · rintro ⟨other, hother, hknown, hbase⟩
        have hne := List.find?_eq_none.mp hfirst other (List.mem_filter.mpr ⟨hother, hknown⟩)
        exact hne (decide_eq_true hbase)

/-! ## Declarations -/

/-- What is declared at a position is looked at, and names a public feature. -/
structure DeclaresAt (catalog : Catalog) (declared : List String) (position : Nat) (name : String)
    (feature : Feature) : Prop where
  declared : declared[position]?.map Text.trim = some name
  checked : isChecked name
  feature : catalog.publicFeature? name = some feature

namespace DeclaresAt

theorem findingsAt_eq (h : DeclaresAt catalog declared position name feature) :
    FeatureScan.findingsAt catalog tables declared position =
      nameFindings catalog tables (checkedNames (declared.take position)) name := by
  obtain ⟨written, hwritten, rfl⟩ := Option.map_eq_some_iff.mp h.declared
  rw [FeatureScan.findingsAt_eq hwritten, if_pos h.checked]

theorem reports_alreadyIncluded_iff (h : DeclaresAt catalog declared position name feature) :
    FeatureScan.Reports catalog tables declared position .featureAlreadyIncluded ↔
      ∃ other ∈ checkedNames (declared.take position),
        Name.normalize other = Name.normalize name := by
  rw [FeatureScan.Reports, h.findingsAt_eq, exists_alreadyIncluded_iff h.feature]

theorem reports_included_iff (h : DeclaresAt catalog declared position name feature)
    (hversion : feature.isVersionless = false) :
    FeatureScan.Reports catalog tables declared position .featureAlreadyIncluded ∨
        FeatureScan.Reports catalog tables declared position .featureVersionConflict ↔
      ∃ other ∈ checkedNames (declared.take position),
        catalog.knowsVersioned other ∧ baseKey other = baseKey name := by
  have hnames := @exists_included_iff catalog tables (checkedNames (declared.take position)) name
    feature h.feature hversion
  rw [← hnames, FeatureScan.Reports, FeatureScan.Reports, h.findingsAt_eq, ← exists_or]
  simp only [← and_or_left]

theorem mem_checkedNames_take (h : DeclaresAt catalog declared position name feature) {later : Nat}
    (hlater : position < later) : name ∈ checkedNames (declared.take later) := by
  obtain ⟨written, hwritten, rfl⟩ := Option.map_eq_some_iff.mp h.declared
  refine List.mem_filter.mpr ⟨List.mem_map.mpr ⟨written, ?_, rfl⟩, h.checked⟩
  refine List.mem_of_getElem? (i := position) ?_
  rw [List.getElem?_take_of_lt hlater, hwritten]

theorem knowsVersioned (h : DeclaresAt catalog declared position name feature)
    (hversion : feature.isVersionless = false) : catalog.knowsVersioned name := by
  rw [Catalog.knowsVersioned_of_key h.feature rfl, hversion, Bool.not_false]

end DeclaresAt

/-! ## Features declared by their short names -/

/-- Names of public features are their short names, in whatever spelling. -/
def ByShortNames (catalog : Catalog) (names : List String) : Prop :=
  ∀ name ∈ names, ∀ feature, catalog.publicFeature? name = some feature →
    Name.normalize name = feature.key

/-- The accepted versioned features are of different bases. -/
theorem pairwise_base_versioned (h : ByShortNames catalog (checkedNames declared)) :
    (FeatureScan.of catalog tables declared).versioned.Pairwise fun earlier later =>
      Text.lowercase earlier.base ≠ Text.lowercase later.base := by
  rw [(FeatureScan.reads_of catalog tables declared).versioned, List.pairwise_filterMap]
  have hshort : ∀ name ∈ firstOfEach baseKey ((checkedNames declared).filter
      catalog.knowsVersioned), ∀ feature, catalog.publicFeature? name = some feature →
        baseKey name = Text.lowercase feature.base := by
    intro name hname feature hfeature
    have hdeclared := (List.mem_filter.mp (mem_of_mem_firstOfEach hname)).1
    exact baseKey_of_key (h name hdeclared feature hfeature)
  apply (pairwise_firstOfEach _).imp_of_mem
  intro first second hfirst hsecond hne feature hfeature other hother heq
  apply hne
  rw [hshort first hfirst feature hfeature, hshort second hsecond other hother, heq]

/-- Every versionless feature is accepted once. -/
theorem nodup_versionless (h : ByShortNames catalog (checkedNames declared)) :
    (FeatureScan.of catalog tables declared).versionless.Nodup := by
  rw [(FeatureScan.reads_of catalog tables declared).versionless, List.nodup_iff_pairwise_ne,
    List.pairwise_filterMap]
  have hshort : ∀ name ∈ firstOfEach Name.normalize ((checkedNames declared).filter
      catalog.knowsVersionless), ∀ feature, catalog.publicFeature? name = some feature →
        Name.normalize name = feature.key := by
    intro name hname feature hfeature
    have hdeclared := (List.mem_filter.mp (mem_of_mem_firstOfEach hname)).1
    exact h name hdeclared feature hfeature
  apply (pairwise_firstOfEach _).imp_of_mem
  intro first second hfirst hsecond hne feature hfeature other hother heq
  apply hne
  rw [hshort first hfirst feature hfeature, hshort second hsecond other hother, heq]

/-! ## What is reported -/

open FeatureScan in
/-- When a declaration is reported as included already or as another version, by what it reads; and
what this means for features that are declared by their short names. -/
theorem repetition_reported_iff (tables : CompatibilityTables) (catalog : Catalog)
    (declarations : Declarations) :
    (catalog.isEmpty = false →
      (validate tables catalog declarations).filter (·.kind.pass = .features) =
        (List.range declarations.features.length).flatMap
          (findingsAt catalog tables declarations.features)) ∧
    (∀ position name feature, DeclaresAt catalog declarations.features position name feature →
      (Reports catalog tables declarations.features position .featureAlreadyIncluded ↔
        ∃ other ∈ checkedNames (declarations.features.take position),
          Name.normalize other = Name.normalize name) ∧
      (feature.isVersionless = false →
        (Reports catalog tables declarations.features position .featureAlreadyIncluded ∨
            Reports catalog tables declarations.features position .featureVersionConflict ↔
          ∃ other ∈ checkedNames (declarations.features.take position),
            catalog.knowsVersioned other ∧ baseKey other = baseKey name))) ∧
    (∀ earlier later first second feature other, earlier < later →
      DeclaresAt catalog declarations.features earlier first feature →
      DeclaresAt catalog declarations.features later second other →
      Name.normalize first = feature.key → Name.normalize second = other.key →
      (feature = other →
        Reports catalog tables declarations.features later .featureAlreadyIncluded) ∧
      (feature.isVersionless = false → other.isVersionless = false →
        Text.lowercase feature.base = Text.lowercase other.base →
        Reports catalog tables declarations.features later .featureAlreadyIncluded ∨
          Reports catalog tables declarations.features later .featureVersionConflict)) ∧
    (ByShortNames catalog (checkedNames declarations.features) →
      ((of catalog tables declarations.features).versioned.Pairwise fun earlier later =>
        Text.lowercase earlier.base ≠ Text.lowercase later.base) ∧
      (of catalog tables declarations.features).versionless.Nodup) := by
  refine ⟨?_, ?_, ?_, fun hshort => ⟨pairwise_base_versioned hshort, nodup_versionless hshort⟩⟩
  · intro hfilled
    rw [filter_pass_validate hfilled]
    exact findings_eq_flatMap declarations.features
  · intro position name feature hdeclares
    exact ⟨hdeclares.reports_alreadyIncluded_iff, hdeclares.reports_included_iff⟩
  · intro earlier later first second feature other horder hfirst hsecond hkey hkey'
    have hmem := hfirst.mem_checkedNames_take horder
    constructor
    · intro heq
      have hsame : Name.normalize first = Name.normalize second := by rw [hkey, hkey', heq]
      exact hsecond.reports_alreadyIncluded_iff.mpr ⟨first, hmem, hsame⟩
    · intro hversion hversion' hbases
      have hsame : baseKey first = baseKey second := by
        rw [baseKey_of_key hkey, baseKey_of_key hkey', hbases]
      have hknown := hfirst.knowsVersioned hversion
      exact (hsecond.reports_included_iff hversion').mpr ⟨first, hmem, hknown, hsame⟩

/-- A feature that has a symbolic name beside its short one. -/
def symbolicServlet : Feature :=
  (Feature.named "servlet-6.0" .isPublic).withSymbolicName "com.ibm.websphere.appserver.servlet-6.0"

def symbolicCatalog : Catalog := .ofFeatures [symbolicServlet]

/-- Other spellings of the short name are seen to be the same. -/
theorem repetition_reported_respelled :
    DeclaresAt symbolicCatalog ["servlet-6.0", " SERVLET-6.0"] 0 "servlet-6.0" symbolicServlet ∧
    DeclaresAt symbolicCatalog ["servlet-6.0", " SERVLET-6.0"] 1 "SERVLET-6.0" symbolicServlet ∧
    FeatureScan.Reports symbolicCatalog .standard ["servlet-6.0", " SERVLET-6.0"] 1
      .featureAlreadyIncluded := by
  have hfirst : DeclaresAt symbolicCatalog ["servlet-6.0", " SERVLET-6.0"] 0 "servlet-6.0"
      symbolicServlet := ⟨by decide +kernel, by decide +kernel, by decide +kernel⟩
  have hsecond : DeclaresAt symbolicCatalog ["servlet-6.0", " SERVLET-6.0"] 1 "SERVLET-6.0"
      symbolicServlet := ⟨by decide +kernel, by decide +kernel, by decide +kernel⟩
  have hreported := (repetition_reported_iff .standard symbolicCatalog
    { features := ["servlet-6.0", " SERVLET-6.0"] }).2.2.1 0 1 _ _ _ _ Nat.zero_lt_one hfirst
      hsecond (by decide +kernel) (by decide +kernel)
  exact ⟨hfirst, hsecond, hreported.1 rfl⟩

/-- Declared by both its names, a feature is accepted twice, and nothing is reported. -/
theorem repetition_unreported :
    let declared := ["servlet-6.0", "com.ibm.websphere.appserver.servlet-6.0"]
    DeclaresAt symbolicCatalog declared 0 "servlet-6.0" symbolicServlet ∧
    DeclaresAt symbolicCatalog declared 1 "com.ibm.websphere.appserver.servlet-6.0" symbolicServlet ∧
    validate .standard symbolicCatalog { features := declared } = [] ∧
    (FeatureScan.of symbolicCatalog .standard declared).versioned =
      [symbolicServlet, symbolicServlet] := by
  refine ⟨⟨?_, ?_, ?_⟩, ⟨?_, ?_, ?_⟩, ?_, ?_⟩
  all_goals decide +kernel

end FeatureCheck
