import FeatureCheck.Proofs.Tables
import FeatureCheck.Proofs.Validation.FeatureScan

/-!
# When the feature pass finds nothing

Declared names agree when each is known and no two of them exclude each other. The order in which
they are declared has no part in this: `NamesAgree.perm`.
-/

namespace FeatureCheck

set_option autoImplicit false

/-- The names of public features, of which no two have one key, are two versions of one feature, or
stand on the two sides of a renaming. -/
structure NamesAgree (catalog : Catalog) (tables : CompatibilityTables) (names : List String) :
    Prop where
  known : ∀ name ∈ names, catalog.knows name
  distinct : names.Pairwise fun name other => Name.normalize name ≠ Name.normalize other
  one_version : names.Pairwise fun name other =>
    catalog.knowsVersioned name → catalog.knowsVersioned other → baseKey name ≠ baseKey other
  no_renaming : names.Pairwise fun name other =>
    ¬ Counterparts tables.renamedFeatures (baseKey name) (baseKey other)

variable {catalog : Catalog} {tables : CompatibilityTables} {names others : List String}
  {name : String}

theorem NamesAgree.perm (h : NamesAgree catalog tables names) (hperm : names.Perm others) :
    NamesAgree catalog tables others where
  known other hother := h.known other (hperm.mem_iff.mpr hother)
  distinct := (hperm.pairwise_iff Ne.symm).mp h.distinct
  one_version := (hperm.pairwise_iff fun hne hleft hright => (hne hright hleft).symm).mp
    h.one_version
  no_renaming := (hperm.pairwise_iff fun hnone hsome => hnone hsome.symm).mp h.no_renaming

theorem namesAgree_nil : NamesAgree catalog tables [] :=
  ⟨by simp, .nil, .nil, .nil⟩

theorem namesAgree_concat_iff : NamesAgree catalog tables (names ++ [name]) ↔
    NamesAgree catalog tables names ∧ catalog.knows name ∧
      ∀ other ∈ names, Name.normalize other ≠ Name.normalize name ∧
        (catalog.knowsVersioned other → catalog.knowsVersioned name →
          baseKey other ≠ baseKey name) ∧
        ¬ Counterparts tables.renamedFeatures (baseKey other) (baseKey name) := by
  constructor
  · intro hall
    obtain ⟨hknown, hdistinct, hversion, hrenaming⟩ := hall
    rw [pairwise_concat_iff] at hdistinct hversion hrenaming
    obtain ⟨hothers, hname⟩ := List.forall_mem_append.mp hknown
    refine ⟨⟨hothers, hdistinct.1, hversion.1, hrenaming.1⟩, hname name List.mem_cons_self, ?_⟩
    intro other hother
    exact ⟨hdistinct.2 other hother, hversion.2 other hother, hrenaming.2 other hother⟩
  · intro hall
    obtain ⟨⟨hknown, hdistinct, hversion, hrenaming⟩, hname, hothers⟩ := hall
    refine ⟨List.forall_mem_append.mpr ⟨hknown, List.forall_mem_singleton.mpr hname⟩,
      pairwise_concat_iff.mpr ⟨hdistinct, fun other hother => (hothers other hother).1⟩,
      pairwise_concat_iff.mpr ⟨hversion, fun other hother => (hothers other hother).2.1⟩,
      pairwise_concat_iff.mpr ⟨hrenaming, fun other hother => (hothers other hother).2.2⟩⟩

/-! ## One name -/

theorem renameFindings_eq_nil_iff (htable : Unambiguous tables.renamedFeatures) :
    renameFindings tables (fun base => names.find? (baseKey · = base)) name = [] ↔
      ∀ other ∈ names, ¬ Counterparts tables.renamedFeatures (baseKey other) (baseKey name) := by
  rw [renameFindings, List.map_eq_nil_iff, Option.toList_eq_nil_iff]
  exact find?_counterpart?_eq_none_iff htable

theorem nameFindings_eq_nil_iff (htable : Unambiguous tables.renamedFeatures)
    (hnames : ∀ other ∈ names, catalog.knows other) :
    nameFindings catalog tables names name = [] ↔
      catalog.knows name ∧
        ∀ other ∈ names, Name.normalize other ≠ Name.normalize name ∧
          (catalog.knowsVersioned other → catalog.knowsVersioned name →
            baseKey other ≠ baseKey name) ∧
          ¬ Counterparts tables.renamedFeatures (baseKey other) (baseKey name) := by
  cases hfeature : catalog.publicFeature? name with
  | none => simp [nameFindings, hfeature, Catalog.knows]
  | some feature =>
    have hknows : catalog.knows name = true := by simp [Catalog.knows, hfeature]
    have hall : names.filter catalog.knows = names := List.filter_eq_self.mpr hnames
    by_cases hrepeat : ∃ other ∈ names, Name.normalize other = Name.normalize name
    · rw [FeatureScan.nameFindings_of_repeated hfeature hrepeat]
      obtain ⟨other, hother, hkey⟩ := hrepeat
      simp only [List.cons_ne_nil, false_iff]
      intro hall
      obtain ⟨-, hothers⟩ := hall
      exact (hothers other hother).1 hkey
    · have hdistinct : ∀ other ∈ names, Name.normalize other ≠ Name.normalize name :=
        fun other hother hkey => hrepeat ⟨other, hother, hkey⟩
      cases hversion : feature.isVersionless with
      | true =>
        have hversioned : catalog.knowsVersioned name = false := by
          simp [Catalog.knowsVersioned, hfeature, hversion]
        rw [FeatureScan.nameFindings_of_versionless hfeature hversion hrepeat, hall,
          renameFindings_eq_nil_iff htable]
        simp only [hknows, hversioned, true_and, Bool.false_eq_true, false_implies, implies_true]
        exact forall₂_congr fun other hother => (and_iff_right (hdistinct other hother)).symm
      | false =>
        have hversioned : catalog.knowsVersioned name = true := by
          simp [Catalog.knowsVersioned, hfeature, hversion]
        rw [FeatureScan.nameFindings_of_versioned hfeature hversion hrepeat, hall]
        cases hfirst : (names.filter catalog.knowsVersioned).find? (baseKey · = baseKey name) with
        | some first =>
          simp only [List.cons_ne_nil, false_iff]
          intro hall
          obtain ⟨-, hothers⟩ := hall
          obtain ⟨hmem, hknown⟩ := List.mem_filter.mp (List.mem_of_find?_eq_some hfirst)
          have hbase : baseKey first = baseKey name := by simpa using List.find?_some hfirst
          exact (hothers first hmem).2.1 hknown hversioned hbase
        | none =>
          have hbases : ∀ other ∈ names, catalog.knowsVersioned other →
              baseKey other ≠ baseKey name := by
            intro other hother hknown
            have hne := List.find?_eq_none.mp hfirst other (List.mem_filter.mpr ⟨hother, hknown⟩)
            simpa using hne
          simp only [renameFindings_eq_nil_iff htable, hknows, hversioned, true_and]
          constructor
          · intro hrenaming other hother
            exact ⟨hdistinct other hother, fun hknown _ => hbases other hother hknown,
              hrenaming other hother⟩
          · intro hothers other hother
            exact (hothers other hother).2.2

/-! ## All names -/

/-- The pass finds nothing just when the names agree. -/
theorem featureScan_findings_eq_nil_iff (catalog : Catalog)
    (htable : Unambiguous tables.renamedFeatures) (declared : List String) :
    (FeatureScan.of catalog tables declared).findings = [] ↔
      NamesAgree catalog tables (checkedNames declared) := by
  induction declared using List.reverseRecOn with
  | nil => exact iff_of_true rfl namesAgree_nil
  | append_singleton declared name ih =>
    rw [FeatureScan.findings_of_concat, checkedNames_concat]
    cases hchecked : isChecked (Text.trim name) with
    | false => simpa using ih
    | true =>
      simp only [if_true]
      rw [List.append_eq_nil_iff, ih, namesAgree_concat_iff]
      exact and_congr_right fun hagree => nameFindings_eq_nil_iff htable hagree.known

theorem flagged_of_findings_eq_nil {declared : List String}
    (h : (FeatureScan.of catalog tables declared).findings = []) :
    (FeatureScan.of catalog tables declared).flagged = false := by
  rw [(FeatureScan.reads_of catalog tables declared).flagged, h]
  rfl

/-- Where the names agree, nothing that is declared is left out of what is handed on. -/
theorem accepted_of_namesAgree {declared : List String}
    (h : NamesAgree catalog tables (checkedNames declared)) :
    (FeatureScan.of catalog tables declared).versioned =
        ((checkedNames declared).filter catalog.knowsVersioned).filterMap catalog.publicFeature? ∧
      (FeatureScan.of catalog tables declared).versionless =
        ((checkedNames declared).filter catalog.knowsVersionless).filterMap
          catalog.publicFeature? := by
  have hreads := FeatureScan.reads_of catalog tables declared
  have hbases : ((checkedNames declared).filter catalog.knowsVersioned).Pairwise
      fun name other => baseKey name ≠ baseKey other := by
    apply (h.one_version.filter catalog.knowsVersioned).imp_of_mem
    intro name other hname hother hne
    exact hne (List.mem_filter.mp hname).2 (List.mem_filter.mp hother).2
  have hkeys : ((checkedNames declared).filter catalog.knowsVersionless).Pairwise
      fun name other => Name.normalize name ≠ Name.normalize other := h.distinct.filter _
  constructor
  · rw [hreads.versioned, firstOfEach_eq_self hbases]
  · rw [hreads.versionless, firstOfEach_eq_self hkeys]

end FeatureCheck
