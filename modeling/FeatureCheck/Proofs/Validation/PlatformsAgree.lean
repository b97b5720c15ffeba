import FeatureCheck.Proofs.Validation.PlatformScan

/-!
# When the platform pass finds nothing

Declared platforms agree when each is known and no two of them exclude each other, in whatever
order they are declared: `PlatformsAgree.perm`.
-/

namespace FeatureCheck

set_option autoImplicit false

/-- Known platforms, of which no two have one base or exclude each other. -/
structure PlatformsAgree (catalog : Catalog) (tables : CompatibilityTables)
    (names : List String) : Prop where
  known : ∀ name ∈ names, catalog.hasPlatform name
  distinct : names.Pairwise fun name other => Name.normalize name ≠ Name.normalize other
  one_version : names.Pairwise fun name other => baseKey name ≠ baseKey other
  no_exclusion : names.Pairwise fun name other =>
    ¬ Counterparts tables.conflictingPlatforms (baseKey name) (baseKey other)

variable {catalog : Catalog} {tables : CompatibilityTables} {names others : List String}
  {name : String}

theorem PlatformsAgree.perm (h : PlatformsAgree catalog tables names) (hperm : names.Perm others) :
    PlatformsAgree catalog tables others where
  known other hother := h.known other (hperm.mem_iff.mpr hother)
  distinct := (hperm.pairwise_iff Ne.symm).mp h.distinct
  one_version := (hperm.pairwise_iff Ne.symm).mp h.one_version
  no_exclusion := (hperm.pairwise_iff fun hnone hsome => hnone hsome.symm).mp h.no_exclusion

theorem platformsAgree_nil : PlatformsAgree catalog tables [] :=
  ⟨by simp, .nil, .nil, .nil⟩

theorem platformsAgree_concat_iff : PlatformsAgree catalog tables (names ++ [name]) ↔
    PlatformsAgree catalog tables names ∧ catalog.hasPlatform name ∧
      ∀ other ∈ names, Name.normalize other ≠ Name.normalize name ∧
        baseKey other ≠ baseKey name ∧
        ¬ Counterparts tables.conflictingPlatforms (baseKey other) (baseKey name) := by
  constructor
  · intro hall
    obtain ⟨hknown, hdistinct, hversion, hexclusion⟩ := hall
    rw [pairwise_concat_iff] at hdistinct hversion hexclusion
    obtain ⟨hothers, hname⟩ := List.forall_mem_append.mp hknown
    refine ⟨⟨hothers, hdistinct.1, hversion.1, hexclusion.1⟩, hname name List.mem_cons_self, ?_⟩
    intro other hother
    exact ⟨hdistinct.2 other hother, hversion.2 other hother, hexclusion.2 other hother⟩
  · intro hall
    obtain ⟨⟨hknown, hdistinct, hversion, hexclusion⟩, hname, hothers⟩ := hall
    refine ⟨List.forall_mem_append.mpr ⟨hknown, List.forall_mem_singleton.mpr hname⟩,
      pairwise_concat_iff.mpr ⟨hdistinct, fun other hother => (hothers other hother).1⟩,
      pairwise_concat_iff.mpr ⟨hversion, fun other hother => (hothers other hother).2.1⟩,
      pairwise_concat_iff.mpr ⟨hexclusion, fun other hother => (hothers other hother).2.2⟩⟩

theorem exclusionFindings_eq_nil_iff (htable : Unambiguous tables.conflictingPlatforms) :
    exclusionFindings tables (fun base => names.find? (baseKey · = base)) name = [] ↔
      ∀ other ∈ names,
        ¬ Counterparts tables.conflictingPlatforms (baseKey other) (baseKey name) := by
  rw [exclusionFindings, List.map_eq_nil_iff, Option.toList_eq_nil_iff]
  exact find?_counterpart?_eq_none_iff htable

theorem platformFindings_eq_nil_iff (htable : Unambiguous tables.conflictingPlatforms)
    (hnames : ∀ other ∈ names, catalog.hasPlatform other) :
    platformFindings catalog tables names name = [] ↔
      catalog.hasPlatform name ∧
        ∀ other ∈ names, Name.normalize other ≠ Name.normalize name ∧
          baseKey other ≠ baseKey name ∧
          ¬ Counterparts tables.conflictingPlatforms (baseKey other) (baseKey name) := by
  have hall : names.filter catalog.hasPlatform = names := List.filter_eq_self.mpr hnames
  simp only [platformFindings, hall, List.any_eq_true, decide_eq_true_eq]
  cases hname : catalog.hasPlatform name with
  | false => simp
  | true =>
    simp only [if_true, true_and]
    by_cases hrepeat : ∃ other ∈ names, Name.normalize other = Name.normalize name
    · rw [if_pos hrepeat]
      obtain ⟨other, hother, hkey⟩ := hrepeat
      simp only [List.cons_ne_nil, false_iff]
      intro hothers
      exact (hothers other hother).1 hkey
    · rw [if_neg hrepeat]
      have hdistinct : ∀ other ∈ names, Name.normalize other ≠ Name.normalize name :=
        fun other hother hkey => hrepeat ⟨other, hother, hkey⟩
      cases hfirst : names.find? (baseKey · = baseKey name) with
      | some first =>
        simp only [List.cons_ne_nil, false_iff]
        intro hothers
        have hbase : baseKey first = baseKey name := by simpa using List.find?_some hfirst
        exact (hothers first (List.mem_of_find?_eq_some hfirst)).2.1 hbase
      | none =>
        have hbases : ∀ other ∈ names, baseKey other ≠ baseKey name := by
          intro other hother
          simpa using List.find?_eq_none.mp hfirst other hother
        simp only [exclusionFindings_eq_nil_iff htable]
        constructor
        · intro hexclusion other hother
          exact ⟨hdistinct other hother, hbases other hother, hexclusion other hother⟩
        · intro hothers other hother
          exact (hothers other hother).2.2

/-- The pass finds nothing just when the platforms agree. -/
theorem platformScan_findings_eq_nil_iff (catalog : Catalog)
    (htable : Unambiguous tables.conflictingPlatforms) (declared : List String) :
    (PlatformScan.of catalog tables declared).findings = [] ↔
      PlatformsAgree catalog tables (checkedPlatforms declared) := by
  induction declared using List.reverseRecOn with
  | nil => exact iff_of_true rfl platformsAgree_nil
  | append_singleton declared name ih =>
    rw [PlatformScan.findings_of_concat, checkedPlatforms_concat]
    cases hblank : (Text.trim name).isEmpty with
    | true => simpa using ih
    | false =>
      simp only [Bool.false_eq_true, if_false, Bool.not_false, if_true]
      rw [List.append_eq_nil_iff, ih, platformsAgree_concat_iff]
      exact and_congr_right fun hagree => platformFindings_eq_nil_iff htable hagree.known

end FeatureCheck
