import FeatureCheck.Proofs.Catalog.Lookup
import FeatureCheck.Proofs.Validation.Severity
import Mathlib.Data.List.Forall2
import Mathlib.Data.List.ReduceOption

/-!
# The rules of the pass over versionless features

`Judges` has one rule for each thing that can be found about an accepted versionless feature, in
terms of the accepted versioned features and of the keys of the declared platforms. Of each feature
exactly one thing holds (`judges_iff`), and the pass reports it in turn (`versionlessReading_iff`).
-/

namespace FeatureCheck

set_option autoImplicit false

namespace Catalog

section Rules

variable (catalog : Catalog) (tables : CompatibilityTables) (versioned : List Feature)
  (declared : NameSet) (feature : Feature)

/-- A platform of the catalog that all the features list. -/
def IsCommon (platform : String) : Prop :=
  platform ∈ catalog.platforms ∧ ∀ v ∈ versioned, platform ∈ v.platforms

/-- What is found about a versionless feature; nothing is common to no features. -/
inductive Judges : Option Finding → Prop
  | refused (hdeclared : declared ≠ ∅)
      (hnone : ∀ platform ∈ declared, platform ∉ catalog.allowedPlatforms tables feature.name) :
      Judges (some ((Finding.about .noConfiguredPlatform feature.name).withRelated declared.toList))
  | configured {platform : String} (hplatform : platform ∈ declared)
      (hallowed : platform ∈ catalog.allowedPlatforms tables feature.name) : Judges none
  | nothingDeclared (hundeclared : declared = ∅) (hnone : versioned = []) :
      Judges (some (.about .noPlatformOrFeatureToResolve feature.name))
  | noCommon (hundeclared : declared = ∅) (hsome : versioned ≠ [])
      (hcommon : ∀ platform, ¬ catalog.IsCommon versioned platform) :
      Judges (some ((Finding.about .noCommonPlatform feature.name).withRelated
        (versioned.map (·.name))))
  | ambiguous {common : NameSet} {platform other : String} (hundeclared : declared = ∅)
      (hsome : versioned ≠ [])
      (hcommon : ∀ platform, platform ∈ common ↔ catalog.IsCommon versioned platform)
      (hplatform : platform ∈ common) (hother : other ∈ common) (hdiffer : platform ≠ other) :
      Judges (some ((Finding.about .ambiguousCommonPlatform feature.name).withRelated
        common.toList))
  | unsupported {platform : String} (hundeclared : declared = ∅) (hsome : versioned ≠ [])
      (hcommon : ∀ other, catalog.IsCommon versioned other ↔ other = platform)
      (hrefused : platform ∉ catalog.allowedPlatforms tables feature.name) :
      Judges (some ((Finding.about .noSupportedPlatform feature.name).withRelated [platform]))
  | inferred {platform : String} (hundeclared : declared = ∅) (hsome : versioned ≠ [])
      (hcommon : ∀ other, catalog.IsCommon versioned other ↔ other = platform)
      (hallowed : platform ∈ catalog.allowedPlatforms tables feature.name) : Judges none

end Rules

variable {catalog : Catalog} {tables : CompatibilityTables} {versioned : List Feature}
  {declared allowed : NameSet} {feature : Feature} {platform : String}

/-! ## The common platforms -/

/-- The platforms that the features of a catalog have in common, looked up by their names. -/
def sharedPlatforms (catalog : Catalog) (versioned : List Feature) : NameSet :=
  NameSet.commonTo (versioned.map fun v => catalog.platformsOf v.name)

theorem mem_sharedPlatforms_iff (hmem : ∀ v ∈ versioned, v ∈ catalog.features)
    (hsome : versioned ≠ []) :
    platform ∈ catalog.sharedPlatforms versioned ↔ catalog.IsCommon versioned platform := by
  rw [sharedPlatforms, NameSet.mem_commonTo, IsCommon]
  simp only [ne_eq, List.map_eq_nil_iff, hsome, not_false_eq_true, true_and, List.forall_mem_map]
  constructor
  · intro h
    obtain ⟨v, hv⟩ := List.exists_mem_of_ne_nil versioned hsome
    refine ⟨((mem_platformsOf_name_iff (hmem v hv)).mp (h v hv)).1, ?_⟩
    exact fun v hv => ((mem_platformsOf_name_iff (hmem v hv)).mp (h v hv)).2
  · rintro ⟨hcatalog, hall⟩ v hv
    exact (mem_platformsOf_name_iff (hmem v hv)).mpr ⟨hcatalog, hall v hv⟩

theorem toList_sharedPlatforms_of_only (hmem : ∀ v ∈ versioned, v ∈ catalog.features)
    (hsome : versioned ≠ [])
    (hcommon : ∀ other, catalog.IsCommon versioned other ↔ other = platform) :
    (catalog.sharedPlatforms versioned).toList = [platform] := by
  rw [NameSet.toList_eq_singleton_iff]
  intro other
  rw [mem_sharedPlatforms_iff hmem hsome, hcommon]

theorem inferredPlatformFinding_of_some (hsome : versioned ≠ []) :
    catalog.inferredPlatformFinding feature allowed versioned =
      match (catalog.sharedPlatforms versioned).toList with
      | [] => some ((Finding.about .noCommonPlatform feature.name).withRelated
          (versioned.map (·.name)))
      | [platform] =>
          if allowed.contains platform then none
          else some ((Finding.about .noSupportedPlatform feature.name).withRelated [platform])
      | common =>
          some ((Finding.about .ambiguousCommonPlatform feature.name).withRelated common) := by
  rw [inferredPlatformFinding, if_neg (by simpa using hsome)]
  rfl

theorem versionlessFinding_of_undeclared (hundeclared : declared = ∅) :
    catalog.versionlessFinding tables versioned declared feature =
      catalog.inferredPlatformFinding feature (catalog.allowedPlatforms tables feature.name)
        versioned := by
  rw [versionlessFinding, hundeclared]
  exact if_pos rfl

theorem versionlessFinding_of_declared (hdeclared : declared ≠ ∅) :
    catalog.versionlessFinding tables versioned declared feature =
      if NameSet.isDisjoint (catalog.allowedPlatforms tables feature.name) declared then
        some ((Finding.about .noConfiguredPlatform feature.name).withRelated declared.toList)
      else none := by
  rw [versionlessFinding]
  exact if_neg (by simpa using hdeclared)

/-! ## One feature -/

/-- Of several common platforms none can be picked. -/
theorem judges_of_several {platform other : String} {rest : List String}
    (hmem : ∀ v ∈ versioned, v ∈ catalog.features) (hundeclared : declared = ∅)
    (hsome : versioned ≠ [])
    (hlist : (catalog.sharedPlatforms versioned).toList = platform :: other :: rest) :
    catalog.Judges tables versioned declared feature
      (some ((Finding.about .ambiguousCommonPlatform feature.name).withRelated
        (platform :: other :: rest))) := by
  have hnodup := NameSet.nodup_toList (catalog.sharedPlatforms versioned)
  rw [hlist] at hnodup
  rw [← hlist]
  refine @Judges.ambiguous _ _ _ _ _ _ platform other hundeclared hsome
    (fun _ => mem_sharedPlatforms_iff hmem hsome) ?_ ?_ ?_
  · simp [← Std.ExtTreeSet.mem_toList, hlist]
  · simp [← Std.ExtTreeSet.mem_toList, hlist]
  · rintro rfl
    simp at hnodup

theorem judges_of_undeclared (hmem : ∀ v ∈ versioned, v ∈ catalog.features)
    (hundeclared : declared = ∅) :
    catalog.Judges tables versioned declared feature
      (catalog.inferredPlatformFinding feature (catalog.allowedPlatforms tables feature.name)
        versioned) := by
  by_cases hsome : versioned = []
  · rw [inferredPlatformFinding, if_pos (by simpa using hsome)]
    exact .nothingDeclared hundeclared hsome
  · rw [inferredPlatformFinding_of_some hsome]
    match hlist : (catalog.sharedPlatforms versioned).toList with
    | [] =>
      refine .noCommon hundeclared hsome fun platform => ?_
      rw [← mem_sharedPlatforms_iff hmem hsome, ← Std.ExtTreeSet.mem_toList, hlist]
      exact List.not_mem_nil
    | [platform] =>
      have honly : ∀ other, catalog.IsCommon versioned other ↔ other = platform := by
        intro other
        rw [← mem_sharedPlatforms_iff hmem hsome, NameSet.toList_eq_singleton_iff.mp hlist]
      dsimp only
      split
      · rename_i hallowed
        exact .inferred hundeclared hsome honly (by simpa using hallowed)
      · rename_i hrefused
        exact .unsupported hundeclared hsome honly (by simpa using hrefused)
    | platform :: other :: rest => exact judges_of_several hmem hundeclared hsome hlist

theorem judges_versionlessFinding (hmem : ∀ v ∈ versioned, v ∈ catalog.features) :
    catalog.Judges tables versioned declared feature
      (catalog.versionlessFinding tables versioned declared feature) := by
  by_cases hundeclared : declared = ∅
  · rw [versionlessFinding_of_undeclared hundeclared]
    exact judges_of_undeclared hmem hundeclared
  · rw [versionlessFinding_of_declared hundeclared]
    split
    · rename_i hdisjoint
      refine .refused hundeclared fun platform hplatform hallowed => ?_
      exact NameSet.isDisjoint_iff.mp hdisjoint platform hallowed hplatform
    · rename_i hmeets
      rw [NameSet.isDisjoint_iff] at hmeets
      push Not at hmeets
      obtain ⟨platform, hallowed, hplatform⟩ := hmeets
      exact .configured hplatform hallowed

theorem Judges.eq (hmem : ∀ v ∈ versioned, v ∈ catalog.features) {verdict : Option Finding}
    (h : catalog.Judges tables versioned declared feature verdict) :
    verdict = catalog.versionlessFinding tables versioned declared feature := by
  cases h with
  | refused hdeclared hnone =>
    rw [versionlessFinding_of_declared hdeclared, if_pos (NameSet.isDisjoint_iff.mpr ?_)]
    exact fun platform hallowed hplatform => hnone platform hplatform hallowed
  | @configured platform hplatform hallowed =>
    have hdeclared : declared ≠ ∅ := by
      rintro rfl
      simp at hplatform
    rw [versionlessFinding_of_declared hdeclared, if_neg]
    rw [NameSet.isDisjoint_iff]
    exact fun hnone => hnone platform hallowed hplatform
  | nothingDeclared hundeclared hnone =>
    rw [versionlessFinding_of_undeclared hundeclared, inferredPlatformFinding,
      if_pos (by simpa using hnone)]
  | noCommon hundeclared hsome hcommon =>
    have hnil : (catalog.sharedPlatforms versioned).toList = [] := by
      rw [List.eq_nil_iff_forall_not_mem]
      intro platform hplatform
      rw [Std.ExtTreeSet.mem_toList, mem_sharedPlatforms_iff hmem hsome] at hplatform
      exact hcommon platform hplatform
    rw [versionlessFinding_of_undeclared hundeclared, inferredPlatformFinding_of_some hsome, hnil]
  | @ambiguous common platform other hundeclared hsome hcommon hplatform hother hdiffer =>
    have hshared : catalog.sharedPlatforms versioned = common := by
      apply Std.ExtTreeSet.ext_mem
      intro name
      rw [mem_sharedPlatforms_iff hmem hsome, hcommon]
    rw [← Std.ExtTreeSet.mem_toList] at hplatform hother
    rw [versionlessFinding_of_undeclared hundeclared, inferredPlatformFinding_of_some hsome,
      hshared]
    split
    · rename_i hnil
      simp [hnil] at hplatform
    · rename_i only hone
      rw [hone, List.mem_singleton] at hplatform hother
      exact absurd (hplatform.trans hother.symm) hdiffer
    · rfl
  | @unsupported platform hundeclared hsome hcommon hrefused =>
    rw [versionlessFinding_of_undeclared hundeclared, inferredPlatformFinding_of_some hsome,
      toList_sharedPlatforms_of_only hmem hsome hcommon]
    simp [hrefused]
  | @inferred platform hundeclared hsome hcommon hallowed =>
    rw [versionlessFinding_of_undeclared hundeclared, inferredPlatformFinding_of_some hsome,
      toList_sharedPlatforms_of_only hmem hsome hcommon]
    simp [hallowed]

theorem judges_iff (hmem : ∀ v ∈ versioned, v ∈ catalog.features) {verdict : Option Finding} :
    catalog.Judges tables versioned declared feature verdict ↔
      catalog.versionlessFinding tables versioned declared feature = verdict := by
  constructor
  · exact fun h => (h.eq hmem).symm
  · rintro rfl
    exact judges_versionlessFinding hmem

/-- A platform is asked for in vain when platforms are declared and none of them is allowed. -/
theorem exists_noConfigured_iff (hmem : ∀ v ∈ versioned, v ∈ catalog.features) :
    (∃ finding, catalog.versionlessFinding tables versioned declared feature = some finding ∧
        finding.kind = .noConfiguredPlatform) ↔
      (∃ platform, platform ∈ declared) ∧
        ∀ platform ∈ declared, platform ∉ catalog.allowedPlatforms tables feature.name := by
  have hdeclared : declared ≠ ∅ ↔ ∃ platform, platform ∈ declared := by
    rw [← NameSet.isEmpty_eq_false_iff_exists_mem, Std.ExtTreeSet.isEmpty_eq_false_iff]
  simp only [← judges_iff hmem, ← hdeclared]
  constructor
  · rintro ⟨finding, hjudges, hkind⟩
    cases hjudges with
    | refused hsome hnone => exact ⟨hsome, hnone⟩
    | _ => simp at hkind
  · rintro ⟨hsome, hnone⟩
    exact ⟨_, .refused hsome hnone, rfl⟩

/-! ## All features -/

theorem forall₂_judges_iff (hmem : ∀ v ∈ versioned, v ∈ catalog.features)
    {features : List Feature} {verdicts : List (Option Finding)} :
    List.Forall₂ (catalog.Judges tables versioned declared) features verdicts ↔
      features.map (catalog.versionlessFinding tables versioned declared) = verdicts := by
  have hjudges : catalog.Judges tables versioned declared = fun feature verdict =>
      catalog.versionlessFinding tables versioned declared feature = verdict := by
    funext feature verdict
    exact propext (judges_iff hmem)
  rw [hjudges, ← List.forall₂_map_left_iff, List.forall₂_eq_eq_eq]

theorem versionlessFindings_eq_iff (hmem : ∀ v ∈ versioned, v ∈ catalog.features)
    {features : List Feature} {findings : List Finding} :
    findings = catalog.versionlessFindings tables features versioned declared ↔
      ∃ verdicts, List.Forall₂ (catalog.Judges tables versioned declared) features verdicts ∧
        findings = verdicts.reduceOption := by
  simp only [forall₂_judges_iff hmem, exists_eq_left', List.reduceOption, List.filterMap_map]
  rfl

end Catalog

namespace FeatureScan

variable {catalog : Catalog} {tables : CompatibilityTables} {declared : List String}
  {feature : Feature}

/-- What is accepted is found in the catalog. -/
theorem mem_features_of_mem_versioned (h : feature ∈ (of catalog tables declared).versioned) :
    feature ∈ catalog.features := by
  rw [(reads_of catalog tables declared).versioned] at h
  obtain ⟨name, -, hfeature⟩ := List.mem_filterMap.mp h
  exact Catalog.mem_of_publicFeature? hfeature

/-- Every versionless feature that is found by a name is accepted, under the first of its key. -/
theorem mem_versionless_iff : feature ∈ (of catalog tables declared).versionless ↔
    ∃ name ∈ checkedNames declared, catalog.publicFeature? name = some feature ∧
      feature.isVersionless := by
  rw [(reads_of catalog tables declared).versionless, List.mem_filterMap]
  constructor
  · rintro ⟨name, hname, hfeature⟩
    obtain ⟨hchecked, hknown⟩ := List.mem_filter.mp (mem_of_mem_firstOfEach hname)
    exact ⟨name, hchecked, hfeature,
      (Catalog.knowsVersionless_of_key hfeature rfl).symm.trans hknown⟩
  · rintro ⟨name, hchecked, hfeature, hversionless⟩
    have hknown : catalog.knowsVersionless name :=
      (Catalog.knowsVersionless_of_key hfeature rfl).trans hversionless
    obtain ⟨first, hfirst, hkey⟩ := exists_mem_firstOfEach Name.normalize
      (List.mem_filter.mpr ⟨hchecked, hknown⟩)
    exact ⟨first, hfirst, (Catalog.publicFeature?_congr hkey).trans hfeature⟩

theorem mem_features_of_mem_versionless (h : feature ∈ (of catalog tables declared).versionless) :
    feature ∈ catalog.features := by
  obtain ⟨name, -, hfeature, -⟩ := mem_versionless_iff.mp h
  exact Catalog.mem_of_publicFeature? hfeature

end FeatureScan

theorem mem_declaredPlatforms_iff {declared : List String} {key : String} :
    key ∈ declaredPlatforms declared ↔
      key.isEmpty = false ∧ ∃ name ∈ declared, Name.normalize name = key := by
  simp [declaredPlatforms, and_comm]

/-- The findings about versionless features are what the rules give for each accepted one, in the
order in which these are accepted. -/
theorem versionlessReading_iff (tables : CompatibilityTables) (catalog : Catalog)
    (declarations : Declarations) :
    (∀ findings, findings =
        (validate tables catalog declarations).filter (·.kind.pass = .versionless) ↔
      ∃ verdicts, List.Forall₂
        (catalog.Judges tables (FeatureScan.of catalog tables declarations.features).versioned
          (declaredPlatforms declarations.platforms))
        (FeatureScan.of catalog tables declarations.features).versionless verdicts ∧
          findings = verdicts.reduceOption) ∧
    ∀ key, key ∈ declaredPlatforms declarations.platforms ↔
      key.isEmpty = false ∧ ∃ name ∈ declarations.platforms, Name.normalize name = key := by
  refine ⟨fun findings => ?_, fun key => mem_declaredPlatforms_iff⟩
  cases hfilled : catalog.isEmpty with
  | false =>
    rw [filter_pass_validate hfilled .versionless]
    exact Catalog.versionlessFindings_eq_iff fun _ => FeatureScan.mem_features_of_mem_versioned
  | true =>
    have hnone : (FeatureScan.of catalog tables declarations.features).versionless = [] := by
      rw [List.eq_nil_iff_forall_not_mem]
      intro feature hfeature
      have hmem := FeatureScan.mem_features_of_mem_versionless hfeature
      rw [List.isEmpty_iff.mp hfilled] at hmem
      exact List.not_mem_nil hmem
    rw [hnone, validate, hfilled]
    simp [List.forall₂_nil_left_iff, List.reduceOption]

end FeatureCheck
