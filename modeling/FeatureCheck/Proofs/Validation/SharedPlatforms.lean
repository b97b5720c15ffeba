import FeatureCheck.Proofs.Validation.Pass
import FeatureCheck.Platform
import FeatureCheck.Validation.Versionless

/-!
# Platforms that features share

What the passes over versionless features and over families ask of the accepted features, apart
from the findings that they report when it is not so.
-/

namespace FeatureCheck.Catalog

set_option autoImplicit false

variable {catalog : Catalog} {tables : CompatibilityTables} {features versioned : List Feature}
  {declared : NameSet} {feature : Feature} {family : PlatformFamily}

/-- A versionless feature allows a declared platform or, if none is declared, the one platform that
the versioned features have in common. -/
def Resolves (catalog : Catalog) (tables : CompatibilityTables) (versioned : List Feature)
    (declared : NameSet) (feature : Feature) : Prop :=
  if declared = ∅ then
    versioned ≠ [] ∧ ∃ platform ∈ catalog.allowedPlatforms tables feature.name,
      ∀ other, (∀ v ∈ versioned, other ∈ catalog.platformsOf v.name) ↔ other = platform
  else ∃ platform ∈ declared, platform ∈ catalog.allowedPlatforms tables feature.name

/-- The features with a platform of the family have one of them in common. -/
def SharesFamily (catalog : Catalog) (features : List Feature) (family : PlatformFamily) : Prop :=
  ∀ feature ∈ features, (∃ platform ∈ catalog.platformsOf feature.name, family.contains platform) →
    ∃ platform, family.contains platform ∧
      ∀ member ∈ features, (∃ other ∈ catalog.platformsOf member.name, family.contains other) →
        platform ∈ catalog.platformsOf member.name

/-! ## Versionless features -/

theorem inferredPlatformFinding_eq_none_iff {allowed : NameSet} :
    catalog.inferredPlatformFinding feature allowed versioned = none ↔
      versioned ≠ [] ∧ ∃ platform ∈ allowed,
        ∀ other, (∀ v ∈ versioned, other ∈ catalog.platformsOf v.name) ↔ other = platform := by
  unfold inferredPlatformFinding
  by_cases hnil : versioned = []
  · simp [hnil]
  · have hcommon : ∀ other,
        other ∈ NameSet.commonTo (versioned.map fun v => catalog.platformsOf v.name) ↔
          ∀ v ∈ versioned, other ∈ catalog.platformsOf v.name := by
      intro other
      simp [NameSet.mem_commonTo, hnil]
    have hsingle : ∀ platform,
        (NameSet.commonTo (versioned.map fun v => catalog.platformsOf v.name)).toList =
          [platform] ↔
        ∀ other, (∀ v ∈ versioned, other ∈ catalog.platformsOf v.name) ↔ other = platform := by
      intro platform
      rw [NameSet.toList_eq_singleton_iff]
      exact forall_congr' fun other => by rw [hcommon]
    simp only [List.isEmpty_iff, hnil, if_false, ne_eq, not_false_eq_true, true_and, ← hsingle]
    split
    · rename_i hempty
      simp [hempty]
    · rename_i platform hone
      rw [hone]
      simp only [List.cons.injEq, and_true]
      split
      · rename_i hallowed
        simpa using hallowed
      · rename_i hallowed
        simpa using hallowed
    · rename_i common hnot_nil hnot_one
      simp only [reduceCtorEq, false_iff]
      intro hexists
      obtain ⟨platform, -, hone⟩ := hexists
      exact hnot_one platform hone

theorem versionlessFinding_eq_none_iff :
    catalog.versionlessFinding tables versioned declared feature = none ↔
      catalog.Resolves tables versioned declared feature := by
  unfold versionlessFinding Resolves
  by_cases hnone : declared = ∅
  · simp only [hnone, Std.ExtTreeSet.isEmpty_empty, if_true]
    exact inferredPlatformFinding_eq_none_iff
  · have hsome : declared.isEmpty = false := Std.ExtTreeSet.isEmpty_eq_false_iff.mpr hnone
    simp only [hsome, hnone, Bool.false_eq_true, if_false]
    split
    · rename_i hdisjoint
      simp only [reduceCtorEq, false_iff]
      intro hexists
      obtain ⟨platform, hplatform, hallowed⟩ := hexists
      exact NameSet.isDisjoint_iff.mp hdisjoint platform hallowed hplatform
    · rename_i hmeet
      simp only [true_iff]
      rw [NameSet.isDisjoint_iff] at hmeet
      simpa [and_comm] using hmeet

theorem versionlessFindings_eq_nil_iff :
    catalog.versionlessFindings tables features versioned declared = [] ↔
      ∀ feature ∈ features, catalog.Resolves tables versioned declared feature := by
  simp only [versionlessFindings, List.filterMap_eq_nil_iff, versionlessFinding_eq_none_iff]

theorem pass_of_inferredPlatformFinding {allowed : NameSet} {finding : Finding}
    (h : catalog.inferredPlatformFinding feature allowed versioned = some finding) :
    finding.kind.pass = .versionless := by
  unfold inferredPlatformFinding at h
  split at h
  · obtain rfl := Option.some.inj h
    rfl
  · split at h
    · obtain rfl := Option.some.inj h
      rfl
    · split at h
      · simp at h
      · obtain rfl := Option.some.inj h
        rfl
    · obtain rfl := Option.some.inj h
      rfl

theorem pass_of_mem_versionlessFindings {finding : Finding}
    (h : finding ∈ catalog.versionlessFindings tables features versioned declared) :
    finding.kind.pass = .versionless := by
  obtain ⟨feature, -, hfinding⟩ := List.mem_filterMap.mp h
  dsimp only [versionlessFinding] at hfinding
  split at hfinding
  · exact pass_of_inferredPlatformFinding hfinding
  · split at hfinding
    · obtain rfl := Option.some.inj hfinding
      rfl
    · simp at hfinding

/-! ## Families -/

theorem mem_familyPlatforms_iff {platform : String} :
    platform ∈ catalog.familyPlatforms family feature ↔
      platform ∈ catalog.platformsOf feature.name ∧ family.contains platform := by
  rw [familyPlatforms, NameSet.mem_filter_iff]

theorem mem_familyMembers_iff : feature ∈ catalog.familyMembers features family ↔
    feature ∈ features ∧
      ∃ platform ∈ catalog.platformsOf feature.name, family.contains platform := by
  rw [familyMembers, List.mem_filter, Bool.not_eq_true',
    NameSet.isEmpty_eq_false_iff_exists_mem]
  simp only [mem_familyPlatforms_iff]

theorem sharesFamily_iff : catalog.SharesFamily features family ↔
    (catalog.familyMembers features family ≠ [] →
      ∃ platform, ∀ member ∈ catalog.familyMembers features family,
        platform ∈ catalog.familyPlatforms family member) := by
  simp only [SharesFamily, mem_familyMembers_iff, mem_familyPlatforms_iff]
  constructor
  · intro h hmembers
    obtain ⟨feature, hmember⟩ := List.exists_mem_of_ne_nil _ hmembers
    obtain ⟨hfeature, hfamily⟩ := mem_familyMembers_iff.mp hmember
    obtain ⟨platform, hcontains, hshared⟩ := h feature hfeature hfamily
    exact ⟨platform, fun member hmem => ⟨hshared member hmem.1 hmem.2, hcontains⟩⟩
  · intro h feature hfeature hfamily
    have hmember : feature ∈ catalog.familyMembers features family :=
      mem_familyMembers_iff.mpr ⟨hfeature, hfamily⟩
    obtain ⟨platform, hshared⟩ := h (List.ne_nil_of_mem hmember)
    refine ⟨platform, (hshared feature ⟨hfeature, hfamily⟩).2, ?_⟩
    intro member hmem hother
    exact (hshared member ⟨hmem, hother⟩).1

theorem SharesFamily.perm {others : List Feature} (h : catalog.SharesFamily features family)
    (hperm : features.Perm others) : catalog.SharesFamily others family := by
  intro feature hfeature hmember
  obtain ⟨platform, hfamily, hshared⟩ := h feature (hperm.mem_iff.mpr hfeature) hmember
  exact ⟨platform, hfamily, fun other hother => hshared other (hperm.mem_iff.mpr hother)⟩

/-- One feature alone always shares its platforms with itself. -/
theorem familyFindings_eq_nil_iff :
    catalog.familyFindings features family = [] ↔ catalog.SharesFamily features family := by
  rw [sharesFamily_iff]
  dsimp only [familyFindings]
  have hnonempty : ∀ member ∈ catalog.familyMembers features family,
      ∃ platform, platform ∈ catalog.familyPlatforms family member := by
    intro member hmember
    simpa [mem_familyPlatforms_iff] using (mem_familyMembers_iff.mp hmember).2
  generalize catalog.familyMembers features family = members at hnonempty ⊢
  match members with
  | [] => simp
  | [member] => simpa using hnonempty member List.mem_cons_self
  | first :: second :: members =>
    have hcommon : (NameSet.commonTo ((first :: second :: members).map
          (catalog.familyPlatforms family))).isEmpty = false ↔
        ∃ platform, ∀ member ∈ first :: second :: members,
          platform ∈ catalog.familyPlatforms family member := by
      rw [NameSet.isEmpty_eq_false_iff_exists_mem]
      simp [NameSet.mem_commonTo]
    rw [← hcommon]
    generalize NameSet.commonTo ((first :: second :: members).map
      (catalog.familyPlatforms family)) = common
    cases common.isEmpty with
    | false => simp
    | true => simp

theorem incompatibilities_eq_nil_iff :
    catalog.incompatibilities features = [] ↔ ∀ family, catalog.SharesFamily features family := by
  simp only [incompatibilities, List.flatMap_eq_nil_iff, familyFindings_eq_nil_iff]
  constructor
  · intro h family
    exact h family (by cases family <;> simp [PlatformFamily.all])
  · exact fun h family _ => h family

theorem pass_of_mem_incompatibilities {finding : Finding}
    (h : finding ∈ catalog.incompatibilities features) : finding.kind.pass = .families := by
  obtain ⟨family, -, hfinding⟩ := List.mem_flatMap.mp h
  unfold familyFindings at hfinding
  dsimp only at hfinding
  split at hfinding
  · obtain ⟨name, -, rfl⟩ := List.mem_map.mp hfinding
    rfl
  · simp at hfinding

end FeatureCheck.Catalog
