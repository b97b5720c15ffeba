import FeatureCheck.Proofs.Text.Utf8
import FeatureCheck.Proofs.Validation.Counterparts

/-!
# The form of a report

Whatever is declared, the findings of a report are in the order of the passes and each names what
its kind promises, in the order of bytes: `orderly_validate`. What a pass can report at all is said
once for each (`mem_nameFindings`, `mem_platformFindings`, `mem_familyFindings`,
`of_inferredPlatformFinding`).
-/

namespace FeatureCheck

set_option autoImplicit false

variable {catalog : Catalog} {tables : CompatibilityTables} {declarations : Declarations}
  {finding : Finding} {names declared : List String} {name first : String}

/-! ## Related names -/

def Finding.IsSorted (finding : Finding) : Prop :=
  finding.related.Pairwise (· < ·)

/-- The finding names two declarations, and no other name. -/
def Finding.NamesTwo (declared : List String) (finding : Finding) : Prop :=
  ∃ first second, first ≠ second ∧ [first, second].Sublist (declared.map Text.trim) ∧
    finding.related.Perm [first, second]

namespace Finding

theorem isSorted_about (kind : FindingKind) (subject : String) : (about kind subject).IsSorted :=
  .nil

theorem isSorted_withRelated (finding : Finding) (names : List String) :
    (finding.withRelated names).IsSorted :=
  NameSet.pairwise_toList (NameSet.ofList (finding.related ++ names))

theorem mem_related_withRelated {kind : FindingKind} {subject : String} :
    name ∈ ((about kind subject).withRelated names).related ↔ name ∈ names := by
  rw [withRelated, Std.ExtTreeSet.mem_toList, NameSet.mem_ofList]
  simp [about]

theorem related_perm_of_ne {kind : FindingKind} {subject : String} (h : first ≠ name) :
    ((about kind subject).withRelated [first, name]).related.Perm [first, name] := by
  have hnodup : [first, name].Nodup := by simpa using h
  change (NameSet.ofList [first, name]).toList.Perm [first, name]
  rw [NameSet.toList_ofList_of_nodup hnodup]
  exact List.mergeSort_perm _ _

end Finding

/-! ## What each pass can report -/

theorem mem_nameFindings {earlier : List String}
    (h : finding ∈ nameFindings catalog tables earlier name) :
    (catalog.publicFeature? name = none ∧
      finding = (Finding.about .featureNotFound name).withRelated
        (catalog.replacementCandidates name).toList) ∨
    finding = .about .featureAlreadyIncluded name ∨
    (∃ first ∈ earlier, Name.normalize first ≠ Name.normalize name ∧
      finding = (Finding.about .featureVersionConflict (Name.base name)).withRelated
        [first, name]) ∨
    ∃ other ∈ earlier, finding = (Finding.about .featureRenamed name).withRelated [other] := by
  unfold nameFindings at h
  split at h
  · rename_i hunknown
    exact .inl ⟨hunknown, List.mem_singleton.mp h⟩
  · split at h
    · exact .inr (.inl (List.mem_singleton.mp h))
    · rename_i hrepeat
      have hnew : ∀ other ∈ earlier, Name.normalize other ≠ Name.normalize name := by
        simpa using hrepeat
      dsimp only at h
      split at h
      · rename_i first hfirst
        have hmem : first ∈ earlier := by
          split at hfirst
          · simp at hfirst
          · exact (List.mem_filter.mp (List.mem_of_find?_eq_some hfirst)).1
        exact .inr (.inr (.inl ⟨first, hmem, hnew first hmem, List.mem_singleton.mp h⟩))
      · obtain ⟨other, hother, rfl⟩ := List.mem_map.mp h
        rw [Option.mem_toList, Option.bind_eq_some_iff] at hother
        obtain ⟨base, -, hfound⟩ := hother
        have hmem := (List.mem_filter.mp (List.mem_of_find?_eq_some hfound)).1
        exact .inr (.inr (.inr ⟨other, hmem, rfl⟩))

theorem mem_platformFindings {earlier : List String}
    (h : finding ∈ platformFindings catalog tables earlier name) :
    finding = (Finding.about .platformNotFound name).withRelated
        (catalog.platforms.toList.filter fun platform => Name.base platform = baseKey name) ∨
    finding = .about .platformAlreadyIncluded name ∨
    ∃ first ∈ earlier, Name.normalize first ≠ Name.normalize name ∧
      (finding = (Finding.about .platformVersionConflict (Name.base name)).withRelated
          [first, name] ∨
        finding = (Finding.about .platformConflict name).withRelated [first, name]) := by
  unfold platformFindings at h
  split at h
  · split at h
    · exact .inr (.inl (List.mem_singleton.mp h))
    · rename_i hrepeat
      have hnew : ∀ other ∈ earlier, Name.normalize other ≠ Name.normalize name := by
        simpa using hrepeat
      split at h
      · rename_i first hfirst
        have hmem := (List.mem_filter.mp (List.mem_of_find?_eq_some hfirst)).1
        exact .inr (.inr ⟨first, hmem, hnew first hmem, .inl (List.mem_singleton.mp h)⟩)
      · obtain ⟨other, hother, rfl⟩ := List.mem_map.mp h
        rw [Option.mem_toList, Option.bind_eq_some_iff] at hother
        obtain ⟨base, -, hfound⟩ := hother
        have hmem := (List.mem_filter.mp (List.mem_of_find?_eq_some hfound)).1
        exact .inr (.inr ⟨other, hmem, hnew other hmem, .inr rfl⟩)
  · exact .inl (List.mem_singleton.mp h)

namespace Catalog

variable {features versioned : List Feature} {feature : Feature} {family : PlatformFamily}
  {allowed : NameSet}

/-- One feature alone, declared under several names, shares its platforms with itself: among members
that share none there are two names. -/
theorem exists_other_member (h : (NameSet.commonTo ((catalog.familyMembers features family).map
      (catalog.familyPlatforms family))).isEmpty) (hfeature :
        feature ∈ catalog.familyMembers features family) :
    ∃ other ∈ catalog.familyMembers features family, other.name ≠ feature.name := by
  by_contra hnone
  have hsame : ∀ other ∈ catalog.familyMembers features family, other.name = feature.name := by
    simpa using hnone
  obtain ⟨platform, hplatform⟩ := (mem_familyMembers_iff.mp hfeature).2
  have hcommon : platform ∈ NameSet.commonTo ((catalog.familyMembers features family).map
      (catalog.familyPlatforms family)) := by
    rw [NameSet.mem_commonTo]
    refine ⟨List.ne_nil_of_mem (List.mem_map_of_mem hfeature), ?_⟩
    intro platforms hplatforms
    obtain ⟨other, hother, rfl⟩ := List.mem_map.mp hplatforms
    rw [mem_familyPlatforms_iff, hsame other hother]
    exact hplatform
  rw [Std.ExtTreeSet.isEmpty_iff] at h
  rw [h] at hcommon
  exact Std.ExtTreeSet.not_mem_empty hcommon

theorem mem_familyFindings (h : finding ∈ catalog.familyFindings features family) :
    ∃ (name : String) (others : List String), others ≠ [] ∧ name ∉ others ∧
      finding = (Finding.about .incompatibleFeatures name).withRelated others := by
  unfold familyFindings at h
  dsimp only at h
  split at h
  · rename_i hcond
    obtain ⟨name, hname, rfl⟩ := List.mem_map.mp h
    obtain ⟨feature, hfeature, rfl⟩ := List.mem_map.mp hname
    refine ⟨feature.name, _, ?_, ?_, rfl⟩
    · obtain ⟨other, hother, hne⟩ :=
        exists_other_member ((Bool.and_eq_true _ _).mp hcond).2 hfeature
      refine List.ne_nil_of_mem (List.mem_filter.mpr ⟨List.mem_map_of_mem hother, ?_⟩)
      exact decide_eq_true hne
    · intro hmem
      exact of_decide_eq_true (List.mem_filter.mp hmem).2 rfl
  · simp at h

/-- The platforms that are inferred for a versionless feature are platforms of the catalog. -/
theorem of_inferredPlatformFinding
    (h : catalog.inferredPlatformFinding feature allowed versioned = some finding) :
    finding = .about .noPlatformOrFeatureToResolve feature.name ∨
    finding = (Finding.about .noCommonPlatform feature.name).withRelated
      (versioned.map (·.name)) ∨
    ∃ platforms : List String, (∀ platform ∈ platforms, platform ∈ catalog.platforms) ∧
      (finding = (Finding.about .noSupportedPlatform feature.name).withRelated platforms ∨
        finding = (Finding.about .ambiguousCommonPlatform feature.name).withRelated platforms) := by
  unfold inferredPlatformFinding at h
  split at h
  · exact .inl (Option.some.inj h).symm
  · have hinferred : ∀ platform ∈
        (NameSet.commonTo (versioned.map fun v => catalog.platformsOf v.name)).toList,
          platform ∈ catalog.platforms := by
      intro platform hplatform
      rw [Std.ExtTreeSet.mem_toList, NameSet.mem_commonTo] at hplatform
      obtain ⟨hsome, hall⟩ := hplatform
      obtain ⟨platforms, hplatforms⟩ := List.exists_mem_of_ne_nil _ hsome
      have hmem := hall platforms hplatforms
      obtain ⟨v, -, rfl⟩ := List.mem_map.mp hplatforms
      exact mem_platforms_of_mem_platformsOf hmem
    generalize (NameSet.commonTo (versioned.map fun v => catalog.platformsOf v.name)).toList =
      common at h hinferred
    match common with
    | [] => exact .inr (.inl (Option.some.inj h).symm)
    | [platform] =>
      dsimp only at h
      split at h
      · simp at h
      · exact .inr (.inr ⟨[platform], hinferred, .inl (Option.some.inj h).symm⟩)
    | platform :: other :: rest =>
      exact .inr (.inr ⟨_, hinferred, .inr (Option.some.inj h).symm⟩)

end Catalog

/-! ## Reports -/

/-- The place of a pass among the passes. -/
def Pass.rank (pass : Pass) : Nat :=
  Pass.all.idxOf pass

/-- The findings are in the order of their passes, and each names what its kind promises. -/
structure Orderly (catalog : Catalog) (declarations : Declarations) (findings : List Finding) :
    Prop where
  in_order : findings.Pairwise fun earlier later => earlier.kind.pass.rank ≤ later.kind.pass.rank
  /-- Features are only compared by family if they are accepted one by one. -/
  families_apart : (∃ finding ∈ findings, finding.kind = .incompatibleFeatures) →
    ∀ finding ∈ findings, finding.kind ≠ .featureAlreadyIncluded ∧
      finding.kind ≠ .featureVersionConflict ∧ finding.kind ≠ .featureRenamed
  related_sorted : ∀ finding ∈ findings,
    finding.related.Pairwise fun earlier later => Text.bytesOf earlier < Text.bytesOf later
  features_in_conflict : ∀ finding ∈ findings, finding.kind = .featureVersionConflict →
    finding.NamesTwo declarations.features
  platforms_in_conflict : ∀ finding ∈ findings,
    finding.kind = .platformVersionConflict ∨ finding.kind = .platformConflict →
      finding.NamesTwo declarations.platforms
  incompatible_others : ∀ finding ∈ findings, finding.kind = .incompatibleFeatures →
    finding.related ≠ [] ∧ finding.subject ∉ finding.related
  platforms_backed : ∀ finding ∈ findings,
    finding.kind = .ambiguousCommonPlatform ∨ finding.kind = .noSupportedPlatform →
      ∀ platform ∈ finding.related, platform ∈ catalog.platforms

/-- Of the names that a pass looks at, an earlier and a later one are two declarations. -/
theorem ExistsBehind.exists_declared {looks : String → Bool} {p : List String → String → Prop}
    (h : ExistsBehind p ((declared.map Text.trim).filter looks)) :
    ∃ earlier name, (∀ other ∈ earlier, [other, name].Sublist (declared.map Text.trim)) ∧
      p earlier name := by
  obtain ⟨earlier, name, later, hnames, hp⟩ := h
  refine ⟨earlier, name, fun other hother => ?_, hp⟩
  have hpair : [other, name].Sublist (earlier ++ name :: later) :=
    (List.singleton_sublist.mpr hother).append (List.singleton_sublist.mpr List.mem_cons_self)
  rw [← hnames] at hpair
  exact hpair.trans List.filter_sublist

theorem namesTwo_of_ne {kind : FindingKind} {subject : String}
    (hdeclared : [first, name].Sublist (declared.map Text.trim))
    (hne : Name.normalize first ≠ Name.normalize name) :
    ((Finding.about kind subject).withRelated [first, name]).NamesTwo declared := by
  have hdistinct : first ≠ name := fun heq => hne (congrArg Name.normalize heq)
  exact ⟨first, name, hdistinct, hdeclared, Finding.related_perm_of_ne hdistinct⟩

theorem namesTwo_of_featureVersionConflict
    (h : finding ∈ (FeatureScan.of catalog tables declared).findings)
    (hkind : finding.kind = .featureVersionConflict) : finding.NamesTwo declared := by
  obtain ⟨earlier, name, hdeclared, hfinding⟩ := (FeatureScan.mem_findings_iff.mp h).exists_declared
  rcases mem_nameFindings hfinding with
    ⟨-, rfl⟩ | rfl | ⟨first, hfirst, hne, rfl⟩ | ⟨other, -, rfl⟩
  · simp at hkind
  · simp at hkind
  · exact namesTwo_of_ne (hdeclared first hfirst) hne
  · simp at hkind

theorem namesTwo_of_platform_conflict
    (h : finding ∈ (PlatformScan.of catalog tables declared).findings)
    (hkind : finding.kind = .platformVersionConflict ∨ finding.kind = .platformConflict) :
    finding.NamesTwo declared := by
  obtain ⟨earlier, name, hdeclared, hfinding⟩ :=
    (PlatformScan.mem_findings_iff.mp h).exists_declared
  rcases mem_platformFindings hfinding with rfl | rfl | ⟨first, hfirst, hne, rfl | rfl⟩
  · simp at hkind
  · simp at hkind
  · exact namesTwo_of_ne (hdeclared first hfirst) hne
  · exact namesTwo_of_ne (hdeclared first hfirst) hne

variable {pass : Pass}

theorem isSorted_of_mem_versionlessFindings {versionless versioned : List Feature}
    {platforms : NameSet}
    (h : finding ∈ catalog.versionlessFindings tables versionless versioned platforms) :
    finding.IsSorted := by
  obtain ⟨feature, -, hfinding⟩ := List.mem_filterMap.mp h
  dsimp only [Catalog.versionlessFinding] at hfinding
  split at hfinding
  · rcases Catalog.of_inferredPlatformFinding hfinding with rfl | rfl | ⟨_, -, rfl | rfl⟩
    · exact Finding.isSorted_about _ _
    all_goals exact Finding.isSorted_withRelated _ _
  · split at hfinding
    · obtain rfl := Option.some.inj hfinding
      exact Finding.isSorted_withRelated _ _
    · simp at hfinding

theorem isSorted_of_mem_missingFeatures {features elements : List String}
    (h : finding ∈ catalog.missingFeatures features elements) : finding.IsSorted := by
  obtain ⟨element, names, rfl⟩ := exists_of_mem_missingFeatures h
  exact Finding.isSorted_withRelated _ _

theorem isSorted_of_mem_passFindings (h : finding ∈ passFindings tables catalog declarations pass) :
    finding.IsSorted := by
  cases pass with
  | features =>
    obtain ⟨earlier, name, -, -, hfinding⟩ := FeatureScan.mem_findings_iff.mp h
    rcases mem_nameFindings hfinding with ⟨-, rfl⟩ | rfl | ⟨_, -, -, rfl⟩ | ⟨_, -, rfl⟩
    · exact Finding.isSorted_withRelated _ _
    · exact Finding.isSorted_about _ _
    · exact Finding.isSorted_withRelated _ _
    · exact Finding.isSorted_withRelated _ _
  | versionless => exact isSorted_of_mem_versionlessFindings h
  | platforms =>
    obtain ⟨earlier, name, -, -, hfinding⟩ := PlatformScan.mem_findings_iff.mp h
    rcases mem_platformFindings hfinding with rfl | rfl | ⟨_, -, -, rfl | rfl⟩
    · exact Finding.isSorted_withRelated _ _
    · exact Finding.isSorted_about _ _
    · exact Finding.isSorted_withRelated _ _
    · exact Finding.isSorted_withRelated _ _
  | families =>
    dsimp only [passFindings] at h
    split at h
    · simp at h
    · obtain ⟨family, -, hfamily⟩ := List.mem_flatMap.mp h
      obtain ⟨name, others, -, -, rfl⟩ := Catalog.mem_familyFindings hfamily
      exact Finding.isSorted_withRelated _ _
  | elements => exact isSorted_of_mem_missingFeatures h

/-- A repetition, a version conflict or a renaming in the feature pass keeps the family pass from
being made. -/
theorem kind_of_families_findings
    (hfamily : ∃ finding, finding ∈ passFindings tables catalog declarations .families)
    (h : finding ∈ passFindings tables catalog declarations .features) :
    finding.kind = .featureNotFound := by
  obtain ⟨other, hother⟩ := hfamily
  dsimp only [passFindings] at hother h
  split at hother
  · simp at hother
  · rename_i hflagged
    rw [(FeatureScan.reads_of catalog tables declarations.features).flagged,
      Bool.not_eq_true, List.any_eq_false] at hflagged
    simpa using hflagged finding h

theorem others_of_families_findings
    (h : finding ∈ passFindings tables catalog declarations .families) :
    finding.related ≠ [] ∧ finding.subject ∉ finding.related := by
  dsimp only [passFindings] at h
  split at h
  · simp at h
  · obtain ⟨family, -, hfamily⟩ := List.mem_flatMap.mp h
    obtain ⟨name, others, hsome, hname, rfl⟩ := Catalog.mem_familyFindings hfamily
    obtain ⟨other, hother⟩ := List.exists_mem_of_ne_nil _ hsome
    refine ⟨List.ne_nil_of_mem (Finding.mem_related_withRelated.mpr hother), ?_⟩
    exact fun hmem => hname (Finding.mem_related_withRelated.mp hmem)

theorem platforms_of_versionlessFindings {versionless versioned : List Feature}
    {platforms : NameSet}
    (h : finding ∈ catalog.versionlessFindings tables versionless versioned platforms)
    (hkind : finding.kind = .ambiguousCommonPlatform ∨ finding.kind = .noSupportedPlatform) :
    ∀ platform ∈ finding.related, platform ∈ catalog.platforms := by
  obtain ⟨feature, -, hfinding⟩ := List.mem_filterMap.mp h
  dsimp only [Catalog.versionlessFinding] at hfinding
  split at hfinding
  · rcases Catalog.of_inferredPlatformFinding hfinding with rfl | rfl | ⟨inferred, hbacked, heq⟩
    · simp at hkind
    · simp at hkind
    · intro platform hplatform
      rcases heq with rfl | rfl
      · exact hbacked platform (Finding.mem_related_withRelated.mp hplatform)
      · exact hbacked platform (Finding.mem_related_withRelated.mp hplatform)
  · split at hfinding
    · obtain rfl := Option.some.inj hfinding
      simp at hkind
    · simp at hfinding

theorem orderly_nil : Orderly catalog declarations [] := by
  constructor <;> simp

theorem orderly_validate (tables : CompatibilityTables) (catalog : Catalog)
    (declarations : Declarations) :
    Orderly catalog declarations (validate tables catalog declarations) := by
  cases hempty : catalog.isEmpty with
  | true =>
    rw [validate, if_pos hempty]
    exact orderly_nil
  | false =>
    have hpass : ∀ finding ∈ validate tables catalog declarations, ∀ pass,
        finding.kind.pass = pass → finding ∈ passFindings tables catalog declarations pass := by
      intro finding hfinding pass heq
      rw [← heq]
      exact (mem_validate_iff hempty).mp hfinding
    constructor
    · rw [validate_eq_flatMap hempty, List.pairwise_flatMap]
      refine ⟨fun pass _ => List.pairwise_of_forall_mem_list ?_, ?_⟩
      · intro earlier hearlier later hlater
        have hsame : earlier.kind.pass = later.kind.pass :=
          (pass_of_mem_passFindings hearlier).trans (pass_of_mem_passFindings hlater).symm
        exact Nat.le_of_eq (congrArg Pass.rank hsame)
      · have hrank : Pass.all.Pairwise fun earlier later => earlier.rank ≤ later.rank := by decide
        refine hrank.imp ?_
        intro earlier later hle first hfirst second hsecond
        rw [pass_of_mem_passFindings hfirst, pass_of_mem_passFindings hsecond]
        exact hle
    · rintro ⟨family, hfamily, hkind⟩ finding hfinding
      have hfamilies := hpass family hfamily .families (by rw [hkind]; rfl)
      have hfound : finding.kind.pass = .features → finding.kind = .featureNotFound :=
        fun heq => kind_of_families_findings ⟨family, hfamilies⟩ (hpass finding hfinding _ heq)
      refine ⟨?_, ?_, ?_⟩
      all_goals
        intro heq
        rw [heq] at hfound
        exact absurd (hfound rfl) (by simp)
    · intro finding hfinding
      have hsorted := isSorted_of_mem_passFindings (hpass finding hfinding _ rfl)
      exact hsorted.imp Text.bytesOf_lt_bytesOf
    · intro finding hfinding hkind
      have hmem := hpass finding hfinding .features (by rw [hkind]; rfl)
      exact namesTwo_of_featureVersionConflict hmem hkind
    · intro finding hfinding hkind
      have hmem := hpass finding hfinding .platforms (by rcases hkind with h | h <;> rw [h] <;> rfl)
      exact namesTwo_of_platform_conflict hmem hkind
    · intro finding hfinding hkind
      exact others_of_families_findings (hpass finding hfinding .families (by rw [hkind]; rfl))
    · intro finding hfinding hkind
      have hmem := hpass finding hfinding .versionless
        (by rcases hkind with h | h <;> rw [h] <;> rfl)
      exact platforms_of_versionlessFindings hmem hkind

end FeatureCheck
