import FeatureCheck.Proofs.Catalog.Lookup
import FeatureCheck.Proofs.Names
import FeatureCheck.Proofs.Validation.Severity

/-!
# Both sides of a renaming or a conflict

A pass looks backwards. When it accepts a name it looks the base up, and asks whether an earlier
name has the base that is given for it. Two names on the sides of an entry are so reported in either
order if each side is looked up as the other (`counterparts_reported_iff`), which is the case in a
table where no name stands twice. Where one does, only the first of its entries counts, and the same
two names are reported in one order but not in the other (`counterparts_unreported`).
-/

namespace FeatureCheck

set_option autoImplicit false

variable {catalog : Catalog} {tables : CompatibilityTables} {table : NameMap String}
  {names : List String} {name last left right : String}

/-! ## Names behind other names -/

/-- Some name of the list, together with those in front of it, is as described. -/
def ExistsBehind (p : List String → String → Prop) (names : List String) : Prop :=
  ∃ earlier name later, names = earlier ++ name :: later ∧ p earlier name

section Behind

variable {p q : List String → String → Prop}

theorem existsBehind_nil : ¬ ExistsBehind p [] := by
  rintro ⟨earlier, name, later, heq, -⟩
  simp at heq

theorem existsBehind_concat_iff :
    ExistsBehind p (names ++ [last]) ↔ ExistsBehind p names ∨ p names last := by
  constructor
  · rintro ⟨earlier, name, later, heq, hp⟩
    rcases List.eq_nil_or_concat later with rfl | ⟨front, back, rfl⟩
    · obtain ⟨hnames, hlast⟩ := List.append_inj' heq rfl
      obtain rfl := (List.cons.inj hlast).1
      rw [hnames]
      exact .inr hp
    · rw [List.concat_eq_append, ← List.cons_append, ← List.append_assoc] at heq
      obtain ⟨hnames, -⟩ := List.append_inj' heq rfl
      exact .inl ⟨earlier, name, front, hnames, hp⟩
  · rintro (⟨earlier, name, later, heq, hp⟩ | hp)
    · exact ⟨earlier, name, later ++ [last], by simp [heq], hp⟩
    · exact ⟨names, last, [], rfl, hp⟩

theorem ExistsBehind.imp (h : ExistsBehind p names)
    (himp : ∀ earlier name, p earlier name → q earlier name) : ExistsBehind q names := by
  obtain ⟨earlier, name, later, heq, hp⟩ := h
  exact ⟨earlier, name, later, heq, himp earlier name hp⟩

end Behind

/-- Of two bases one comes up later, and then the other is there already. -/
theorem existsBehind_of_two {known : String → Bool} (hne : left ≠ right)
    (hleft : ∃ name ∈ names, known name ∧ baseKey name = left)
    (hright : ∃ name ∈ names, known name ∧ baseKey name = right) :
    ExistsBehind (fun earlier name => known name ∧
      (∀ other ∈ earlier, known other → baseKey other ≠ baseKey name) ∧
      ∃ other ∈ earlier, known other ∧
        (baseKey name = right ∧ baseKey other = left ∨
          baseKey name = left ∧ baseKey other = right)) names := by
  induction names using List.reverseRecOn with
  | nil => simp at hleft
  | append_singleton names last ih =>
    -- The last name only matters if it is the first of its side; then the other side is in front.
    rw [existsBehind_concat_iff]
    have hsplit : ∀ base, (∃ name ∈ names ++ [last], known name ∧ baseKey name = base) →
        (∃ name ∈ names, known name ∧ baseKey name = base) ∨ known last ∧ baseKey last = base := by
      rintro base ⟨name, hname, hknown⟩
      rcases List.mem_append.mp hname with hmem | hmem
      · exact .inl ⟨name, hmem, hknown⟩
      · rw [List.mem_singleton.mp hmem] at hknown
        exact .inr hknown
    by_cases hleft_old : ∃ name ∈ names, known name ∧ baseKey name = left
    · by_cases hright_old : ∃ name ∈ names, known name ∧ baseKey name = right
      · exact .inl (ih hleft_old hright_old)
      · obtain ⟨hknown, hlast⟩ := (hsplit right hright).resolve_left hright_old
        obtain ⟨other, hother, hother_known, hbase⟩ := hleft_old
        refine .inr ⟨hknown, ?_, other, hother, hother_known, .inl ⟨hlast, hbase⟩⟩
        intro name hname hname_known heq
        exact hright_old ⟨name, hname, hname_known, heq.trans hlast⟩
    · obtain ⟨hknown, hlast⟩ := (hsplit left hleft).resolve_left hleft_old
      obtain ⟨other, hother, hother_known, hbase⟩ := (hsplit right hright).resolve_right
        fun hboth => hne (hlast.symm.trans hboth.2)
      refine .inr ⟨hknown, ?_, other, hother, hother_known, .inr ⟨hlast, hbase⟩⟩
      intro name hname hname_known heq
      exact hleft_old ⟨name, hname, hname_known, heq.trans hlast⟩

/-- A pass that adds to its findings name by name has found what some name gave rise to. -/
theorem mem_findings_iff_existsBehind {findings : List String → List Finding}
    {looks : String → Bool} {reports : List String → String → List Finding} {finding : Finding}
    (hnil : findings [] = [])
    (hconcat : ∀ declared name, findings (declared ++ [name]) = findings declared ++
      if looks (Text.trim name) then
        reports ((declared.map Text.trim).filter looks) (Text.trim name)
      else [])
    (declared : List String) :
    finding ∈ findings declared ↔
      ExistsBehind (fun earlier name => finding ∈ reports earlier name)
        ((declared.map Text.trim).filter looks) := by
  induction declared using List.reverseRecOn with
  | nil => simp [hnil, existsBehind_nil]
  | append_singleton declared name ih =>
    rw [hconcat, List.mem_append, ih, List.map_append, List.map_singleton, filter_concat]
    cases looks (Text.trim name) with
    | false => simp
    | true =>
      simp only [if_true]
      rw [existsBehind_concat_iff]

/-- A name gives rise to a finding through the table just when a known earlier one has the base that
is looked up for it. -/
theorem exists_mem_counterparts_iff {known : String → Bool} {report : String → Finding} :
    (∃ finding, finding ∈ ((counterpart? table (baseKey name)).bind fun base =>
        (names.filter known).find? (baseKey · = base)).toList.map report) ↔
      ∃ other ∈ names, known other ∧
        counterpart? table (baseKey name) = some (baseKey other) := by
  have hnone := @find?_counterpart?_eq_none_iff_forall (names.filter known) name table
  cases hearlier : (counterpart? table (baseKey name)).bind fun base =>
      (names.filter known).find? (baseKey · = base) with
  | none =>
    refine iff_of_false (by simp) ?_
    rintro ⟨other, hother, hknown, hbase⟩
    exact hnone.mp hearlier other (List.mem_filter.mpr ⟨hother, hknown⟩) hbase
  | some earlier =>
    refine iff_of_true (by simp) ?_
    rw [Option.bind_eq_some_iff] at hearlier
    obtain ⟨base, hbase, hfound⟩ := hearlier
    obtain ⟨hother, hknown⟩ := List.mem_filter.mp (List.mem_of_find?_eq_some hfound)
    have heq : baseKey earlier = base := by simpa using List.find?_some hfound
    rw [← heq] at hbase
    exact ⟨earlier, hother, hknown, hbase⟩

/-! ## Renamed features -/

/-- A known name that repeats no earlier one and is no other version of one. -/
structure Accepted (catalog : Catalog) (earlier : List String) (name : String) : Prop where
  known : catalog.knows name
  first_of_key : ∀ other ∈ earlier, Name.normalize other ≠ Name.normalize name
  first_of_base : catalog.knowsVersioned name → ∀ other ∈ earlier, catalog.knowsVersioned other →
    baseKey other ≠ baseKey name

theorem accepted_of_first (hname : catalog.knows name)
    (hfirst : ∀ other ∈ names, catalog.knows other → baseKey other ≠ baseKey name) :
    Accepted catalog names name where
  known := hname
  first_of_key other hother hkey := by
    obtain ⟨feature, hfeature⟩ := Option.isSome_iff_exists.mp hname
    exact hfirst other hother (Catalog.knows_of_key hfeature hkey) (baseKey_eq_of_key_eq hkey)
  first_of_base _ other hother hknown :=
    hfirst other hother (Catalog.knows_of_knowsVersioned hknown)

theorem nameFindings_of_accepted (h : Accepted catalog names name) :
    nameFindings catalog tables names name =
      renameFindings tables
        (fun base => (names.filter catalog.knows).find? (baseKey · = base)) name := by
  obtain ⟨feature, hfeature⟩ := Option.isSome_iff_exists.mp h.known
  have hnew : ¬ ∃ other ∈ names, Name.normalize other = Name.normalize name := by
    intro hexists
    obtain ⟨other, hother, hkey⟩ := hexists
    exact h.first_of_key other hother hkey
  cases hversion : feature.isVersionless with
  | true => exact FeatureScan.nameFindings_of_versionless hfeature hversion hnew
  | false =>
    have hname : catalog.knowsVersioned name := by
      rw [Catalog.knowsVersioned_of_key hfeature rfl, hversion, Bool.not_false]
    have hnone : (names.filter catalog.knowsVersioned).find? (baseKey · = baseKey name) = none := by
      rw [List.find?_eq_none]
      intro other hother
      obtain ⟨hmem, hknown⟩ := List.mem_filter.mp hother
      simpa using h.first_of_base hname other hmem hknown
    rw [FeatureScan.nameFindings_of_versioned hfeature hversion hnew, hnone]

theorem accepted_of_mem_nameFindings {finding : Finding}
    (h : finding ∈ nameFindings catalog tables names name)
    (hkind : finding.kind = .featureRenamed) : Accepted catalog names name := by
  cases hfeature : catalog.publicFeature? name with
  | none =>
    simp only [nameFindings, hfeature, List.mem_singleton] at h
    rw [h] at hkind
    simp at hkind
  | some feature =>
    have hname : catalog.knows name := by rw [Catalog.knows, hfeature, Option.isSome_some]
    by_cases hrepeat : ∃ other ∈ names, Name.normalize other = Name.normalize name
    · rw [FeatureScan.nameFindings_of_repeated hfeature hrepeat, List.mem_singleton] at h
      rw [h] at hkind
      simp at hkind
    · have hfirst : ∀ other ∈ names, Name.normalize other ≠ Name.normalize name :=
        fun other hother hkey => hrepeat ⟨other, hother, hkey⟩
      refine ⟨hname, hfirst, ?_⟩
      intro hversioned other hother hknown hbase
      rw [Catalog.knowsVersioned_of_key hfeature rfl, Bool.not_eq_true'] at hversioned
      rw [FeatureScan.nameFindings_of_versioned hfeature hversioned hrepeat] at h
      split at h
      · rw [List.mem_singleton.mp h] at hkind
        simp at hkind
      · rename_i hnone
        have hne := List.find?_eq_none.mp hnone other (List.mem_filter.mpr ⟨hother, hknown⟩)
        exact hne (decide_eq_true hbase)

theorem exists_renamed_iff :
    (∃ finding ∈ nameFindings catalog tables names name, finding.kind = .featureRenamed) ↔
      Accepted catalog names name ∧ ∃ other ∈ names, catalog.knows other ∧
        tables.alternateFeatureName? (baseKey name) = some (baseKey other) := by
  constructor
  · rintro ⟨finding, hfinding, hkind⟩
    have haccepted := accepted_of_mem_nameFindings hfinding hkind
    rw [nameFindings_of_accepted haccepted] at hfinding
    exact ⟨haccepted, exists_mem_counterparts_iff.mp ⟨finding, hfinding⟩⟩
  · rintro ⟨haccepted, hearlier⟩
    rw [nameFindings_of_accepted haccepted]
    obtain ⟨finding, hfinding⟩ := exists_mem_counterparts_iff.mpr hearlier
    exact ⟨finding, hfinding, kind_of_mem_renameFindings hfinding⟩

/-! ## Platforms in conflict -/

/-- A known platform of which no version came earlier. -/
structure AcceptedPlatform (catalog : Catalog) (earlier : List String) (name : String) : Prop where
  known : catalog.hasPlatform name
  first_of_base : ∀ other ∈ earlier, catalog.hasPlatform other → baseKey other ≠ baseKey name

theorem platformFindings_of_accepted (h : AcceptedPlatform catalog names name) :
    platformFindings catalog tables names name =
      exclusionFindings tables
        (fun base => (names.filter catalog.hasPlatform).find? (baseKey · = base)) name := by
  have hnew : ¬ ∃ other ∈ names, Name.normalize other = Name.normalize name := by
    rintro ⟨other, hother, hkey⟩
    have hknown := (PlatformScan.hasPlatform_congr hkey).trans h.known
    exact h.first_of_base other hother hknown (baseKey_eq_of_key_eq hkey)
  have hnone : (names.filter catalog.hasPlatform).find? (baseKey · = baseKey name) = none := by
    rw [List.find?_eq_none]
    intro other hother
    obtain ⟨hmem, hknown⟩ := List.mem_filter.mp hother
    simpa using h.first_of_base other hmem hknown
  simp only [platformFindings, h.known, if_true, List.any_eq_true, decide_eq_true_eq, hnew,
    if_false, hnone]

theorem accepted_of_mem_platformFindings {finding : Finding}
    (h : finding ∈ platformFindings catalog tables names name)
    (hkind : finding.kind = .platformConflict) : AcceptedPlatform catalog names name := by
  unfold platformFindings at h
  split at h
  · rename_i hname
    refine ⟨hname, ?_⟩
    intro other hother hknown hbase
    split at h
    · rw [List.mem_singleton.mp h] at hkind
      simp at hkind
    · split at h
      · rw [List.mem_singleton.mp h] at hkind
        simp at hkind
      · rename_i hnone
        have hne := List.find?_eq_none.mp hnone other (List.mem_filter.mpr ⟨hother, hknown⟩)
        exact hne (decide_eq_true hbase)
  · rw [List.mem_singleton.mp h] at hkind
    simp at hkind

theorem exists_conflict_iff :
    (∃ finding ∈ platformFindings catalog tables names name,
        finding.kind = .platformConflict) ↔
      AcceptedPlatform catalog names name ∧ ∃ other ∈ names, catalog.hasPlatform other ∧
        tables.conflictingPlatform? (baseKey name) = some (baseKey other) := by
  constructor
  · rintro ⟨finding, hfinding, hkind⟩
    have haccepted := accepted_of_mem_platformFindings hfinding hkind
    rw [platformFindings_of_accepted haccepted] at hfinding
    exact ⟨haccepted, exists_mem_counterparts_iff.mp ⟨finding, hfinding⟩⟩
  · rintro ⟨haccepted, hearlier⟩
    rw [platformFindings_of_accepted haccepted]
    obtain ⟨finding, hfinding⟩ := exists_mem_counterparts_iff.mpr hearlier
    refine ⟨finding, hfinding, ?_⟩
    obtain ⟨found, -, rfl⟩ := List.mem_map.mp hfinding
    rfl

/-! ## Reports -/

theorem FeatureScan.mem_findings_iff {declared : List String} {finding : Finding} :
    finding ∈ (FeatureScan.of catalog tables declared).findings ↔
      ExistsBehind (fun earlier name => finding ∈ nameFindings catalog tables earlier name)
        (checkedNames declared) :=
  @mem_findings_iff_existsBehind (fun declared => (of catalog tables declared).findings) isChecked
    (nameFindings catalog tables) finding rfl (findings_of_concat catalog tables) declared

theorem PlatformScan.mem_findings_iff {declared : List String} {finding : Finding} :
    finding ∈ (PlatformScan.of catalog tables declared).findings ↔
      ExistsBehind (fun earlier name => finding ∈ platformFindings catalog tables earlier name)
        (checkedPlatforms declared) := by
  refine @mem_findings_iff_existsBehind (fun declared => (of catalog tables declared).findings)
    (!·.isEmpty) (platformFindings catalog tables) finding rfl ?_ declared
  intro declared name
  rw [findings_of_concat]
  cases hblank : (Text.trim name).isEmpty with
  | true => simp
  | false => rfl

variable {declarations : Declarations} {entry : String × String}

theorem Catalog.not_knows_of_isEmpty (h : catalog.isEmpty) : ¬ catalog.knows name := by
  intro hknown
  obtain ⟨feature, hfeature⟩ := Option.isSome_iff_exists.mp hknown
  have hmem := mem_of_publicFeature? hfeature
  rw [List.isEmpty_iff.mp h] at hmem
  simp at hmem

theorem Catalog.not_hasPlatform_of_isEmpty (h : catalog.isEmpty) :
    ¬ catalog.hasPlatform name := by
  rw [hasPlatform, catalog.platforms_eq, List.isEmpty_iff.mp h]
  simp [backedPlatforms, NameSet.unionAll]

/-- What a pass reports name by name makes a finding of a kind known by the names. -/
theorem exists_kind_validate_iff_existsBehind {kind : FindingKind} {p : List String → String → Prop}
    {reports : List String → String → List Finding}
    (hpass : ∀ finding, finding ∈ passFindings tables catalog declarations kind.pass ↔
      ExistsBehind (fun earlier name => finding ∈ reports earlier name) names)
    (hreports : ∀ earlier name,
      (∃ finding ∈ reports earlier name, finding.kind = kind) ↔ p earlier name)
    (hempty : catalog.isEmpty → ∀ earlier name, ¬ p earlier name) :
    (∃ finding ∈ validate tables catalog declarations, finding.kind = kind) ↔
      ExistsBehind p names := by
  cases hfilled : catalog.isEmpty with
  | false =>
    rw [exists_kind_validate_iff hfilled]
    constructor
    · rintro ⟨finding, hfinding, hkind⟩
      refine ((hpass finding).mp hfinding).imp ?_
      intro earlier name hmem
      exact (hreports earlier name).mp ⟨finding, hmem, hkind⟩
    · rintro ⟨earlier, name, later, heq, hp⟩
      obtain ⟨finding, hmem, hkind⟩ := (hreports earlier name).mpr hp
      exact ⟨finding, (hpass finding).mpr ⟨earlier, name, later, heq, hmem⟩, hkind⟩
  | true =>
    refine iff_of_false (by simp [validate, hfilled]) ?_
    rintro ⟨earlier, name, later, -, hp⟩
    exact hempty hfilled earlier name hp

theorem exists_renamed_validate_iff :
    (∃ finding ∈ validate tables catalog declarations, finding.kind = .featureRenamed) ↔
      ExistsBehind (fun earlier name => Accepted catalog earlier name ∧
        ∃ other ∈ earlier, catalog.knows other ∧
          tables.alternateFeatureName? (baseKey name) = some (baseKey other))
        (checkedNames declarations.features) := by
  refine exists_kind_validate_iff_existsBehind (fun _ => FeatureScan.mem_findings_iff)
    (fun _ _ => exists_renamed_iff) ?_
  rintro hempty earlier name ⟨haccepted, -⟩
  exact Catalog.not_knows_of_isEmpty hempty haccepted.known

theorem exists_conflict_validate_iff :
    (∃ finding ∈ validate tables catalog declarations, finding.kind = .platformConflict) ↔
      ExistsBehind (fun earlier name => AcceptedPlatform catalog earlier name ∧
        ∃ other ∈ earlier, catalog.hasPlatform other ∧
          tables.conflictingPlatform? (baseKey name) = some (baseKey other))
        (checkedPlatforms declarations.platforms) := by
  refine exists_kind_validate_iff_existsBehind (fun _ => PlatformScan.mem_findings_iff)
    (fun _ _ => exists_conflict_iff) ?_
  rintro hempty earlier name ⟨haccepted, -⟩
  exact Catalog.not_hasPlatform_of_isEmpty hempty haccepted.known

/-- If an entry is found both ways, the first name of one side finds a name of the other side that
came before it. -/
theorem existsBehind_of_sides {declared : List String} {looks known : String → Bool}
    (hboth : FoundBothWays table entry)
    (hne : Text.lowercase entry.1 ≠ Text.lowercase entry.2)
    (hleft : ∃ name ∈ (declared.map Text.trim).filter looks,
      known name ∧ Text.lowercase (Name.base name) = Text.lowercase entry.1)
    (hright : ∃ name ∈ (declared.map Text.trim).filter looks,
      known name ∧ Text.lowercase (Name.base name) = Text.lowercase entry.2) :
    ExistsBehind (fun earlier name => known name ∧
      (∀ other ∈ earlier, known other → baseKey other ≠ baseKey name) ∧
      ∃ other ∈ earlier, known other ∧
        counterpart? table (baseKey name) = some (baseKey other))
      ((declared.map Text.trim).filter looks) := by
  have hkeys : ∀ side, (∃ name ∈ (declared.map Text.trim).filter looks,
      known name ∧ Text.lowercase (Name.base name) = side) →
        ∃ name ∈ (declared.map Text.trim).filter looks, known name ∧ baseKey name = side := by
    rintro side ⟨name, hname, hknown, hside⟩
    obtain ⟨written, -, rfl⟩ := List.mem_map.mp (List.mem_filter.mp hname).1
    exact ⟨_, hname, hknown, by rw [baseKey, Name.base_normalize, Text.trim_trim, hside]⟩
  refine (existsBehind_of_two hne (hkeys _ hleft) (hkeys _ hright)).imp ?_
  rintro earlier name ⟨hknown, hfirst, other, hother, hother_known, hsides⟩
  refine ⟨hknown, hfirst, other, hother, hother_known, ?_⟩
  rcases hsides with ⟨hname, hbase⟩ | ⟨hname, hbase⟩
  · rw [hname, hbase, hboth.back]
  · rw [hname, hbase, hboth.forth]

/-- A renaming or a conflict is reported just when some accepted name finds the base of an earlier
one. That is so for any two names on the two sides of an entry that is found both ways, as all the
entries of an unambiguous table are. -/
theorem counterparts_reported_iff (tables : CompatibilityTables) (catalog : Catalog)
    (declarations : Declarations) :
    ((∃ finding ∈ validate tables catalog declarations, finding.kind = .featureRenamed) ↔
      ExistsBehind (fun earlier name => Accepted catalog earlier name ∧
        ∃ other ∈ earlier, catalog.knows other ∧
          tables.alternateFeatureName? (baseKey name) = some (baseKey other))
        (checkedNames declarations.features)) ∧
    ((∃ finding ∈ validate tables catalog declarations, finding.kind = .platformConflict) ↔
      ExistsBehind (fun earlier name => AcceptedPlatform catalog earlier name ∧
        ∃ other ∈ earlier, catalog.hasPlatform other ∧
          tables.conflictingPlatform? (baseKey name) = some (baseKey other))
        (checkedPlatforms declarations.platforms)) ∧
    (∀ entry ∈ tables.renamedFeatures.toList,
      Text.lowercase entry.1 ≠ Text.lowercase entry.2 →
      FoundBothWays tables.renamedFeatures entry →
      (∃ name ∈ checkedNames declarations.features, catalog.knows name ∧
        Text.lowercase (Name.base name) = Text.lowercase entry.1) →
      (∃ name ∈ checkedNames declarations.features, catalog.knows name ∧
        Text.lowercase (Name.base name) = Text.lowercase entry.2) →
      ∃ finding ∈ validate tables catalog declarations, finding.kind = .featureRenamed) ∧
    (∀ entry ∈ tables.conflictingPlatforms.toList,
      Text.lowercase entry.1 ≠ Text.lowercase entry.2 →
      FoundBothWays tables.conflictingPlatforms entry →
      (∃ name ∈ checkedPlatforms declarations.platforms, catalog.hasPlatform name ∧
        Text.lowercase (Name.base name) = Text.lowercase entry.1) →
      (∃ name ∈ checkedPlatforms declarations.platforms, catalog.hasPlatform name ∧
        Text.lowercase (Name.base name) = Text.lowercase entry.2) →
      ∃ finding ∈ validate tables catalog declarations, finding.kind = .platformConflict) ∧
    (∀ table, Unambiguous table → ∀ entry ∈ table.toList,
      Text.lowercase entry.1 ≠ Text.lowercase entry.2 ∧ FoundBothWays table entry) := by
  refine ⟨exists_renamed_validate_iff, exists_conflict_validate_iff, ?_, ?_, ?_⟩
  · intro entry _ hne hboth hleft hright
    refine exists_renamed_validate_iff.mpr ((existsBehind_of_sides hboth hne hleft hright).imp ?_)
    rintro earlier name ⟨hknown, hfirst, hfound⟩
    exact ⟨accepted_of_first hknown hfirst, hfound⟩
  · intro entry _ hne hboth hleft hright
    refine exists_conflict_validate_iff.mpr ((existsBehind_of_sides hboth hne hleft hright).imp ?_)
    rintro earlier name ⟨hknown, hfirst, hfound⟩
    exact ⟨⟨hknown, hfirst⟩, hfound⟩
  · intro table htable entry hentry
    exact ⟨htable.ne_of_mem hentry, htable.foundBothWays hentry⟩

/-- In each table one name stands in two entries. -/
def chainTables : CompatibilityTables :=
  { CompatibilityTables.standard with
    conflictingPlatforms := .ofList [("javaee", "jakartaee"), ("jakartaee", "spring")]
    renamedFeatures := .ofList [("jsf", "faces"), ("faces", "jakartaFaces")] }

def facesCatalog : Catalog := .ofFeatures [
  .named "jsf-2.3" .isPublic,
  .named "faces-3.0" .isPublic,
  (Feature.named "compatible-1.0" .isPrivate).withPlatforms ["javaee-8.0", "jakartaee-10.0"]]

def olderFirst : Declarations :=
  { features := ["jsf-2.3", "faces-3.0"], platforms := ["javaee-8.0", "jakartaee-10.0"] }

def newerFirst : Declarations :=
  { features := ["faces-3.0", "jsf-2.3"], platforms := ["jakartaee-10.0", "javaee-8.0"] }

/-- Read with the standard tables the older names are reported in front of the newer ones. -/
theorem counterparts_reported_facesCatalog :
    (∃ finding ∈ validate .standard facesCatalog olderFirst, finding.kind = .featureRenamed) ∧
    ∃ finding ∈ validate .standard facesCatalog olderFirst, finding.kind = .platformConflict := by
  obtain ⟨-, -, hrenamed, hconflict, hfound⟩ :=
    counterparts_reported_iff .standard facesCatalog olderFirst
  have hjsf : ("jsf", "faces") ∈ CompatibilityTables.standard.renamedFeatures.toList := by
    decide +kernel
  have hjavaee : ("javaee", "jakartaee") ∈
      CompatibilityTables.standard.conflictingPlatforms.toList := by decide +kernel
  obtain ⟨hne, hboth⟩ := hfound _ CompatibilityTables.unambiguous_renamedFeatures _ hjsf
  obtain ⟨hne', hboth'⟩ := hfound _ CompatibilityTables.unambiguous_conflictingPlatforms _ hjavaee
  constructor
  · exact hrenamed _ hjsf hne hboth ⟨"jsf-2.3", by decide +kernel⟩ ⟨"faces-3.0", by decide +kernel⟩
  · exact hconflict _ hjavaee hne' hboth' ⟨"javaee-8.0", by decide +kernel⟩
      ⟨"jakartaee-10.0", by decide +kernel⟩

/-- The same names on the sides of the same entries: nothing is reported in one order. -/
theorem counterparts_unreported :
    (("jsf", "faces") ∈ chainTables.renamedFeatures.toList ∧
      (facesCatalog.knows "jsf-2.3" ∧ Name.base "jsf-2.3" = "jsf") ∧
      (facesCatalog.knows "faces-3.0" ∧ Name.base "faces-3.0" = "faces")) ∧
    (("javaee", "jakartaee") ∈ chainTables.conflictingPlatforms.toList ∧
      (facesCatalog.hasPlatform "javaee-8.0" ∧ Name.base "javaee-8.0" = "javaee") ∧
      (facesCatalog.hasPlatform "jakartaee-10.0" ∧ Name.base "jakartaee-10.0" = "jakartaee")) ∧
    validate chainTables facesCatalog olderFirst = [] ∧
    (validate chainTables facesCatalog newerFirst).map (·.kind) =
      [.featureRenamed, .platformConflict] := by
  decide +kernel

end FeatureCheck
