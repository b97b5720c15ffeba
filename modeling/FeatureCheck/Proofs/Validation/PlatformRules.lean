import FeatureCheck.Proofs.Validation.Counterparts

/-!
# The rules of the platform pass

`Adds` has one rule for each thing that can happen to a declared platform, in terms of those in
front of it, and `Reading` is what the rules make of a whole list; the pass follows them
(`platformReading_iff`). With the standard tables the number of findings of each kind can be read
off the declared platforms without their order (`Tally`), so the order decides about names only.
-/

namespace FeatureCheck

set_option autoImplicit false

/-- A platform that counts for those behind it: one is stated, and the catalog has it. -/
def Catalog.hasStated (catalog : Catalog) (name : String) : Bool :=
  !name.isEmpty && catalog.hasPlatform name

namespace PlatformScan

section Rules

variable (catalog : Catalog) (tables : CompatibilityTables) (earlier : List String) (name : String)

/-- The findings about a platform behind the earlier ones. -/
inductive Adds : List Finding → Prop
  | passedOver (hblank : name.isEmpty) : Adds []
  | unknown (hstated : name.isEmpty = false) (hunknown : catalog.hasPlatform name = false) :
      Adds [(Finding.about .platformNotFound name).withRelated
        (catalog.platforms.toList.filter fun platform => Name.base platform = baseKey name)]
  | repeated (hknown : catalog.hasStated name)
      (hrepeats : ∃ other ∈ earlier, catalog.hasStated other ∧
        Name.normalize other = Name.normalize name) :
      Adds [.about .platformAlreadyIncluded name]
  | otherVersion {first : String} (hknown : catalog.hasStated name)
      (hnew : ∀ other ∈ earlier, catalog.hasStated other →
        Name.normalize other ≠ Name.normalize name)
      (hfirst : earlier.find? (fun other => catalog.hasStated other &&
        baseKey other = baseKey name) = some first) :
      Adds [(Finding.about .platformVersionConflict (Name.base name)).withRelated [first, name]]
  | conflict {first : String} (hknown : catalog.hasStated name)
      (hnew : ∀ other ∈ earlier, catalog.hasStated other → baseKey other ≠ baseKey name)
      (hfirst : earlier.find? (fun other => catalog.hasStated other &&
        tables.conflictingPlatform? (baseKey name) = some (baseKey other)) = some first) :
      Adds [(Finding.about .platformConflict name).withRelated [first, name]]
  | accepted (hknown : catalog.hasStated name)
      (hnew : ∀ other ∈ earlier, catalog.hasStated other → baseKey other ≠ baseKey name)
      (hnone : ∀ other ∈ earlier, catalog.hasStated other →
        tables.conflictingPlatform? (baseKey name) ≠ some (baseKey other)) : Adds []

/-- The findings about a list of declarations, one declaration after the other. -/
inductive Reading : List String → List Finding → Prop
  | nil : Reading [] []
  | concat {declared : List String} {written : String} {findings added : List Finding}
      (hfront : Reading declared findings)
      (hadds : Adds catalog tables (declared.map Text.trim) (Text.trim written) added) :
      Reading (declared ++ [written]) (findings ++ added)

end Rules

variable {catalog : Catalog} {tables : CompatibilityTables} {declared others earlier : List String}
  {name written first : String} {findings added : List Finding}

theorem hasStated_iff :
    catalog.hasStated name ↔ name.isEmpty = false ∧ catalog.hasPlatform name := by
  rw [Catalog.hasStated, Bool.and_eq_true, Bool.not_eq_true']

theorem filter_hasStated (declared : List String) :
    (declared.map Text.trim).filter catalog.hasStated =
      (checkedPlatforms declared).filter catalog.hasPlatform :=
  filter_and (!·.isEmpty) catalog.hasPlatform (declared.map Text.trim)

theorem find?_hasStated (p : String → Bool) :
    (declared.map Text.trim).find? (fun other => catalog.hasStated other && p other) =
      ((checkedPlatforms declared).filter catalog.hasPlatform).find? p := by
  rw [find?_and, filter_hasStated]

theorem mem_hasStated_iff {p : String → Prop} :
    (∀ other ∈ declared.map Text.trim, catalog.hasStated other → p other) ↔
      ∀ other ∈ checkedPlatforms declared, catalog.hasPlatform other → p other := by
  have hmem : ∀ other, (other ∈ declared.map Text.trim ∧ catalog.hasStated other) ↔
      other ∈ checkedPlatforms declared ∧ catalog.hasPlatform other := by
    intro other
    rw [← List.mem_filter, filter_hasStated, List.mem_filter]
  constructor
  · intro h other hother hknown
    obtain ⟨hdeclared, hstated⟩ := (hmem other).mpr ⟨hother, hknown⟩
    exact h other hdeclared hstated
  · intro h other hother hstated
    obtain ⟨hchecked, hknown⟩ := (hmem other).mp ⟨hother, hstated⟩
    exact h other hchecked hknown

/-! ## One declaration -/

theorem exists_adds (catalog : Catalog) (tables : CompatibilityTables) (earlier : List String)
    (name : String) : ∃ added, Adds catalog tables earlier name added := by
  cases hblank : name.isEmpty with
  | true => exact ⟨_, .passedOver hblank⟩
  | false =>
    cases hunknown : catalog.hasPlatform name with
    | false => exact ⟨_, .unknown hblank hunknown⟩
    | true =>
      have hknown : catalog.hasStated name := hasStated_iff.mpr ⟨hblank, hunknown⟩
      by_cases hrepeats : ∃ other ∈ earlier, catalog.hasStated other ∧
          Name.normalize other = Name.normalize name
      · exact ⟨_, .repeated hknown hrepeats⟩
      · cases hfirst : earlier.find? (fun other => catalog.hasStated other &&
            baseKey other = baseKey name) with
        | some first =>
          refine ⟨_, .otherVersion hknown ?_ hfirst⟩
          exact fun other hother hstated hkey => hrepeats ⟨other, hother, hstated, hkey⟩
        | none =>
          have hnew : ∀ other ∈ earlier, catalog.hasStated other →
              baseKey other ≠ baseKey name := by
            intro other hother hstated hbase
            simpa [hstated, hbase] using List.find?_eq_none.mp hfirst other hother
          cases hconflict : earlier.find? (fun other => catalog.hasStated other &&
              tables.conflictingPlatform? (baseKey name) = some (baseKey other)) with
          | some first => exact ⟨_, .conflict hknown hnew hconflict⟩
          | none =>
            refine ⟨_, .accepted hknown hnew ?_⟩
            intro other hother hstated hbase
            simpa [hstated, hbase] using List.find?_eq_none.mp hconflict other hother

theorem acceptedPlatform_of_new (hknown : catalog.hasStated name)
    (hnew : ∀ other ∈ declared.map Text.trim, catalog.hasStated other →
      baseKey other ≠ baseKey name) :
    AcceptedPlatform catalog (checkedPlatforms declared) name :=
  ⟨(hasStated_iff.mp hknown).2, mem_hasStated_iff.mp hnew⟩

theorem exists_key_hasStated_iff (hknown : catalog.hasStated name) :
    (∃ other ∈ declared.map Text.trim, catalog.hasStated other ∧
        Name.normalize other = Name.normalize name) ↔
      ∃ other ∈ checkedPlatforms declared, Name.normalize other = Name.normalize name := by
  have hsame : ∀ other, Name.normalize other = Name.normalize name → catalog.hasPlatform other :=
    fun _ hkey => (hasPlatform_congr hkey).trans (hasStated_iff.mp hknown).2
  rw [← exists_key_filter_iff hsame, ← filter_hasStated]
  simp only [List.mem_filter, and_assoc]

theorem Adds.platformFindings_eq
    (h : Adds catalog tables (declared.map Text.trim) name added) :
    (if name.isEmpty then [] else
      platformFindings catalog tables (checkedPlatforms declared) name) = added := by
  cases h with
  | passedOver hblank => rw [if_pos hblank]
  | unknown hstated hunknown => simp [hstated, platformFindings, hunknown]
  | repeated hknown hrepeats =>
    obtain ⟨hstated, hcatalog⟩ := hasStated_iff.mp hknown
    have hearlier := (exists_key_hasStated_iff hknown).mp hrepeats
    simp only [hstated, platformFindings, hcatalog, hearlier, List.any_eq_true, decide_eq_true_eq,
      Bool.false_eq_true, if_true, if_false]
  | @otherVersion first hknown hnew hfirst =>
    obtain ⟨hstated, hcatalog⟩ := hasStated_iff.mp hknown
    have hunrepeated : ¬ ∃ other ∈ checkedPlatforms declared,
        Name.normalize other = Name.normalize name := by
      rw [← exists_key_hasStated_iff hknown]
      rintro ⟨other, hother, hother_known, hkey⟩
      exact hnew other hother hother_known hkey
    rw [find?_hasStated] at hfirst
    simp only [hstated, platformFindings, hcatalog, hfirst, List.any_eq_true, decide_eq_true_eq,
      hunrepeated, Bool.false_eq_true, if_true, if_false]
  | conflict hknown hnew hfirst =>
    rw [find?_hasStated] at hfirst
    rw [if_neg (by simp [(hasStated_iff.mp hknown).1]),
      platformFindings_of_accepted (acceptedPlatform_of_new hknown hnew), exclusionFindings,
      bind_find?_baseKey, hfirst]
    rfl
  | accepted hknown hnew hnone =>
    rw [if_neg (by simp [(hasStated_iff.mp hknown).1]),
      platformFindings_of_accepted (acceptedPlatform_of_new hknown hnew), exclusionFindings,
      bind_find?_baseKey, List.find?_eq_none.mpr]
    · rfl
    · intro other hother
      obtain ⟨hchecked, hother_known⟩ := List.mem_filter.mp hother
      simpa using mem_hasStated_iff.mp hnone other hchecked hother_known

theorem Adds.findings_eq
    (h : Adds catalog tables (declared.map Text.trim) (Text.trim written) added) :
    (of catalog tables (declared ++ [written])).findings =
      (of catalog tables declared).findings ++ added := by
  rw [findings_of_concat, h.platformFindings_eq]

/-! ## All declarations -/

theorem Reading.eq (h : Reading catalog tables declared findings) :
    findings = (of catalog tables declared).findings := by
  induction h with
  | nil => rfl
  | concat _ hadds ih => rw [hadds.findings_eq, ih]

theorem reading_of (catalog : Catalog) (tables : CompatibilityTables) (declared : List String) :
    Reading catalog tables declared (of catalog tables declared).findings := by
  induction declared using List.reverseRecOn with
  | nil => exact .nil
  | append_singleton declared written ih =>
    obtain ⟨added, hadds⟩ := exists_adds catalog tables (declared.map Text.trim) (Text.trim written)
    rw [hadds.findings_eq]
    exact .concat ih hadds

/-! ## How many findings there are -/

/-- Known platforms of both families that exclude each other. -/
def MeetsBoth (known : List String) : Prop :=
  (∃ name ∈ known, baseKey name = "javaee") ∧ ∃ name ∈ known, baseKey name = "jakartaee"

instance (known : List String) : Decidable (MeetsBoth known) :=
  inferInstanceAs (Decidable (_ ∧ _))

theorem conflictingPlatform?_standard_iff {base : String} :
    CompatibilityTables.standard.conflictingPlatform? (baseKey name) = some base ↔
      baseKey name = "javaee" ∧ base = "jakartaee" ∨ baseKey name = "jakartaee" ∧ base = "javaee" :=
  (counterpart?_eq_some_iff CompatibilityTables.unambiguous_conflictingPlatforms
    (Name.map_toLower_base_normalize name)).trans
      CompatibilityTables.counterparts_conflictingPlatforms_iff

/-- Both families are met with once a platform comes to one that it conflicts with. -/
theorem meetsBoth_concat_iff {known : List String} :
    MeetsBoth (known ++ [name]) ↔ MeetsBoth known ∨ ∃ other ∈ known,
      CompatibilityTables.standard.conflictingPlatform? (baseKey name) = some (baseKey other) := by
  -- two families that are met with one by one, of which the new platform is in one at most
  have hboth : ∀ {left right newLeft newRight : Prop}, ¬ (newLeft ∧ newRight) →
      ((left ∨ newLeft) ∧ (right ∨ newRight) ↔
        left ∧ right ∨ newLeft ∧ right ∨ newRight ∧ left) := by
    tauto
  have hside : ∀ side, (∃ other ∈ known ++ [name], baseKey other = side) ↔
      (∃ other ∈ known, baseKey other = side) ∨ baseKey name = side := by
    simp [or_and_right, exists_or]
  have hother : (∃ other ∈ known, CompatibilityTables.standard.conflictingPlatform? (baseKey name) =
      some (baseKey other)) ↔
        (baseKey name = "javaee" ∧ ∃ other ∈ known, baseKey other = "jakartaee") ∨
          (baseKey name = "jakartaee" ∧ ∃ other ∈ known, baseKey other = "javaee") := by
    simp only [conflictingPlatform?_standard_iff, and_or_left, exists_or, exists_and_left,
      and_left_comm]
  have hne : ¬ (baseKey name = "javaee" ∧ baseKey name = "jakartaee") := by
    rintro ⟨hleft, hright⟩
    rw [hleft] at hright
    exact absurd hright (by decide)
  rw [MeetsBoth, hside, hside, hother, MeetsBoth]
  exact hboth hne

theorem meetsBoth_concat_of_exists {known : List String}
    (h : ∃ other ∈ known, baseKey other = baseKey name) :
    MeetsBoth (known ++ [name]) ↔ MeetsBoth known := by
  rw [meetsBoth_concat_iff, or_iff_left_of_imp]
  rintro ⟨other, hother, hconflict⟩
  obtain ⟨same, hsame, hbase⟩ := h
  rcases conflictingPlatform?_standard_iff.mp hconflict with ⟨hname, hside⟩ | ⟨hname, hside⟩
  · exact ⟨⟨same, hsame, hbase.trans hname⟩, other, hother, hside⟩
  · exact ⟨⟨other, hother, hside⟩, same, hsame, hbase.trans hname⟩

theorem not_meetsBoth_of_conflict {known : List String}
    (hnew : ∀ other ∈ known, baseKey other ≠ baseKey name)
    (hconflict : ∃ other ∈ known, CompatibilityTables.standard.conflictingPlatform? (baseKey name) =
      some (baseKey other)) : ¬ MeetsBoth known := by
  rintro ⟨⟨left, hleft, hjavaee⟩, right, hright, hjakartaee⟩
  obtain ⟨other, -, hbase⟩ := hconflict
  rcases conflictingPlatform?_standard_iff.mp hbase with ⟨hname, -⟩ | ⟨hname, -⟩
  · exact hnew left hleft (hjavaee.trans hname.symm)
  · exact hnew right hright (hjakartaee.trans hname.symm)

/-- What a platform behind the known ones adds to each number but that of the unknown. -/
structure Counted (known : List String) (name : String) (kinds : List FindingKind) : Prop where
  unknown : kinds.count .platformNotFound = 0
  repeated : kinds.count .platformAlreadyIncluded +
    (firstOfEach Name.normalize (known ++ [name])).length =
      (firstOfEach Name.normalize known).length + 1
  other_version : kinds.count .platformVersionConflict +
    (firstOfEach baseKey (known ++ [name])).length + (firstOfEach Name.normalize known).length =
      (firstOfEach Name.normalize (known ++ [name])).length + (firstOfEach baseKey known).length
  conflict : (kinds.count .platformConflict + if MeetsBoth known then 1 else 0) =
    if MeetsBoth (known ++ [name]) then 1 else 0

section Counted

variable {known : List String}

theorem counted_of_repeated
    (hrepeats : ∃ other ∈ known, Name.normalize other = Name.normalize name) :
    Counted known name [.platformAlreadyIncluded] := by
  have hbase := exists_baseKey_of_key hrepeats
  constructor
  · rfl
  · rw [length_firstOfEach_concat, if_pos hrepeats, Nat.add_comm]
    rfl
  · rw [length_firstOfEach_concat, if_pos hbase, length_firstOfEach_concat, if_pos hrepeats,
      Nat.add_comm]
    simp
  · simp only [meetsBoth_concat_of_exists hbase]
    exact Nat.zero_add _

theorem counted_of_otherVersion
    (hnew : ∀ other ∈ known, Name.normalize other ≠ Name.normalize name)
    (hbase : ∃ other ∈ known, baseKey other = baseKey name) :
    Counted known name [.platformVersionConflict] := by
  have hunrepeated : ¬ ∃ other ∈ known, Name.normalize other = Name.normalize name := by
    simpa using hnew
  constructor
  · rfl
  · rw [length_firstOfEach_concat, if_neg hunrepeated]
    simp
  · rw [length_firstOfEach_concat, if_pos hbase, length_firstOfEach_concat, if_neg hunrepeated]
    simp
    omega
  · simp only [meetsBoth_concat_of_exists hbase]
    exact Nat.zero_add _

theorem length_key_concat_of_new (hnew : ∀ other ∈ known, baseKey other ≠ baseKey name) :
    (firstOfEach Name.normalize (known ++ [name])).length =
        (firstOfEach Name.normalize known).length + 1 ∧
      (firstOfEach baseKey (known ++ [name])).length = (firstOfEach baseKey known).length + 1 := by
  have hbase : ¬ ∃ other ∈ known, baseKey other = baseKey name := by simpa using hnew
  have hkey : ¬ ∃ other ∈ known, Name.normalize other = Name.normalize name :=
    fun hrepeats => hbase (exists_baseKey_of_key hrepeats)
  rw [length_firstOfEach_concat, if_neg hkey, length_firstOfEach_concat, if_neg hbase]
  exact ⟨rfl, rfl⟩

theorem counted_of_conflict (hnew : ∀ other ∈ known, baseKey other ≠ baseKey name)
    (hconflict : ∃ other ∈ known, CompatibilityTables.standard.conflictingPlatform? (baseKey name) =
      some (baseKey other)) : Counted known name [.platformConflict] := by
  obtain ⟨hkeys, hbases⟩ := length_key_concat_of_new hnew
  constructor
  · rfl
  · rw [hkeys]
    simp
  · rw [hkeys, hbases]
    simp
    omega
  · rw [if_neg (not_meetsBoth_of_conflict hnew hconflict),
      if_pos (meetsBoth_concat_iff.mpr (.inr hconflict))]
    rfl

theorem counted_of_accepted (hnew : ∀ other ∈ known, baseKey other ≠ baseKey name)
    (hnone : ∀ other ∈ known, CompatibilityTables.standard.conflictingPlatform? (baseKey name) ≠
      some (baseKey other)) : Counted known name [] := by
  obtain ⟨hkeys, hbases⟩ := length_key_concat_of_new hnew
  have hmeets : MeetsBoth (known ++ [name]) ↔ MeetsBoth known := by
    rw [meetsBoth_concat_iff, or_iff_left]
    rintro ⟨other, hother, hconflict⟩
    exact hnone other hother hconflict
  constructor
  · rfl
  · rw [hkeys]
    simp
  · rw [hkeys, hbases]
    simp
    omega
  · simp only [hmeets]
    exact Nat.zero_add _

end Counted

/-- The kinds of the findings, counted: of the known platforms one of each base is accepted, one of
each key is not a repetition, and at most one is in conflict. -/
structure Tally (catalog : Catalog) (names : List String) (kinds : List FindingKind) : Prop where
  unknown : kinds.count .platformNotFound =
    names.countP fun name => !name.isEmpty && !catalog.hasPlatform name
  repeated : kinds.count .platformAlreadyIncluded +
      (firstOfEach Name.normalize (names.filter catalog.hasStated)).length =
    (names.filter catalog.hasStated).length
  other_version : kinds.count .platformVersionConflict +
      (firstOfEach baseKey (names.filter catalog.hasStated)).length =
    (firstOfEach Name.normalize (names.filter catalog.hasStated)).length
  conflict : kinds.count .platformConflict =
    if MeetsBoth (names.filter catalog.hasStated) then 1 else 0

namespace Tally

variable {kinds more : List FindingKind}

theorem nil : Tally catalog [] [] := by
  constructor <;> simp [firstOfEach, MeetsBoth]

/-- A name that is blank or unknown is only counted as such. -/
theorem concat_of_unknown (h : Tally catalog earlier kinds)
    (hname : catalog.hasStated name = false)
    (hmore : more = if name.isEmpty then [] else [.platformNotFound]) :
    Tally catalog (earlier ++ [name]) (kinds ++ more) := by
  have hknown : (earlier ++ [name]).filter catalog.hasStated =
      earlier.filter catalog.hasStated := by
    rw [filter_concat, hname, if_neg Bool.false_ne_true, List.append_nil]
  have hunknown : (!name.isEmpty && !catalog.hasPlatform name) = !name.isEmpty := by
    rw [Catalog.hasStated] at hname
    cases hblank : name.isEmpty <;> simp_all
  constructor
  · rw [List.count_append, List.countP_append, h.unknown, List.countP_singleton, hunknown, hmore]
    cases name.isEmpty <;> rfl
  · rw [hknown, ← h.repeated, List.count_append, hmore]
    cases name.isEmpty <;> rfl
  · rw [hknown, ← h.other_version, List.count_append, hmore]
    cases name.isEmpty <;> rfl
  · rw [hknown, ← h.conflict, List.count_append, hmore]
    cases name.isEmpty <;> rfl

theorem concat_of_known (h : Tally catalog earlier kinds) (hname : catalog.hasStated name)
    (hmore : Counted (earlier.filter catalog.hasStated) name more) :
    Tally catalog (earlier ++ [name]) (kinds ++ more) := by
  have hknown : (earlier ++ [name]).filter catalog.hasStated =
      earlier.filter catalog.hasStated ++ [name] := by
    rw [filter_concat, if_pos hname]
  obtain ⟨hunknown, hrepeated, hother, hconflict⟩ := hmore
  constructor
  · rw [List.count_append, h.unknown, hunknown, List.countP_append, List.countP_singleton]
    simp [(hasStated_iff.mp hname).2]
  · have hlength := h.repeated
    rw [hknown, List.count_append, List.length_append, List.length_singleton]
    omega
  · have hlength := h.other_version
    rw [hknown, List.count_append]
    omega
  · rw [hknown, List.count_append, h.conflict, Nat.add_comm, hconflict]

theorem concat (h : Tally catalog earlier kinds)
    (hadds : Adds catalog .standard earlier name added) :
    Tally catalog (earlier ++ [name]) (kinds ++ added.map (·.kind)) := by
  have hfilter : ∀ {p : String → Prop},
      (∀ other ∈ earlier, catalog.hasStated other → p other) →
        ∀ other ∈ earlier.filter catalog.hasStated, p other := by
    intro p hp other hother
    obtain ⟨hearlier, hstated⟩ := List.mem_filter.mp hother
    exact hp other hearlier hstated
  cases hadds with
  | passedOver hblank =>
    exact h.concat_of_unknown (by simp [Catalog.hasStated, hblank]) (by rw [if_pos hblank]; rfl)
  | unknown hstated hunknown =>
    exact h.concat_of_unknown (by simp [Catalog.hasStated, hunknown]) (by rw [hstated]; rfl)
  | repeated hknown hrepeats =>
    obtain ⟨other, hother, hstated, hkey⟩ := hrepeats
    exact h.concat_of_known hknown
      (counted_of_repeated ⟨other, List.mem_filter.mpr ⟨hother, hstated⟩, hkey⟩)
  | @otherVersion first hknown hnew hfirst =>
    rw [find?_and] at hfirst
    exact h.concat_of_known hknown (counted_of_otherVersion (hfilter hnew)
      ⟨first, List.mem_of_find?_eq_some hfirst, by simpa using List.find?_some hfirst⟩)
  | @conflict first hknown hnew hfirst =>
    rw [find?_and] at hfirst
    exact h.concat_of_known hknown (counted_of_conflict (hfilter hnew)
      ⟨first, List.mem_of_find?_eq_some hfirst, by simpa using List.find?_some hfirst⟩)
  | accepted hknown hnew hnone =>
    exact h.concat_of_known hknown (counted_of_accepted (hfilter hnew) (hfilter hnone))

end Tally

theorem Reading.tally (h : Reading catalog .standard declared findings) :
    Tally catalog (declared.map Text.trim) (findings.map (·.kind)) := by
  induction h with
  | nil => exact .nil
  | concat _ hadds ih =>
    rw [List.map_append, List.map_append, List.map_singleton]
    exact ih.concat hadds

/-- The numbers do not depend on the order. -/
theorem Tally.count_eq {names more : List String} {kinds others : List FindingKind}
    (hperm : names.Perm more) (h : Tally catalog names kinds) (h' : Tally catalog more others) :
    kinds.count .platformNotFound = others.count .platformNotFound ∧
      kinds.count .platformAlreadyIncluded = others.count .platformAlreadyIncluded ∧
      kinds.count .platformVersionConflict = others.count .platformVersionConflict ∧
      kinds.count .platformConflict = others.count .platformConflict := by
  have hknown := hperm.filter catalog.hasStated
  have hkeys := length_firstOfEach_perm Name.normalize hknown
  have hbases := length_firstOfEach_perm baseKey hknown
  have hmeets : MeetsBoth (names.filter catalog.hasStated) ↔
      MeetsBoth (more.filter catalog.hasStated) := by
    simp only [MeetsBoth, hknown.mem_iff]
  refine ⟨?_, ?_, ?_, ?_⟩
  · rw [h.unknown, h'.unknown, hperm.countP_eq]
  · have hleft := h.repeated
    have hright := h'.repeated
    rw [hkeys, hknown.length_eq] at hleft
    omega
  · have hleft := h.other_version
    have hright := h'.other_version
    rw [hkeys, hbases] at hleft
    omega
  · rw [h.conflict, h'.conflict]
    simp only [hmeets]

theorem kind_cases_of_pass {kind : FindingKind} (h : kind.pass = .platforms) :
    kind = .platformNotFound ∨ kind = .platformAlreadyIncluded ∨
      kind = .platformVersionConflict ∨ kind = .platformConflict := by
  cases kind <;> simp_all [FindingKind.pass]

theorem count_kind_of_otherPass {kind : FindingKind} (h : kind.pass ≠ .platforms)
    (declared : List String) :
    ((of catalog tables declared).findings.map (·.kind)).count kind = 0 := by
  rw [List.count_eq_zero, List.mem_map]
  rintro ⟨finding, hfinding, rfl⟩
  exact h (pass_of_mem_findings catalog tables hfinding)

/-- The rules of the pass are the pass, and with the standard tables the order of the declarations
does not decide how many findings of a kind there are. -/
theorem platformReading_iff (catalog : Catalog) :
    (∀ tables declared findings, Reading catalog tables declared findings ↔
      findings = (of catalog tables declared).findings) ∧
    ∀ declared others : List String, declared.Perm others →
      ((of catalog .standard declared).findings.map (·.kind)).Perm
        ((of catalog .standard others).findings.map (·.kind)) := by
  refine ⟨fun tables declared findings => ⟨Reading.eq, ?_⟩, ?_⟩
  · rintro rfl
    exact reading_of catalog tables declared
  · intro declared others hperm
    rw [List.perm_iff_count]
    intro kind
    by_cases hpass : kind.pass = .platforms
    · obtain ⟨hunknown, hrepeated, hother, hconflict⟩ := Tally.count_eq (hperm.map Text.trim)
        (reading_of catalog .standard declared).tally (reading_of catalog .standard others).tally
      obtain rfl | rfl | rfl | rfl := kind_cases_of_pass hpass
      · exact hunknown
      · exact hrepeated
      · exact hother
      · exact hconflict
    · rw [count_kind_of_otherPass hpass, count_kind_of_otherPass hpass]

def familiesCatalog : Catalog := .ofFeatures [
  (Feature.named "compatible-1.0" .isPrivate).withPlatforms
    ["javaee-8.0", "jakartaee-9.1", "jakartaee-10.0"]]

def jakartaFirst : List String :=
  ["jakartaee-10.0", "javaee-8.0", "JakartaEE-10.0", "jakartaee-9.1", "spring"]

def unknownFirst : List String :=
  ["spring", "jakartaee-9.1", "javaee-8.0", "JakartaEE-10.0", "jakartaee-10.0"]

/-- The conflict is with another platform in each order, and so is the other version. -/
theorem platformReading_familiesCatalog :
    jakartaFirst.Perm unknownFirst ∧
    (of familiesCatalog .standard jakartaFirst).findings.map (·.related) ≠
      (of familiesCatalog .standard unknownFirst).findings.map (·.related) ∧
    ((of familiesCatalog .standard jakartaFirst).findings.map (·.kind)).Perm
      ((of familiesCatalog .standard unknownFirst).findings.map (·.kind)) := by
  have hperm : jakartaFirst.Perm unknownFirst := by decide
  exact ⟨hperm, by decide +kernel, (platformReading_iff familiesCatalog).2 _ _ hperm⟩

end PlatformScan

end FeatureCheck
