import FeatureCheck.Proofs.Validation.FeatureScan

/-!
# The rules of the feature pass

`Adds` has one rule for each thing that can happen to a declared name, in terms of the names in
front of it; `Reading` is what the rules make of a whole list. The pass follows them, whatever it
keeps in its sets and maps (`featureReading_iff`). A name in front only counts if it has been looked
at: the rules are not those of the pass if users' names count too (`not_reading_of_user`).
-/

namespace FeatureCheck

set_option autoImplicit false

/-- A name that counts for those behind it: it has been looked at, and a public feature has it. -/
def Catalog.isValid (catalog : Catalog) (name : String) : Bool :=
  isChecked name && catalog.knows name

namespace FeatureScan

section Rules

variable (catalog : Catalog) (tables : CompatibilityTables) (counts : String → Bool)
  (earlier : List String) (name : String)

/-- What an accepted name gives rise to, by the first name in front that has the alternate base. -/
inductive Renames : List Finding → Prop
  | nothing (hnone : ∀ other ∈ earlier, counts other →
      tables.alternateFeatureName? (baseKey name) ≠ some (baseKey other)) : Renames []
  | renamed {first : String}
      (hfirst : earlier.find? (fun other => counts other &&
        tables.alternateFeatureName? (baseKey name) = some (baseKey other)) = some first) :
      Renames [(Finding.about .featureRenamed name).withRelated [first]]

/-- The name of a public feature, which no name in front has. -/
structure IsNew (feature : Feature) : Prop where
  checked : isChecked name
  feature : catalog.publicFeature? name = some feature
  unrepeated : ∀ other ∈ earlier, counts other → Name.normalize other ≠ Name.normalize name

/-- The findings about a name, and the versioned and versionless features that it adds to those
accepted. -/
inductive Adds : List Finding → List Feature → List Feature → Prop
  | passedOver (hunchecked : isChecked name = false) : Adds [] [] []
  | unknown (hchecked : isChecked name) (hunknown : catalog.publicFeature? name = none) :
      Adds [(Finding.about .featureNotFound name).withRelated
        (catalog.replacementCandidates name).toList] [] []
  | repeated {feature : Feature} (hchecked : isChecked name)
      (hfeature : catalog.publicFeature? name = some feature)
      (hrepeats : ∃ other ∈ earlier, counts other ∧ Name.normalize other = Name.normalize name) :
      Adds [.about .featureAlreadyIncluded name] [] []
  | otherVersion {feature : Feature} {first : String}
      (hnew : IsNew catalog counts earlier name feature)
      (hversioned : feature.isVersionless = false)
      (hfirst : earlier.find? (fun other => counts other && catalog.knowsVersioned other &&
        baseKey other = baseKey name) = some first) :
      Adds [(Finding.about .featureVersionConflict (Name.base name)).withRelated
        [first, name]] [] []
  | versioned {feature : Feature} {findings : List Finding}
      (hnew : IsNew catalog counts earlier name feature)
      (hversioned : feature.isVersionless = false)
      (hfirst : ∀ other ∈ earlier, counts other → catalog.knowsVersioned other →
        baseKey other ≠ baseKey name)
      (hrenames : Renames tables counts earlier name findings) : Adds findings [feature] []
  | versionless {feature : Feature} {findings : List Finding}
      (hnew : IsNew catalog counts earlier name feature)
      (hversionless : feature.isVersionless)
      (hrenames : Renames tables counts earlier name findings) : Adds findings [] [feature]

/-- The findings and the accepted features of a list of declarations, one declaration after the
other. -/
inductive Reading : List String → List Finding → List Feature → List Feature → Prop
  | nil : Reading [] [] [] []
  | concat {declared : List String} {written : String} {findings added : List Finding}
      {versioned versionless features others : List Feature}
      (hfront : Reading declared findings versioned versionless)
      (hadds : Adds catalog tables counts (declared.map Text.trim) (Text.trim written) added
        features others) :
      Reading (declared ++ [written]) (findings ++ added) (versioned ++ features)
        (versionless ++ others)

end Rules

variable {catalog : Catalog} {tables : CompatibilityTables} {counts : String → Bool}
  {declared earlier names : List String} {name written first : String} {feature : Feature}
  {findings added : List Finding} {versioned versionless features others : List Feature}

theorem isValid_iff : catalog.isValid name ↔ isChecked name ∧ catalog.knows name := by
  rw [Catalog.isValid, Bool.and_eq_true]

/-! ## Names that count -/

theorem filter_isValid (declared : List String) :
    (declared.map Text.trim).filter catalog.isValid =
      (checkedNames declared).filter catalog.knows :=
  filter_and isChecked catalog.knows (declared.map Text.trim)

theorem find?_isValid (p : String → Bool) :
    (declared.map Text.trim).find? (fun other => catalog.isValid other && p other) =
      ((checkedNames declared).filter catalog.knows).find? p := by
  rw [find?_and, filter_isValid]

theorem find?_isValid_versioned (p : String → Bool) :
    (declared.map Text.trim).find? (fun other => catalog.isValid other &&
        catalog.knowsVersioned other && p other) =
      ((checkedNames declared).filter catalog.knowsVersioned).find? p := by
  have hfilter : (checkedNames declared).filter catalog.knowsVersioned =
      ((checkedNames declared).filter catalog.knows).filter catalog.knowsVersioned := by
    rw [List.filter_filter]
    refine List.filter_congr fun other _ => ?_
    cases hversioned : catalog.knowsVersioned other with
    | false => simp
    | true => simp [Catalog.knows_of_knowsVersioned hversioned]
  rw [hfilter, ← find?_and, ← find?_isValid]
  simp only [Bool.and_assoc]

/-- Of the names that are looked at only known ones repeat a known one. -/
theorem exists_key_isValid_iff (hfeature : catalog.publicFeature? name = some feature) :
    (∃ other ∈ declared.map Text.trim, catalog.isValid other ∧
        Name.normalize other = Name.normalize name) ↔
      ∃ other ∈ checkedNames declared, Name.normalize other = Name.normalize name := by
  rw [← exists_key_filter_iff fun _ hkey => Catalog.knows_of_key hfeature hkey, ← filter_isValid]
  simp only [List.mem_filter, and_assoc]

theorem IsNew.unrepeated_checked
    (h : IsNew catalog catalog.isValid (declared.map Text.trim) name feature) :
    ¬ ∃ other ∈ checkedNames declared, Name.normalize other = Name.normalize name := by
  rw [← exists_key_isValid_iff h.feature]
  rintro ⟨other, hother, hvalid, hkey⟩
  exact h.unrepeated other hother hvalid hkey

/-! ## Renamings -/

theorem exists_renames (tables : CompatibilityTables) (counts : String → Bool)
    (earlier : List String) (name : String) :
    ∃ findings, Renames tables counts earlier name findings := by
  cases hfirst : earlier.find? (fun other => counts other &&
      tables.alternateFeatureName? (baseKey name) = some (baseKey other)) with
  | some first => exact ⟨_, .renamed hfirst⟩
  | none =>
    refine ⟨_, .nothing ?_⟩
    intro other hother hcounts hbase
    simpa [hcounts, hbase] using List.find?_eq_none.mp hfirst other hother

theorem Renames.eq_renameFindings
    (h : Renames tables catalog.isValid (declared.map Text.trim) name findings) :
    findings = renameFindings tables
      (fun base => ((checkedNames declared).filter catalog.knows).find? (baseKey · = base))
      name := by
  rw [renameFindings, bind_find?_baseKey, ← find?_isValid]
  cases h with
  | nothing hnone =>
    rw [List.find?_eq_none.mpr]
    · rfl
    · intro other hother
      simpa using hnone other hother
  | renamed hfirst =>
    rw [hfirst]
    rfl

/-! ## One declaration -/

theorem exists_adds (catalog : Catalog) (tables : CompatibilityTables) (counts : String → Bool)
    (earlier : List String) (name : String) :
    ∃ added features others, Adds catalog tables counts earlier name added features others := by
  cases hchecked : isChecked name with
  | false => exact ⟨_, _, _, .passedOver hchecked⟩
  | true =>
    cases hfeature : catalog.publicFeature? name with
    | none => exact ⟨_, _, _, .unknown hchecked hfeature⟩
    | some feature =>
      by_cases hrepeats : ∃ other ∈ earlier, counts other ∧
          Name.normalize other = Name.normalize name
      · exact ⟨_, _, _, .repeated hchecked hfeature hrepeats⟩
      · have hnew : IsNew catalog counts earlier name feature :=
          ⟨hchecked, hfeature, fun other hother hcounts hkey =>
            hrepeats ⟨other, hother, hcounts, hkey⟩⟩
        obtain ⟨findings, hrenames⟩ := exists_renames tables counts earlier name
        cases hversion : feature.isVersionless with
        | true => exact ⟨_, _, _, .versionless hnew hversion hrenames⟩
        | false =>
          cases hfirst : earlier.find? (fun other => counts other &&
              catalog.knowsVersioned other && baseKey other = baseKey name) with
          | some first => exact ⟨_, _, _, .otherVersion hnew hversion hfirst⟩
          | none =>
            refine ⟨_, _, _, .versioned hnew hversion ?_ hrenames⟩
            intro other hother hcounts hknown hbase
            simpa [hcounts, hknown, hbase] using List.find?_eq_none.mp hfirst other hother

/-- The feature that a name adds to those accepted for names picked out by `p`, the first of each
key. -/
def newFeature (catalog : Catalog) (key : String → String) (p : String → Bool)
    (earlier : List String) (name : String) : List Feature :=
  if p name ∧ ∀ other ∈ earlier, p other → key other ≠ key name then
    (catalog.publicFeature? name).toList
  else []

theorem newFeature_of_other {key : String → String} {p : String → Bool} (h : p name = false) :
    newFeature catalog key p earlier name = [] :=
  if_neg fun hnew => by simp [h] at hnew

theorem newFeature_of_earlier {key : String → String} {p : String → Bool}
    (h : p name → ∃ other ∈ earlier, p other ∧ key other = key name) :
    newFeature catalog key p earlier name = [] := by
  apply if_neg
  rintro ⟨hname, hnew⟩
  obtain ⟨other, hother, hp, hkey⟩ := h hname
  exact hnew other hother hp hkey

theorem newFeature_of_first {key : String → String} {p : String → Bool} (hname : p name)
    (hfeature : catalog.publicFeature? name = some feature)
    (hfirst : ∀ other ∈ earlier, p other → key other ≠ key name) :
    newFeature catalog key p earlier name = [feature] := by
  rw [newFeature, if_pos ⟨hname, hfirst⟩, hfeature]
  rfl

theorem accepted_concat (key : String → String) (p : String → Bool) (names : List String)
    (name : String) :
    (firstOfEach key ((names ++ [name]).filter p)).filterMap catalog.publicFeature? =
      (firstOfEach key (names.filter p)).filterMap catalog.publicFeature? ++
        newFeature catalog key p names name := by
  rw [filter_concat]
  cases hname : p name with
  | false => simp [newFeature_of_other hname]
  | true =>
    rw [if_pos rfl, firstOfEach_concat, List.filterMap_append]
    by_cases hearlier : ∃ other ∈ names.filter p, key other = key name
    · rw [if_pos hearlier, newFeature_of_earlier, List.filterMap_nil]
      obtain ⟨other, hother, hkey⟩ := hearlier
      obtain ⟨hmem, hp⟩ := List.mem_filter.mp hother
      exact fun _ => ⟨other, hmem, hp, hkey⟩
    · have hfirst : ∀ other ∈ names, p other → key other ≠ key name := by
        intro other hother hp hkey
        exact hearlier ⟨other, List.mem_filter.mpr ⟨hother, hp⟩, hkey⟩
      rw [if_neg hearlier, newFeature, if_pos ⟨hname, hfirst⟩]
      cases hfeature : catalog.publicFeature? name <;> simp [hfeature]

/-- What the pass has found and accepted, once one more declaration is read. -/
structure Extends (catalog : Catalog) (tables : CompatibilityTables) (declared : List String)
    (written : String) (added : List Finding) (features others : List Feature) : Prop where
  findings : (of catalog tables (declared ++ [written])).findings =
    (of catalog tables declared).findings ++ added
  versioned : (of catalog tables (declared ++ [written])).versioned =
    (of catalog tables declared).versioned ++ features
  versionless : (of catalog tables (declared ++ [written])).versionless =
    (of catalog tables declared).versionless ++ others

theorem extends_of_checked (hchecked : isChecked (Text.trim written))
    (hfindings : nameFindings catalog tables (checkedNames declared) (Text.trim written) = added)
    (hfeatures : newFeature catalog baseKey catalog.knowsVersioned (checkedNames declared)
      (Text.trim written) = features)
    (hothers : newFeature catalog Name.normalize catalog.knowsVersionless (checkedNames declared)
      (Text.trim written) = others) :
    Extends catalog tables declared written added features others := by
  have hfront := reads_of catalog tables declared
  have hall := reads_of catalog tables (declared ++ [written])
  constructor
  · rw [findings_of_concat, if_pos hchecked, hfindings]
  · rw [hall.versioned, hfront.versioned, checkedNames_concat, if_pos hchecked, accepted_concat,
      hfeatures]
  · rw [hall.versionless, hfront.versionless, checkedNames_concat, if_pos hchecked,
      accepted_concat, hothers]

theorem extends_of_repeated (hchecked : isChecked (Text.trim written))
    (hfeature : catalog.publicFeature? (Text.trim written) = some feature)
    (hearlier : ∃ other ∈ checkedNames declared,
      Name.normalize other = Name.normalize (Text.trim written)) :
    Extends catalog tables declared written
      [.about .featureAlreadyIncluded (Text.trim written)] [] [] := by
  apply extends_of_checked hchecked (nameFindings_of_repeated hfeature hearlier)
  all_goals
    obtain ⟨other, hother, hkey⟩ := hearlier
    apply newFeature_of_earlier
    intro hname
  · have hknown : catalog.knowsVersioned other := by
      rwa [Catalog.knowsVersioned_of_key hfeature hkey,
        ← Catalog.knowsVersioned_of_key hfeature rfl]
    exact ⟨other, hother, hknown, baseKey_eq_of_key_eq hkey⟩
  · have hknown : catalog.knowsVersionless other := by
      rwa [Catalog.knowsVersionless_of_key hfeature hkey,
        ← Catalog.knowsVersionless_of_key hfeature rfl]
    exact ⟨other, hother, hknown, hkey⟩

theorem extends_of_otherVersion
    (hnew : IsNew catalog catalog.isValid (declared.map Text.trim) (Text.trim written) feature)
    (hversioned : feature.isVersionless = false)
    (hfirst : ((checkedNames declared).filter catalog.knowsVersioned).find?
      (baseKey · = baseKey (Text.trim written)) = some first) :
    Extends catalog tables declared written
      [(Finding.about .featureVersionConflict (Name.base (Text.trim written))).withRelated
        [first, Text.trim written]] [] [] := by
  have hversionless : catalog.knowsVersionless (Text.trim written) = false :=
    (Catalog.knowsVersionless_of_key hnew.feature rfl).trans hversioned
  obtain ⟨hmem, hknown⟩ := List.mem_filter.mp (List.mem_of_find?_eq_some hfirst)
  have hbase : baseKey first = baseKey (Text.trim written) := by simpa using List.find?_some hfirst
  apply extends_of_checked hnew.checked
  · rw [nameFindings_of_versioned hnew.feature hversioned hnew.unrepeated_checked, hfirst]
  · exact newFeature_of_earlier fun _ => ⟨first, hmem, hknown, hbase⟩
  · exact newFeature_of_other hversionless

theorem extends_of_versioned
    (hnew : IsNew catalog catalog.isValid (declared.map Text.trim) (Text.trim written) feature)
    (hversioned : feature.isVersionless = false)
    (hfirst : ∀ other ∈ checkedNames declared, catalog.knowsVersioned other →
      baseKey other ≠ baseKey (Text.trim written))
    (hrenames : Renames tables catalog.isValid (declared.map Text.trim) (Text.trim written)
      added) :
    Extends catalog tables declared written added [feature] [] := by
  have hknown : catalog.knowsVersioned (Text.trim written) := by
    rw [Catalog.knowsVersioned_of_key hnew.feature rfl, hversioned, Bool.not_false]
  have hversionless : catalog.knowsVersionless (Text.trim written) = false :=
    (Catalog.knowsVersionless_of_key hnew.feature rfl).trans hversioned
  apply extends_of_checked hnew.checked
  · rw [nameFindings_of_versioned hnew.feature hversioned hnew.unrepeated_checked,
      List.find?_eq_none.mpr, hrenames.eq_renameFindings]
    intro other hother
    obtain ⟨hmem, hother_known⟩ := List.mem_filter.mp hother
    simpa using hfirst other hmem hother_known
  · exact newFeature_of_first hknown hnew.feature hfirst
  · exact newFeature_of_other hversionless

theorem extends_of_versionless
    (hnew : IsNew catalog catalog.isValid (declared.map Text.trim) (Text.trim written) feature)
    (hversionless : feature.isVersionless)
    (hrenames : Renames tables catalog.isValid (declared.map Text.trim) (Text.trim written)
      added) :
    Extends catalog tables declared written added [] [feature] := by
  have hversioned : catalog.knowsVersioned (Text.trim written) = false := by
    rw [Catalog.knowsVersioned_of_key hnew.feature rfl, hversionless, Bool.not_true]
  have hknown : catalog.knowsVersionless (Text.trim written) :=
    (Catalog.knowsVersionless_of_key hnew.feature rfl).trans hversionless
  apply extends_of_checked hnew.checked
  · rw [nameFindings_of_versionless hnew.feature hversionless hnew.unrepeated_checked,
      hrenames.eq_renameFindings]
  · exact newFeature_of_other hversioned
  · refine newFeature_of_first hknown hnew.feature fun other hother _ hkey => ?_
    exact hnew.unrepeated_checked ⟨other, hother, hkey⟩

theorem Adds.extends (h : Adds catalog tables catalog.isValid (declared.map Text.trim)
    (Text.trim written) added features others) :
    Extends catalog tables declared written added features others := by
  cases h with
  | passedOver hunchecked =>
    constructor
    all_goals rw [of_concat, read_of_unchecked hunchecked, List.append_nil]
  | unknown hchecked hunknown =>
    apply extends_of_checked hchecked
    · rw [nameFindings, hunknown]
    · exact newFeature_of_other (by rw [Catalog.knowsVersioned, hunknown]; rfl)
    · exact newFeature_of_other (by rw [Catalog.knowsVersionless, hunknown]; rfl)
  | repeated hchecked hfeature hrepeats =>
    exact extends_of_repeated hchecked hfeature ((exists_key_isValid_iff hfeature).mp hrepeats)
  | otherVersion hnew hversioned hfirst =>
    rw [find?_isValid_versioned] at hfirst
    exact extends_of_otherVersion hnew hversioned hfirst
  | versioned hnew hversioned hfirst hrenames =>
    refine extends_of_versioned hnew hversioned (fun other hother hknown => ?_) hrenames
    obtain ⟨hmem, hchecked⟩ := List.mem_filter.mp hother
    have hvalid := isValid_iff.mpr ⟨hchecked, Catalog.knows_of_knowsVersioned hknown⟩
    exact hfirst other hmem hvalid hknown
  | versionless hnew hversionless hrenames =>
    exact extends_of_versionless hnew hversionless hrenames

/-! ## All declarations -/

theorem Reading.eq (h : Reading catalog tables catalog.isValid declared findings versioned
    versionless) :
    findings = (of catalog tables declared).findings ∧
      versioned = (of catalog tables declared).versioned ∧
      versionless = (of catalog tables declared).versionless := by
  induction h with
  | nil => exact ⟨rfl, rfl, rfl⟩
  | concat _ hadds ih =>
    obtain ⟨rfl, rfl, rfl⟩ := ih
    obtain ⟨hfindings, hversioned, hversionless⟩ := hadds.extends
    exact ⟨hfindings.symm, hversioned.symm, hversionless.symm⟩

theorem reading_of (catalog : Catalog) (tables : CompatibilityTables) (declared : List String) :
    Reading catalog tables catalog.isValid declared (of catalog tables declared).findings
      (of catalog tables declared).versioned (of catalog tables declared).versionless := by
  induction declared using List.reverseRecOn with
  | nil => exact .nil
  | append_singleton declared written ih =>
    obtain ⟨added, features, others, hadds⟩ := exists_adds catalog tables catalog.isValid
      (declared.map Text.trim) (Text.trim written)
    obtain ⟨hfindings, hversioned, hversionless⟩ := hadds.extends
    rw [hfindings, hversioned, hversionless]
    exact .concat ih hadds

theorem flagged_iff (catalog : Catalog) (tables : CompatibilityTables) (declared : List String) :
    (of catalog tables declared).flagged ↔
      ∃ finding ∈ (of catalog tables declared).findings, finding.kind ≠ .featureNotFound := by
  rw [(reads_of catalog tables declared).flagged, List.any_eq_true]
  simp only [decide_eq_true_eq]

/-- The pass finds and accepts what the rules give, and nothing else. -/
theorem featureReading_iff (catalog : Catalog) (tables : CompatibilityTables)
    (declared : List String) :
    (∀ findings versioned versionless,
      Reading catalog tables catalog.isValid declared findings versioned versionless ↔
        findings = (of catalog tables declared).findings ∧
          versioned = (of catalog tables declared).versioned ∧
          versionless = (of catalog tables declared).versionless) ∧
    ((of catalog tables declared).flagged ↔
      ∃ finding ∈ (of catalog tables declared).findings, finding.kind ≠ .featureNotFound) := by
  refine ⟨fun findings versioned versionless => ⟨Reading.eq, ?_⟩,
    flagged_iff catalog tables declared⟩
  rintro ⟨rfl, rfl, rfl⟩
  exact reading_of catalog tables declared

/-! ## Users' names -/

theorem Reading.adds_last (declared : List String) (written : String)
    (h : Reading catalog tables counts (declared ++ [written]) findings versioned versionless) :
    ∃ front added features others, findings = front ++ added ∧
      Adds catalog tables counts (declared.map Text.trim) (Text.trim written) added features
        others := by
  generalize hlist : declared ++ [written] = list at h
  cases h with
  | nil => simp at hlist
  | concat hfront hadds =>
    obtain ⟨rfl, hlast⟩ := List.append_inj' hlist rfl
    obtain rfl := (List.cons.inj hlast).1
    exact ⟨_, _, _, _, rfl, hadds⟩

/-- A catalog with a public feature under a user's name. -/
def userCatalog : Catalog := .ofFeatures [
  .named "usr:bar-1.0" .isPublic,
  .named "foo-1.0" .isPublic]

def userTables : CompatibilityTables :=
  { CompatibilityTables.standard with renamedFeatures := .ofList [("foo", "usr:bar")] }

/-- The user's feature is in the catalog and the table gives its base for the other one, but a
user's name is passed over and nothing is found. If names counted as soon as a public feature has
them, this would be a renaming. -/
theorem not_reading_of_user :
    let declared := ["usr:bar-1.0", "foo-1.0"]
    let scan := of userCatalog userTables declared
    userCatalog.knows "usr:bar-1.0" ∧
    userTables.alternateFeatureName? (baseKey "foo-1.0") = some (baseKey "usr:bar-1.0") ∧
    scan.findings = [] ∧
    ¬ Reading userCatalog userTables userCatalog.knows declared scan.findings scan.versioned
      scan.versionless := by
  have hknown : userCatalog.knows "usr:bar-1.0" := by decide +kernel
  have halternate : userTables.alternateFeatureName? (baseKey "foo-1.0") =
      some (baseKey "usr:bar-1.0") := by decide +kernel
  have hnothing : (of userCatalog userTables ["usr:bar-1.0", "foo-1.0"]).findings = [] := by
    decide +kernel
  refine ⟨hknown, halternate, hnothing, ?_⟩
  intro hreading
  obtain ⟨front, added, features, others, hfindings, hadds⟩ :=
    hreading.adds_last ["usr:bar-1.0"] "foo-1.0"
  rw [hnothing, eq_comm, List.append_eq_nil_iff] at hfindings
  rw [hfindings.2] at hadds
  have hearlier : "usr:bar-1.0" ∈ ["usr:bar-1.0"].map Text.trim := by decide +kernel
  have hname : Text.trim "foo-1.0" = "foo-1.0" := by decide +kernel
  rw [hname] at hadds
  have hrenames : ¬ Renames userTables userCatalog.knows (["usr:bar-1.0"].map Text.trim) "foo-1.0"
      [] := by
    intro h
    cases h with
    | nothing hnone => exact hnone _ hearlier hknown halternate
  cases hadds with
  | passedOver hunchecked => exact absurd hunchecked (by decide +kernel)
  | versioned _ _ _ h => exact hrenames h
  | versionless _ _ h => exact hrenames h

end FeatureScan

end FeatureCheck
