import FeatureCheck.Proofs.FirstOfEach
import FeatureCheck.Proofs.Validation.Declared
import FeatureCheck.Proofs.Validation.Pass
import FeatureCheck.Validation.FeatureScan

/-!
# The feature pass, name by name

`Reads` says what the pass remembers of the names it has read, whatever was wrong with them.
`findings_of_concat` says what it reports about one more.
-/

namespace FeatureCheck

set_option autoImplicit false

/-- The finding about a name that renames an earlier one; `first?` gives the earlier name of a
base. -/
def renameFindings (tables : CompatibilityTables) (first? : String → Option String)
    (name : String) : List Finding :=
  ((tables.alternateFeatureName? (baseKey name)).bind first?).toList.map fun other =>
    (Finding.about .featureRenamed name).withRelated [other]

def nameFindings (catalog : Catalog) (tables : CompatibilityTables) (earlier : List String)
    (name : String) : List Finding :=
  match catalog.publicFeature? name with
  | none =>
      [(Finding.about .featureNotFound name).withRelated
        (catalog.replacementCandidates name).toList]
  | some feature =>
      if earlier.any fun other => Name.normalize other = Name.normalize name then
        [.about .featureAlreadyIncluded name]
      else
        let first? := if feature.isVersionless then none
          else (earlier.filter catalog.knowsVersioned).find? (baseKey · = baseKey name)
        match first? with
        | some first =>
            [(Finding.about .featureVersionConflict (Name.base name)).withRelated [first, name]]
        | none =>
            renameFindings tables
              (fun base => (earlier.filter catalog.knows).find? (baseKey · = base)) name

theorem kind_of_mem_renameFindings {tables : CompatibilityTables}
    {first? : String → Option String} {name : String} {finding : Finding}
    (h : finding ∈ renameFindings tables first? name) : finding.kind = .featureRenamed := by
  obtain ⟨other, -, rfl⟩ := List.mem_map.mp h
  rfl

theorem pass_of_mem_nameFindings {catalog : Catalog} {tables : CompatibilityTables}
    {earlier : List String} {name : String} {finding : Finding}
    (h : finding ∈ nameFindings catalog tables earlier name) : finding.kind.pass = .features := by
  unfold nameFindings at h
  split at h
  · rw [List.mem_singleton.mp h]
    rfl
  · split at h
    · rw [List.mem_singleton.mp h]
      rfl
    · dsimp only at h
      split at h
      · rw [List.mem_singleton.mp h]
        rfl
      · rw [kind_of_mem_renameFindings h]
        rfl

namespace FeatureScan

variable {catalog : Catalog} {tables : CompatibilityTables} {scan : FeatureScan}
  {versioned versionless known : List String} {name : String} {finding : Finding}

/-- What the pass remembers of the versioned, the versionless and all the known names that it has
read. -/
structure Remembers (catalog : Catalog) (versioned versionless known : List String)
    (scan : FeatureScan) : Prop where
  versionedKeys : ∀ key, key ∈ scan.versionedKeys ↔ ∃ name ∈ versioned, Name.normalize name = key
  versionlessKeys : ∀ key, key ∈ scan.versionlessKeys ↔
    ∃ name ∈ versionless, Name.normalize name = key
  versionedBases : ∀ base, scan.versionedBases[base]? = versioned.find? (baseKey · = base)
  bases : ∀ base, scan.bases[base]? = known.find? (baseKey · = base)
  versioned : scan.versioned = (firstOfEach baseKey versioned).filterMap catalog.publicFeature?
  versionless : scan.versionless =
    (firstOfEach Name.normalize versionless).filterMap catalog.publicFeature?
  flagged : scan.flagged = scan.findings.any (·.kind ≠ .featureNotFound)

theorem remembers_empty : Remembers catalog [] [] [] empty := by
  constructor <;> simp [empty, firstOfEach]

namespace Remembers

theorem report (h : Remembers catalog versioned versionless known scan)
    (hkind : finding.kind = .featureNotFound) :
    Remembers catalog versioned versionless known (scan.report finding) where
  versionedKeys := h.versionedKeys
  versionlessKeys := h.versionlessKeys
  versionedBases := h.versionedBases
  bases := h.bases
  versioned := h.versioned
  versionless := h.versionless
  flagged := by
    have hflagged := h.flagged
    simpa [FeatureScan.report, hkind] using hflagged

theorem flag (h : Remembers catalog versioned versionless known scan)
    (hkind : finding.kind ≠ .featureNotFound) :
    Remembers catalog versioned versionless known (scan.flag finding) where
  versionedKeys := h.versionedKeys
  versionlessKeys := h.versionlessKeys
  versionedBases := h.versionedBases
  bases := h.bases
  versioned := h.versioned
  versionless := h.versionless
  flagged := by simp [FeatureScan.flag, FeatureScan.report, hkind]

/-- A name that repeats an earlier one changes nothing that is remembered. -/
theorem repeated_versionless (h : Remembers catalog versioned versionless known scan)
    (hversionless : ∃ other ∈ versionless, Name.normalize other = Name.normalize name)
    (hknown : ∃ other ∈ known, baseKey other = baseKey name) :
    Remembers catalog versioned (versionless ++ [name]) (known ++ [name]) scan where
  versionedKeys := h.versionedKeys
  versionlessKeys key := by
    rw [exists_key_concat_iff, h.versionlessKeys, or_iff_right_of_imp]
    intro heq
    rw [heq]
    exact hversionless
  versionedBases := h.versionedBases
  bases base := by rw [h.bases, find?_concat_of_exists hknown]
  versioned := h.versioned
  versionless := by rw [h.versionless, firstOfEach_concat, if_pos hversionless, List.append_nil]
  flagged := h.flagged

/-- Of a versioned name with the base of an earlier one at most the key is remembered. -/
theorem later_versioned (h : Remembers catalog versioned versionless known scan) {keys : NameSet}
    (hkeys : ∀ key, key ∈ keys ↔ key = Name.normalize name ∨ key ∈ scan.versionedKeys)
    (hversioned : ∃ other ∈ versioned, baseKey other = baseKey name)
    (hknown : ∃ other ∈ known, baseKey other = baseKey name) :
    Remembers catalog (versioned ++ [name]) versionless (known ++ [name])
      { scan with versionedKeys := keys } where
  versionedKeys key := by rw [exists_key_concat_iff, hkeys, h.versionedKeys]
  versionlessKeys := h.versionlessKeys
  versionedBases base := by rw [h.versionedBases, find?_concat_of_exists hversioned]
  bases base := by rw [h.bases, find?_concat_of_exists hknown]
  versioned := by rw [h.versioned, firstOfEach_concat, if_pos hversioned, List.append_nil]
  versionless := h.versionless
  flagged := h.flagged

theorem accept_versionless (h : Remembers catalog versioned versionless known scan)
    {feature : Feature} (hfeature : catalog.publicFeature? name = some feature)
    (hnew : ¬ ∃ other ∈ versionless, Name.normalize other = Name.normalize name) :
    Remembers catalog versioned (versionless ++ [name]) known
      { scan with
        versionlessKeys := scan.versionlessKeys.insert (Name.normalize name)
        versionless := scan.versionless ++ [feature] } where
  versionedKeys := h.versionedKeys
  versionlessKeys key := by
    rw [NameSet.mem_insert_iff, exists_key_concat_iff, h.versionlessKeys]
  versionedBases := h.versionedBases
  bases := h.bases
  versioned := h.versioned
  versionless := by
    rw [firstOfEach_concat, if_neg hnew, List.filterMap_append, h.versionless]
    simp [hfeature]
  flagged := h.flagged

theorem accept_versioned (h : Remembers catalog versioned versionless known scan)
    {feature : Feature} (hfeature : catalog.publicFeature? name = some feature)
    (hnew : ¬ ∃ other ∈ versioned, baseKey other = baseKey name) :
    Remembers catalog (versioned ++ [name]) versionless known
      { scan with
        versionedKeys := scan.versionedKeys.insert (Name.normalize name)
        versionedBases := scan.versionedBases.insert (baseKey name) name
        versioned := scan.versioned ++ [feature] } where
  versionedKeys key := by rw [NameSet.mem_insert_iff, exists_key_concat_iff, h.versionedKeys]
  versionlessKeys := h.versionlessKeys
  versionedBases base := by
    have hnone : scan.versionedBases[baseKey name]? = none := by
      rw [h.versionedBases, List.find?_eq_none]
      intro other hother hbase
      exact hnew ⟨other, hother, by simpa using hbase⟩
    rw [NameMap.getElem?_insert_of_new hnone, h.versionedBases, find?_concat]
  bases := h.bases
  versioned := by
    rw [firstOfEach_concat, if_neg hnew, List.filterMap_append, h.versioned]
    simp [hfeature]
  versionless := h.versionless
  flagged := h.flagged

theorem recordBase (h : Remembers catalog versioned versionless known scan) :
    Remembers catalog versioned versionless (known ++ [name])
      (FeatureScan.recordBase tables scan name) := by
  have hbases : ∀ scan : FeatureScan, Remembers catalog versioned versionless known scan →
      Remembers catalog versioned versionless (known ++ [name])
        { scan with bases := scan.bases.insertIfNew (baseKey name) name } := by
    intro scan h
    refine { h with bases := ?_ }
    intro base
    rw [NameMap.getElem?_insertIfNew, h.bases, find?_concat]
  unfold FeatureScan.recordBase
  apply hbases
  split
  · exact h.flag (by simp)
  · exact h

end Remembers

theorem findings_recordBase (tables : CompatibilityTables) (scan : FeatureScan) (name : String) :
    (recordBase tables scan name).findings =
      scan.findings ++ renameFindings tables (fun base => scan.bases[base]?) name := by
  unfold recordBase renameFindings baseKey
  cases hother : (tables.alternateFeatureName? (Name.base (Name.normalize name))).bind
    fun base => scan.bases[base]? with
  | none => simp [hother]
  | some other => simp [hother, flag, report]

/-! ## Reading a name -/

def Reads (catalog : Catalog) (names : List String) (scan : FeatureScan) : Prop :=
  Remembers catalog (names.filter catalog.knowsVersioned) (names.filter catalog.knowsVersionless)
    (names.filter catalog.knows) scan

variable {names : List String} {feature : Feature}

theorem nameFindings_of_repeated (hfeature : catalog.publicFeature? name = some feature)
    (h : ∃ other ∈ names, Name.normalize other = Name.normalize name) :
    nameFindings catalog tables names name = [.about .featureAlreadyIncluded name] := by
  rw [nameFindings, hfeature]
  simp only
  rw [if_pos]
  simpa using h

theorem nameFindings_of_versionless (hfeature : catalog.publicFeature? name = some feature)
    (hversion : feature.isVersionless)
    (h : ¬ ∃ other ∈ names, Name.normalize other = Name.normalize name) :
    nameFindings catalog tables names name =
      renameFindings tables
        (fun base => (names.filter catalog.knows).find? (baseKey · = base)) name := by
  rw [nameFindings, hfeature]
  simp only [hversion, if_true]
  rw [if_neg]
  simpa using h

theorem nameFindings_of_versioned (hfeature : catalog.publicFeature? name = some feature)
    (hversion : feature.isVersionless = false)
    (h : ¬ ∃ other ∈ names, Name.normalize other = Name.normalize name) :
    nameFindings catalog tables names name =
      match (names.filter catalog.knowsVersioned).find? (baseKey · = baseKey name) with
      | some first =>
          [(Finding.about .featureVersionConflict (Name.base name)).withRelated [first, name]]
      | none =>
          renameFindings tables
            (fun base => (names.filter catalog.knows).find? (baseKey · = base)) name := by
  rw [nameFindings, hfeature]
  simp only [hversion, Bool.false_eq_true, if_false]
  rw [if_neg]
  simpa using h

theorem readVersionless_spec (h : Reads catalog names scan)
    (hfeature : catalog.publicFeature? name = some feature) (hversion : feature.isVersionless) :
    Reads catalog (names ++ [name]) (readVersionless tables scan name feature) ∧
      (readVersionless tables scan name feature).findings =
        scan.findings ++ nameFindings catalog tables names name := by
  have hknows : ∀ other, Name.normalize other = Name.normalize name → catalog.knows other :=
    fun _ hkey => Catalog.knows_of_key hfeature hkey
  have hversionless : ∀ other, Name.normalize other = Name.normalize name →
      catalog.knowsVersionless other :=
    fun _ hkey => (Catalog.knowsVersionless_of_key hfeature hkey).trans hversion
  have hversioned : catalog.knowsVersioned name = false := by
    rw [Catalog.knowsVersioned_of_key hfeature rfl, hversion, Bool.not_true]
  -- The key of the name is kept if and only if an earlier name has it.
  have hkey : Name.normalize name ∈ scan.versionlessKeys ↔
      ∃ other ∈ names, Name.normalize other = Name.normalize name :=
    (h.versionlessKeys _).trans (exists_key_filter_iff hversionless)
  simp only [Reads, filter_concat, hknows name rfl, hversionless name rfl, hversioned, if_true,
    Bool.false_eq_true, if_false, List.append_nil, readVersionless,
    Std.ExtTreeSet.contains_iff_mem, hkey]
  by_cases hrepeat : ∃ other ∈ names, Name.normalize other = Name.normalize name
  · rw [if_pos hrepeat, nameFindings_of_repeated hfeature hrepeat]
    have hkept := Remembers.repeated_versionless h
      ((exists_key_filter_iff hversionless).mpr hrepeat)
      (exists_baseKey_of_key ((exists_key_filter_iff hknows).mpr hrepeat))
    exact ⟨hkept.flag (by simp), rfl⟩
  · rw [if_neg hrepeat, nameFindings_of_versionless hfeature hversion hrepeat]
    have hnew := mt (exists_key_filter_iff hversionless).mp hrepeat
    have haccepted := Remembers.accept_versionless h hfeature hnew
    refine ⟨haccepted.recordBase, ?_⟩
    rw [findings_recordBase]
    simp only [h.bases]

theorem readVersioned_spec (h : Reads catalog names scan)
    (hfeature : catalog.publicFeature? name = some feature)
    (hversion : feature.isVersionless = false) :
    Reads catalog (names ++ [name]) (readVersioned tables scan name feature) ∧
      (readVersioned tables scan name feature).findings =
        scan.findings ++ nameFindings catalog tables names name := by
  have hknows : ∀ other, Name.normalize other = Name.normalize name → catalog.knows other :=
    fun _ hkey => Catalog.knows_of_key hfeature hkey
  have hversioned : ∀ other, Name.normalize other = Name.normalize name →
      catalog.knowsVersioned other := by
    intro other hkey
    rw [Catalog.knowsVersioned_of_key hfeature hkey, hversion, Bool.not_false]
  have hversionless : catalog.knowsVersionless name = false :=
    (Catalog.knowsVersionless_of_key hfeature rfl).trans hversion
  -- The key of the name is kept if and only if an earlier name has it.
  have hkey : Name.normalize name ∈ scan.versionedKeys ↔
      ∃ other ∈ names, Name.normalize other = Name.normalize name :=
    (h.versionedKeys _).trans (exists_key_filter_iff hversioned)
  simp only [Reads, filter_concat, hknows name rfl, hversioned name rfl, hversionless, if_true,
    Bool.false_eq_true, if_false, List.append_nil, readVersioned,
    Std.ExtTreeSet.contains_iff_mem, hkey]
  by_cases hrepeat : ∃ other ∈ names, Name.normalize other = Name.normalize name
  · rw [if_pos hrepeat, nameFindings_of_repeated hfeature hrepeat]
    have hkept := Remembers.later_versioned h (fun _ => NameSet.mem_iff_of_mem (hkey.mpr hrepeat))
      (exists_baseKey_of_key ((exists_key_filter_iff hversioned).mpr hrepeat))
      (exists_baseKey_of_key ((exists_key_filter_iff hknows).mpr hrepeat))
    exact ⟨hkept.flag (by simp), rfl⟩
  · rw [if_neg hrepeat, nameFindings_of_versioned hfeature hversion hrepeat]
    have hfirst : scan.versionedBases[Name.base (Name.normalize name)]? =
        (names.filter catalog.knowsVersioned).find? (baseKey · = baseKey name) :=
      h.versionedBases _
    rw [hfirst]
    cases hfound : (names.filter catalog.knowsVersioned).find? (baseKey · = baseKey name) with
    | some first =>
      have hmem := List.mem_of_find?_eq_some hfound
      have hbase : baseKey first = baseKey name := by simpa using List.find?_some hfound
      have hknown : first ∈ names.filter catalog.knows := by
        obtain ⟨hdeclared, hcond⟩ := List.mem_filter.mp hmem
        exact List.mem_filter.mpr ⟨hdeclared, Catalog.knows_of_knowsVersioned hcond⟩
      have hkept := Remembers.later_versioned h (fun _ => NameSet.mem_insert_iff)
        ⟨first, hmem, hbase⟩ ⟨first, hknown, hbase⟩
      exact ⟨hkept.flag (by simp), rfl⟩
    | none =>
      have hnew : ¬ ∃ other ∈ names.filter catalog.knowsVersioned,
          baseKey other = baseKey name := by
        simpa using hfound
      have haccepted := Remembers.accept_versioned h hfeature hnew
      refine ⟨haccepted.recordBase, ?_⟩
      rw [findings_recordBase]
      simp only [h.bases]

theorem read_of_unchecked {declared : String} (h : isChecked (Text.trim declared) = false) :
    read catalog tables scan declared = scan := by
  rw [isChecked, Bool.not_eq_false'] at h
  rw [read]
  exact if_pos h

theorem read_spec (h : Reads catalog names scan) {declared : String}
    (hchecked : isChecked (Text.trim declared)) :
    Reads catalog (names ++ [Text.trim declared]) (read catalog tables scan declared) ∧
      (read catalog tables scan declared).findings =
        scan.findings ++ nameFindings catalog tables names (Text.trim declared) := by
  rw [isChecked, Bool.not_eq_true'] at hchecked
  simp only [read, hchecked, Bool.false_eq_true, if_false]
  cases hfeature : catalog.publicFeature? (Text.trim declared) with
  | none =>
    have hknows : catalog.knows (Text.trim declared) = false := by simp [Catalog.knows, hfeature]
    have hversioned : catalog.knowsVersioned (Text.trim declared) = false := by
      simp [Catalog.knowsVersioned, hfeature]
    have hversionless : catalog.knowsVersionless (Text.trim declared) = false := by
      simp [Catalog.knowsVersionless, hfeature]
    simp only [Reads, filter_concat, hknows, hversioned, hversionless, Bool.false_eq_true,
      if_false, List.append_nil, nameFindings, hfeature]
    exact ⟨Remembers.report h rfl, rfl⟩
  | some feature =>
    cases hversion : feature.isVersionless with
    | true => simpa only [hversion, if_true] using readVersionless_spec h hfeature hversion
    | false =>
      simpa only [hversion, Bool.false_eq_true, if_false] using
        readVersioned_spec h hfeature hversion

/-! ## Reading all names -/

variable (catalog tables)

theorem of_concat (declared : List String) (name : String) :
    of catalog tables (declared ++ [name]) =
      read catalog tables (of catalog tables declared) name := by
  simp [of]

theorem reads_of (declared : List String) :
    Reads catalog (checkedNames declared) (of catalog tables declared) := by
  induction declared using List.reverseRecOn with
  | nil => exact remembers_empty
  | append_singleton declared name ih =>
    rw [of_concat, checkedNames_concat]
    cases hchecked : isChecked (Text.trim name) with
    | false => simpa [read_of_unchecked hchecked] using ih
    | true => simpa using (read_spec ih hchecked).1

/-- One more declaration adds the findings about its name. -/
theorem findings_of_concat (declared : List String) (name : String) :
    (of catalog tables (declared ++ [name])).findings =
      (of catalog tables declared).findings ++
        if isChecked (Text.trim name) then
          nameFindings catalog tables (checkedNames declared) (Text.trim name)
        else [] := by
  rw [of_concat]
  cases hchecked : isChecked (Text.trim name) with
  | false => simp [read_of_unchecked hchecked]
  | true => simpa using (read_spec (reads_of catalog tables declared) hchecked).2

theorem pass_of_mem_findings {declared : List String} {finding : Finding}
    (h : finding ∈ (of catalog tables declared).findings) : finding.kind.pass = .features := by
  induction declared using List.reverseRecOn with
  | nil => simp [of, empty] at h
  | append_singleton declared name ih =>
    rw [findings_of_concat, List.mem_append] at h
    rcases h with hold | hnew
    · exact ih hold
    · split at hnew
      · exact pass_of_mem_nameFindings hnew
      · simp at hnew

end FeatureScan

end FeatureCheck
