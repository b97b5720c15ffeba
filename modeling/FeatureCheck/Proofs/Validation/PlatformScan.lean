import FeatureCheck.Proofs.Tables
import FeatureCheck.Proofs.Validation.Declared
import FeatureCheck.Proofs.Validation.Pass
import FeatureCheck.Validation.PlatformScan

/-!
# The platform pass, name by name

`Reads` says what the pass remembers of the names it has read and `findings_of_concat` what it
reports about one more. It finds nothing just when the platforms agree.
-/

namespace FeatureCheck

set_option autoImplicit false

/-- The finding about a platform that an earlier one excludes; `first?` gives the earlier name of a
base. -/
def exclusionFindings (tables : CompatibilityTables) (first? : String → Option String)
    (name : String) : List Finding :=
  ((tables.conflictingPlatform? (baseKey name)).bind first?).toList.map fun other =>
    (Finding.about .platformConflict name).withRelated [other, name]

def platformFindings (catalog : Catalog) (tables : CompatibilityTables) (earlier : List String)
    (name : String) : List Finding :=
  if catalog.hasPlatform name then
    if earlier.any fun other => Name.normalize other = Name.normalize name then
      [.about .platformAlreadyIncluded name]
    else match (earlier.filter catalog.hasPlatform).find? (baseKey · = baseKey name) with
      | some first =>
          [(Finding.about .platformVersionConflict (Name.base name)).withRelated [first, name]]
      | none =>
          exclusionFindings tables
            (fun base => (earlier.filter catalog.hasPlatform).find? (baseKey · = base)) name
  else
    [(Finding.about .platformNotFound name).withRelated
      (catalog.platforms.toList.filter fun platform => Name.base platform = baseKey name)]

theorem pass_of_mem_platformFindings {catalog : Catalog} {tables : CompatibilityTables}
    {earlier : List String} {name : String} {finding : Finding}
    (h : finding ∈ platformFindings catalog tables earlier name) :
    finding.kind.pass = .platforms := by
  unfold platformFindings at h
  split at h
  · split at h
    · rw [List.mem_singleton.mp h]
      rfl
    · split at h
      · rw [List.mem_singleton.mp h]
        rfl
      · obtain ⟨other, -, rfl⟩ := List.mem_map.mp h
        rfl
  · rw [List.mem_singleton.mp h]
    rfl

namespace PlatformScan

variable {catalog : Catalog} {tables : CompatibilityTables} {scan : PlatformScan}
  {known names : List String} {name : String} {finding : Finding}

/-- What the pass remembers of the known platforms that it has read. -/
structure Remembers (known : List String) (scan : PlatformScan) : Prop where
  keys : ∀ key, key ∈ scan.keys ↔ ∃ name ∈ known, Name.normalize name = key
  bases : ∀ base, scan.bases[base]? = known.find? (baseKey · = base)

theorem remembers_empty : Remembers [] empty := by
  constructor <;> simp [empty]

namespace Remembers

theorem report (h : Remembers known scan) (finding : Finding) :
    Remembers known (scan.report finding) :=
  ⟨h.keys, h.bases⟩

/-- Of a platform with the base of an earlier one at most the key is remembered. -/
theorem later (h : Remembers known scan) {keys : NameSet}
    (hkeys : ∀ key, key ∈ keys ↔ key = Name.normalize name ∨ key ∈ scan.keys)
    (hknown : ∃ other ∈ known, baseKey other = baseKey name) :
    Remembers (known ++ [name]) { scan with keys := keys } where
  keys key := by rw [exists_key_concat_iff, hkeys, h.keys]
  bases base := by rw [h.bases, find?_concat_of_exists hknown]

theorem recordBase (h : Remembers known scan)
    (hnew : ¬ ∃ other ∈ known, baseKey other = baseKey name) :
    Remembers (known ++ [name])
      (PlatformScan.recordBase tables
        { scan with keys := scan.keys.insert (Name.normalize name) } name (baseKey name)) := by
  have hnone : scan.bases[baseKey name]? = none := by
    rw [h.bases, List.find?_eq_none]
    intro other hother hbase
    exact hnew ⟨other, hother, by simpa using hbase⟩
  have hkeys : ∀ key, key ∈ scan.keys.insert (Name.normalize name) ↔
      ∃ other ∈ known ++ [name], Name.normalize other = key := by
    intro key
    rw [NameSet.mem_insert_iff, exists_key_concat_iff, h.keys]
  have hbases : ∀ base, (scan.bases.insert (baseKey name) name)[base]? =
      (known ++ [name]).find? (baseKey · = base) := by
    intro base
    rw [NameMap.getElem?_insert_of_new hnone, h.bases, find?_concat]
  dsimp only [PlatformScan.recordBase]
  split
  · exact ⟨hkeys, hbases⟩
  · exact ⟨hkeys, hbases⟩

end Remembers

theorem findings_recordBase (tables : CompatibilityTables) (scan : PlatformScan) (name : String) :
    (recordBase tables scan name (baseKey name)).findings =
      scan.findings ++ exclusionFindings tables (fun base => scan.bases[base]?) name := by
  unfold recordBase exclusionFindings
  cases (tables.conflictingPlatform? (baseKey name)).bind fun base => scan.bases[base]? with
  | none => simp
  | some other => simp [PlatformScan.report]

def Reads (catalog : Catalog) (names : List String) (scan : PlatformScan) : Prop :=
  Remembers (names.filter catalog.hasPlatform) scan

theorem hasPlatform_congr {other : String} (h : Name.normalize other = Name.normalize name) :
    catalog.hasPlatform other = catalog.hasPlatform name := by
  rw [Catalog.hasPlatform, h, Catalog.hasPlatform]

theorem readKnown_spec (h : Reads catalog names scan) (hname : catalog.hasPlatform name) :
    Reads catalog (names ++ [name]) (readKnown tables scan name) ∧
      (readKnown tables scan name).findings =
        scan.findings ++ platformFindings catalog tables names name := by
  have hknown : ∀ other, Name.normalize other = Name.normalize name → catalog.hasPlatform other :=
    fun _ hkey => (hasPlatform_congr hkey).trans hname
  have hkey : Name.normalize name ∈ scan.keys ↔
      ∃ other ∈ names, Name.normalize other = Name.normalize name :=
    (h.keys _).trans (exists_key_filter_iff hknown)
  have hfirst : scan.bases[Name.base (Name.normalize name)]? =
      (names.filter catalog.hasPlatform).find? (baseKey · = baseKey name) := h.bases _
  simp only [Reads, filter_concat, hname, if_true, readKnown, Std.ExtTreeSet.contains_iff_mem,
    hkey, platformFindings, List.any_eq_true, decide_eq_true_eq]
  by_cases hrepeat : ∃ other ∈ names, Name.normalize other = Name.normalize name
  · rw [if_pos hrepeat, if_pos hrepeat]
    have hkept := Remembers.later h (fun _ => NameSet.mem_iff_of_mem (hkey.mpr hrepeat))
      (exists_baseKey_of_key ((exists_key_filter_iff hknown).mpr hrepeat))
    exact ⟨hkept.report _, rfl⟩
  · rw [if_neg hrepeat, if_neg hrepeat, hfirst]
    cases hfound : (names.filter catalog.hasPlatform).find? (baseKey · = baseKey name) with
    | some first =>
      have hbase : baseKey first = baseKey name := by simpa using List.find?_some hfound
      have hkept := Remembers.later h (fun _ => NameSet.mem_insert_iff)
        ⟨first, List.mem_of_find?_eq_some hfound, hbase⟩
      exact ⟨hkept.report _, rfl⟩
    | none =>
      have hnew : ¬ ∃ other ∈ names.filter catalog.hasPlatform, baseKey other = baseKey name := by
        simpa using hfound
      refine ⟨Remembers.recordBase h hnew, ?_⟩
      exact (findings_recordBase tables _ name).trans (by simp only [h.bases])

theorem read_of_blank {declared : String} (h : (Text.trim declared).isEmpty) :
    read catalog tables scan declared = scan := by
  rw [read]
  exact if_pos h

theorem read_spec (h : Reads catalog names scan) {declared : String}
    (hstated : (Text.trim declared).isEmpty = false) :
    Reads catalog (names ++ [Text.trim declared]) (read catalog tables scan declared) ∧
      (read catalog tables scan declared).findings =
        scan.findings ++ platformFindings catalog tables names (Text.trim declared) := by
  simp only [read, hstated, Bool.false_eq_true, if_false]
  have hnormal : catalog.hasPlatform (Name.normalize (Text.trim declared)) =
      catalog.hasPlatform (Text.trim declared) := hasPlatform_congr (Name.normalize_normalize _)
  rw [hnormal]
  cases hname : catalog.hasPlatform (Text.trim declared) with
  | true => simpa only [if_true] using readKnown_spec h hname
  | false =>
    simp only [Reads, filter_concat, hname, Bool.false_eq_true, if_false, List.append_nil,
      platformFindings]
    exact ⟨Remembers.report h _, rfl⟩

/-! ## Reading all names -/

variable (catalog tables)

theorem of_concat (declared : List String) (name : String) :
    of catalog tables (declared ++ [name]) =
      read catalog tables (of catalog tables declared) name := by
  simp [of]

theorem reads_of (declared : List String) :
    Reads catalog (checkedPlatforms declared) (of catalog tables declared) := by
  induction declared using List.reverseRecOn with
  | nil => exact remembers_empty
  | append_singleton declared name ih =>
    rw [of_concat, checkedPlatforms_concat]
    cases hblank : (Text.trim name).isEmpty with
    | true => simpa [read_of_blank hblank] using ih
    | false => simpa using (read_spec ih hblank).1

/-- One more declaration adds the findings about its platform. -/
theorem findings_of_concat (declared : List String) (name : String) :
    (of catalog tables (declared ++ [name])).findings =
      (of catalog tables declared).findings ++
        if (Text.trim name).isEmpty then []
        else platformFindings catalog tables (checkedPlatforms declared) (Text.trim name) := by
  rw [of_concat]
  cases hblank : (Text.trim name).isEmpty with
  | true => simp [read_of_blank hblank]
  | false => simpa using (read_spec (reads_of catalog tables declared) hblank).2

theorem pass_of_mem_findings {declared : List String} {finding : Finding}
    (h : finding ∈ (of catalog tables declared).findings) : finding.kind.pass = .platforms := by
  induction declared using List.reverseRecOn with
  | nil => simp [of, empty] at h
  | append_singleton declared name ih =>
    rw [findings_of_concat, List.mem_append] at h
    rcases h with hold | hnew
    · exact ih hold
    · split at hnew
      · simp at hnew
      · exact pass_of_mem_platformFindings hnew

end PlatformScan

end FeatureCheck
