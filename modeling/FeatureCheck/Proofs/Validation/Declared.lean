import FeatureCheck.Catalog.Basic
import FeatureCheck.Proofs.FirstOfEach
import FeatureCheck.Proofs.Tables

/-!
# Declared names

The names that the passes look at, and what a catalog knows about a name. Names with one normal
form are known as the same feature.
-/

namespace FeatureCheck

set_option autoImplicit false

/-- The key of a name without its version. -/
def baseKey (name : String) : String :=
  Name.base (Name.normalize name)

/-- A feature name that is looked at: it is neither blank nor a user's. -/
def isChecked (name : String) : Bool :=
  !(name.isEmpty || Name.isUser name)

def checkedNames (declared : List String) : List String :=
  (declared.map Text.trim).filter isChecked

/-- The platform names that are looked at: blank ones are not. -/
def checkedPlatforms (declared : List String) : List String :=
  (declared.map Text.trim).filter (!·.isEmpty)

namespace Catalog

variable (catalog : Catalog) (name : String)

/-- A public feature has the name. -/
def knows : Bool :=
  (catalog.publicFeature? name).isSome

def knowsVersioned : Bool :=
  (catalog.publicFeature? name).any (!·.isVersionless)

def knowsVersionless : Bool :=
  (catalog.publicFeature? name).any (·.isVersionless)

variable {catalog name} {other : String} {feature : Feature}

theorem publicFeature?_congr (h : Name.normalize other = Name.normalize name) :
    catalog.publicFeature? other = catalog.publicFeature? name := by
  rw [publicFeature?, feature?, h, publicFeature?, feature?]

theorem knows_of_key (hfeature : catalog.publicFeature? name = some feature)
    (hkey : Name.normalize other = Name.normalize name) : catalog.knows other = true := by
  rw [knows, publicFeature?_congr hkey, hfeature]
  rfl

theorem knowsVersioned_of_key (hfeature : catalog.publicFeature? name = some feature)
    (hkey : Name.normalize other = Name.normalize name) :
    catalog.knowsVersioned other = !feature.isVersionless := by
  rw [knowsVersioned, publicFeature?_congr hkey, hfeature]
  rfl

theorem knowsVersionless_of_key (hfeature : catalog.publicFeature? name = some feature)
    (hkey : Name.normalize other = Name.normalize name) :
    catalog.knowsVersionless other = feature.isVersionless := by
  rw [knowsVersionless, publicFeature?_congr hkey, hfeature]
  rfl

theorem knows_of_knowsVersioned (h : catalog.knowsVersioned name) : catalog.knows name := by
  cases hfeature : catalog.publicFeature? name with
  | none => simp [knowsVersioned, hfeature] at h
  | some feature => simp [knows, hfeature]

end Catalog

theorem checkedNames_concat (declared : List String) (name : String) :
    checkedNames (declared ++ [name]) =
      checkedNames declared ++ if isChecked (Text.trim name) then [Text.trim name] else [] := by
  rw [checkedNames, List.map_append, List.map_singleton, filter_concat, checkedNames]

theorem checkedPlatforms_concat (declared : List String) (name : String) :
    checkedPlatforms (declared ++ [name]) =
      checkedPlatforms declared ++
        if !(Text.trim name).isEmpty then [Text.trim name] else [] := by
  rw [checkedPlatforms, List.map_append, List.map_singleton, filter_concat, checkedPlatforms]

/-! ## Names after others -/

section Concat

variable {names : List String} {name other : String}

theorem filter_and (p q : String → Bool) (names : List String) :
    names.filter (fun name => p name && q name) = (names.filter p).filter q := by
  rw [List.filter_filter]
  exact List.filter_congr fun name _ => Bool.and_comm (p name) (q name)

theorem find?_and (p q : String → Bool) (names : List String) :
    names.find? (fun name => p name && q name) = (names.filter p).find? q := by
  rw [List.find?_filter]
  simp only [Bool.decide_and, Bool.decide_eq_true]

/-- The first name of a base that may be given. -/
theorem bind_find?_baseKey (base? : Option String) (names : List String) :
    (base?.bind fun base => names.find? (baseKey · = base)) =
      names.find? fun name => base? = some (baseKey name) := by
  cases base? with
  | none => exact (List.find?_eq_none.mpr (by simp)).symm
  | some base =>
    have hsame : ∀ name, (baseKey name = base) = (some base = some (baseKey name)) := by
      intro name
      rw [Option.some.injEq]
      exact propext eq_comm
    simp only [Option.bind_some, hsame]

/-- A name whose base came earlier is not the first of its base. -/
theorem find?_concat_of_exists {base : String}
    (h : ∃ other ∈ names, baseKey other = baseKey name) :
    (names ++ [name]).find? (baseKey · = base) = names.find? (baseKey · = base) := by
  rw [List.find?_append]
  by_cases hbase : baseKey name = base
  · obtain ⟨other, hother, heq⟩ := h
    have hsome : (names.find? (baseKey · = base)).isSome :=
      List.find?_isSome.mpr ⟨other, hother, by simp [heq, hbase]⟩
    rw [Option.or_of_isSome hsome]
  · simp [hbase]

theorem find?_concat (names : List String) (name base : String) :
    (names ++ [name]).find? (baseKey · = base) =
      (names.find? (baseKey · = base)).or (if baseKey name = base then some name else none) := by
  simp [List.find?_append]

theorem exists_key_concat_iff {key : String} :
    (∃ other ∈ names ++ [name], Name.normalize other = key) ↔
      key = Name.normalize name ∨ ∃ other ∈ names, Name.normalize other = key := by
  simp [or_and_right, exists_or, or_comm, eq_comm]

/-- Where names of one key are alike, an earlier one is among those picked out. -/
theorem exists_key_filter_iff {p : String → Bool}
    (hp : ∀ other, Name.normalize other = Name.normalize name → p other) :
    (∃ other ∈ names.filter p, Name.normalize other = Name.normalize name) ↔
      ∃ other ∈ names, Name.normalize other = Name.normalize name := by
  constructor
  · intro hexists
    obtain ⟨other, hother, hkey⟩ := hexists
    exact ⟨other, (List.mem_filter.mp hother).1, hkey⟩
  · intro hexists
    obtain ⟨other, hother, hkey⟩ := hexists
    exact ⟨other, List.mem_filter.mpr ⟨hother, hp other hkey⟩, hkey⟩

theorem baseKey_eq_of_key_eq (h : Name.normalize other = Name.normalize name) :
    baseKey other = baseKey name := by
  rw [baseKey, h, baseKey]

theorem exists_baseKey_of_key (h : ∃ other ∈ names, Name.normalize other = Name.normalize name) :
    ∃ other ∈ names, baseKey other = baseKey name := by
  obtain ⟨other, hother, hkey⟩ := h
  exact ⟨other, hother, baseKey_eq_of_key_eq hkey⟩

/-- An earlier name is found under the counterpart of a base just when it has it. -/
theorem find?_counterpart?_eq_none_iff_forall {table : NameMap String} :
    ((counterpart? table (baseKey name)).bind fun base => names.find? (baseKey · = base)) = none ↔
      ∀ other ∈ names, counterpart? table (baseKey name) ≠ some (baseKey other) := by
  rw [Option.bind_eq_none_iff]
  constructor
  · intro h other hother hfound
    have hnone := h (baseKey other) hfound
    simpa using List.find?_eq_none.mp hnone other hother
  · intro h base hbase
    refine List.find?_eq_none.mpr ?_
    intro other hother heq
    rw [← of_decide_eq_true heq] at hbase
    exact h other hother hbase

theorem find?_counterpart?_eq_none_iff {table : NameMap String} (htable : Unambiguous table) :
    ((counterpart? table (baseKey name)).bind fun base => names.find? (baseKey · = base)) = none ↔
      ∀ other ∈ names, ¬ Counterparts table (baseKey other) (baseKey name) := by
  have hfound : ∀ base, counterpart? table (baseKey name) = some base ↔
      Counterparts table (baseKey name) base :=
    fun base => counterpart?_eq_some_iff htable (Name.map_toLower_base_normalize name)
  rw [find?_counterpart?_eq_none_iff_forall]
  refine forall₂_congr fun other _ => not_congr ?_
  rw [hfound]
  exact ⟨Counterparts.symm, Counterparts.symm⟩

end Concat

end FeatureCheck
