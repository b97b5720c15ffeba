import FeatureCheck.Proofs.Catalog.Lookup
import FeatureCheck.Proofs.Enablement.Integrity
import FeatureCheck.Proofs.Names
import FeatureCheck.Proofs.Validation.Declared
import FeatureCheck.Validation.FeatureScan

/-!
# Keys as names

Catalogs and graphs keep what they have under normal forms. A normal form is its own, so each key
may be looked up as if it were a name, and finds what it stands for: `FindsKeys` for a table,
`FindsItsKeys` for a graph with the keys at the ends of its edges. The base of a name is the same
whether it is taken from the name or from its key, but for white space in front of the last hyphen.
The main result is `normalForm_stable`.
-/

namespace FeatureCheck

set_option autoImplicit false

/-! ## Bases -/

section Bases

variable (name : String)

/-- What a key keeps of its base is, once trimmed, the key of the name's own base. -/
theorem trim_baseKey : Text.trim (baseKey name) = Name.normalize (Name.base (Text.trim name)) := by
  rw [baseKey, Name.base_normalize, Text.trim_lowercase, ← Name.normalize]

-- Its last sigma is a final one, and the white space in front of the hyphen is kept.
example : baseKey " ΟΔΟΣ -6.0 " = "οδος " := by decide +kernel

/-- Suggested are the public features whose keys have the base that the key of the name has. -/
theorem Catalog.replacementCandidates_eq_baseKey (catalog : Catalog) :
    catalog.replacementCandidates name =
      NameSet.ofList ((catalog.publicFeatures.filter fun feature =>
        Text.trim (baseKey feature.name) = Text.trim (baseKey name)).map (·.name)) := by
  have hbase : ∀ feature ∈ catalog.publicFeatures,
      decide (Name.normalize feature.base = Name.normalize (Name.base (Text.trim name))) =
        decide (Text.trim (baseKey feature.name) = Text.trim (baseKey name)) := by
    intro feature _
    rw [decide_eq_decide, trim_baseKey, trim_baseKey, feature.trim_name, Feature.base]
  rw [replacementCandidates, List.filter_congr hbase]

end Bases

/-! ## Tables -/

namespace NameMap

variable {α : Type} {map : NameMap α} {find? : String → Option α}

/-- The keys of a table are the normal forms of the names that find something in it, and each finds
what stands under it. -/
def FindsKeys (map : NameMap α) (find? : String → Option α) : Prop :=
  ∀ key value, map[key]? = some value ↔ Name.normalize key = key ∧ find? key = some value

/-- A table finds its keys if they are normal forms and names are looked up by theirs. -/
theorem findsKeys_of_normal
    (hkeys : ∀ key value, map[key]? = some value → Name.normalize key = key)
    (hfind : ∀ name, find? name = map[Name.normalize name]?) : map.FindsKeys find? := by
  intro key value
  constructor
  · intro hvalue
    have hkey := hkeys key value hvalue
    exact ⟨hkey, by rw [hfind, hkey, hvalue]⟩
  · rintro ⟨hkey, hvalue⟩
    rwa [hfind, hkey] at hvalue

theorem FindsKeys.mem_iff (h : map.FindsKeys find?) (key : String) :
    key ∈ map ↔ Name.normalize key = key ∧ (find? key).isSome := by
  rw [Std.ExtTreeMap.mem_iff_isSome_getElem?, Option.isSome_iff_exists, Option.isSome_iff_exists]
  simp only [h key, exists_and_left]

end NameMap

theorem Feature.normalize_of_mem_keys {feature : Feature} {key : String}
    (h : key ∈ feature.keys) : Name.normalize key = key := by
  rw [keys, List.mem_cons, Option.mem_toList, Option.map_eq_some_iff] at h
  rcases h with rfl | ⟨name, -, rfl⟩
  · exact Name.normalize_normalize feature.name
  · exact Name.normalize_normalize name

theorem Catalog.findsKeys_index (catalog : Catalog) :
    catalog.index.FindsKeys catalog.feature? := by
  refine NameMap.findsKeys_of_normal ?_ fun _ => rfl
  intro key feature hfeature
  rw [catalog.index_eq, getElem?_indexOf] at hfeature
  have hkey := List.find?_some hfeature
  exact Feature.normalize_of_mem_keys (List.contains_iff_mem.mp hkey)

/-! ## Graphs -/

namespace EnablementGraph

/-- A key by which the graph means a feature: that of a node, or one at an end of an edge. -/
inductive HasFeatureKey (graph : EnablementGraph) (key : String) : Prop
  | node (h : key ∈ graph.features)
  | enabled {parent : String} (h : key ∈ graph.adjacent (·.enables) parent)
  | enabling {child : String} (h : key ∈ graph.adjacent (·.enabledBy) child)
  | enabler {element : String} (h : key ∈ graph.enablers element)

/-- A key by which the graph means a config element. -/
inductive HasElementKey (graph : EnablementGraph) (key : String) : Prop
  | node (h : key ∈ graph.elements)
  | enabled {parent : String} (h : key ∈ graph.adjacent (·.configElements) parent)

/-- Every key that the graph has finds its node when it is taken for a name. -/
structure FindsItsKeys (graph : EnablementGraph) : Prop where
  features : graph.features.FindsKeys graph.feature?
  elements : graph.elements.FindsKeys graph.element?
  hasFeatureKey_iff : ∀ key, graph.HasFeatureKey key ↔
    Name.normalize key = key ∧ (graph.feature? key).isSome
  hasElementKey_iff : ∀ key, graph.HasElementKey key ↔
    Name.normalize key = key ∧ (graph.element? key).isSome

end EnablementGraph

namespace EnablementGraph.WellFormed

variable {graph : EnablementGraph} {key : String}

/-- Edges lead to nodes. -/
theorem mem_features_of_hasFeatureKey (h : graph.WellFormed) (hkey : graph.HasFeatureKey key) :
    key ∈ graph.features := by
  cases hkey with
  | node hnode => exact hnode
  | enabled hedge => exact h.enables_mem _ _ hedge
  | enabling hedge => exact h.enabledBy_mem _ _ hedge
  | enabler hedge => exact h.enablers_mem _ _ hedge

theorem mem_elements_of_hasElementKey (h : graph.WellFormed) (hkey : graph.HasElementKey key) :
    key ∈ graph.elements := by
  cases hkey with
  | node hnode => exact hnode
  | enabled hedge => exact h.configElements_mem _ _ hedge

theorem findsKeys_features (h : graph.WellFormed) :
    graph.features.FindsKeys graph.feature? := by
  refine NameMap.findsKeys_of_normal ?_ fun _ => rfl
  intro key node hnode
  rw [← h.feature_key key node hnode, Name.normalize_normalize]

theorem findsKeys_elements (h : graph.WellFormed) :
    graph.elements.FindsKeys graph.element? := by
  refine NameMap.findsKeys_of_normal ?_ fun _ => rfl
  intro key node hnode
  rw [← h.element_key key node hnode, Name.normalize_normalize]

theorem findsItsKeys (h : graph.WellFormed) : graph.FindsItsKeys where
  features := h.findsKeys_features
  elements := h.findsKeys_elements
  hasFeatureKey_iff key := by
    rw [← h.findsKeys_features.mem_iff]
    exact ⟨h.mem_features_of_hasFeatureKey, .node⟩
  hasElementKey_iff key := by
    rw [← h.findsKeys_elements.mem_iff]
    exact ⟨h.mem_elements_of_hasElementKey, .node⟩

/-- A catalog finds the same under a key of the graph and under the name of its node. -/
theorem feature?_getD_name? (h : graph.WellFormed) (catalog : Catalog) (key : String) :
    catalog.feature? ((graph.name? key).getD key) = catalog.feature? key := by
  cases hname : graph.name? key with
  | none => rfl
  | some name =>
    obtain ⟨node, hnode, rfl⟩ := Option.map_eq_some_iff.mp hname
    rw [Option.getD_some, ← Catalog.feature?_normalize, h.feature_key key node hnode]

end EnablementGraph.WellFormed

/-! ## Names, keys and bases -/

/-- What may be done to a name in either order, and what a key may be used for again. -/
theorem normalForm_stable (name : String) (catalog : Catalog) (changes : List GraphChange) :
    Name.normalize (Name.normalize name) = Name.normalize name ∧
    catalog.index.FindsKeys catalog.feature? ∧
    (EnablementGraph.ofChanges changes).FindsItsKeys ∧
    (∀ key, catalog.feature? (((EnablementGraph.ofChanges changes).name? key).getD key) =
      catalog.feature? key) ∧
    Text.trim (Text.lowercase name) = Text.lowercase (Text.trim name) ∧
    Text.trim (Name.base (Name.normalize name)) = Name.normalize (Name.base (Text.trim name)) ∧
    catalog.replacementCandidates name =
      NameSet.ofList ((catalog.publicFeatures.filter fun feature =>
        Text.trim (baseKey feature.name) = Text.trim (baseKey name)).map (·.name)) ∧
    ((Name.version? name).isSome ↔ '-' ∈ name.toList) ∧
    ∀ version, Name.version? name = some version ↔
      name = Name.base name ++ "-" ++ version ∧ '-' ∉ version.toList := by
  have hgraph := EnablementGraph.wellFormed_ofChanges changes
  exact ⟨Name.normalize_normalize name, catalog.findsKeys_index, hgraph.findsItsKeys,
    hgraph.feature?_getD_name? catalog, Text.trim_lowercase name, trim_baseKey name,
    catalog.replacementCandidates_eq_baseKey name, Name.isSome_version?_iff,
    fun _ => Name.version?_eq_some_iff⟩

end FeatureCheck
