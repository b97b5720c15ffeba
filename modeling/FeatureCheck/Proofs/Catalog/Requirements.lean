import FeatureCheck.Proofs.Catalog.Enablement

/-!
# What a feature requires

In the graph of a catalog a feature stands under its own name, however it is required. So between
features the closures follow the requirements that the catalog finds, and nothing else:
`mem_allEnables_iff`, `mem_allEnabledBy_iff`.
-/

namespace FeatureCheck.Catalog

set_option autoImplicit false

open GraphChange Relation

/-- The other feature is found under one of the names that the feature requires. -/
def Requires (catalog : Catalog) (feature found : Feature) : Prop :=
  ∃ required ∈ feature.requirements, catalog.feature? required = some found

variable {catalog : Catalog} {feature other : Feature} {key name element node : String}

theorem mem_of_transGen (h : TransGen catalog.Requires feature other) :
    other ∈ catalog.features := by
  obtain ⟨last, -, required, -, hfound⟩ := TransGen.tail'_iff.mp h
  exact mem_of_feature? hfound

theorem enables_iff : catalog.Enables key feature ↔
    ∃ other, ReflTransGen catalog.Requires feature other ∧ other.Lists key := by
  constructor
  · intro h
    induction h with
    | @lists feature hlists => exact ⟨feature, .refl, hlists⟩
    | requires hrequired hfound _ ih =>
      obtain ⟨other, hpath, hlists⟩ := ih
      exact ⟨other, .head ⟨_, hrequired, hfound⟩ hpath, hlists⟩
  · rintro ⟨other, hpath, hlists⟩
    induction hpath using ReflTransGen.head_induction_on with
    | refl => exact .lists hlists
    | head hrequires _ ih =>
      obtain ⟨required, hrequired, hfound⟩ := hrequires
      exact .requires hrequired hfound ih

/-! ## Nodes -/

/-- Every mention of a feature is its name, letter by letter. -/
theorem eq_name_of_mem_featureNames (h : feature ∈ catalog.features) {change : GraphChange}
    (hchange : change ∈ catalog.changes) (hname : name ∈ change.featureNames)
    (hkey : Name.normalize name = feature.key) : name = feature.name := by
  obtain ⟨source, hsource, hmem⟩ := mem_changes.mp hchange
  have hown : name = source.name → name = feature.name := by
    rintro rfl
    rw [eq_of_key_eq hsource h hkey]
  rcases mem_featureChanges.mp hmem with rfl | ⟨required, -, rfl⟩ | ⟨listed, -, rfl⟩
  · exact hown (List.mem_singleton.mp hname)
  · simp only [featureNames, List.mem_cons, List.not_mem_nil, or_false] at hname
    rcases hname with rfl | hsource_name
    · have hfound := (normalize_requirementTarget_eq_key_iff h).mp hkey
      rw [requirementTarget, hfound, Option.elim_some]
    · exact hown hsource_name
  · exact hown (List.mem_singleton.mp hname)

theorem spelling?_key (h : feature ∈ catalog.features) :
    spelling? catalog.changes feature.key = some feature.name := by
  obtain ⟨found, hfound⟩ := Option.isSome_iff_exists.mp (isSome_spelling?_key h)
  obtain ⟨name, hfirst, rfl⟩ := Option.map_eq_some_iff.mp hfound
  have hkey : Name.normalize name = feature.key := by simpa using List.find?_some hfirst
  obtain ⟨change, hchange, hname⟩ := List.mem_flatMap.mp (List.mem_of_find?_eq_some hfirst)
  rw [hfound, eq_name_of_mem_featureNames h hchange hname hkey, feature.trim_name]

/-! ## Paths -/

theorem enables_key_iff (h : other ∈ catalog.features) :
    GraphChange.Enables catalog.changes node other.key ↔
      ∃ feature ∈ catalog.features, feature.key = node ∧ catalog.Requires feature other := by
  simp only [enables_changes_iff, normalize_requirementTarget_eq_key_iff h, Requires]

/-- A path that ends at a feature has come along features only. -/
theorem exists_of_transGen (h : other ∈ catalog.features)
    (hpath : TransGen (GraphChange.Enables catalog.changes) node other.key) :
    ∃ feature ∈ catalog.features, feature.key = node ∧
      TransGen catalog.Requires feature other := by
  induction hpath using TransGen.head_induction_on with
  | single hedge =>
    obtain ⟨feature, hfeature, hkey, hrequires⟩ := (enables_key_iff h).mp hedge
    exact ⟨feature, hfeature, hkey, .single hrequires⟩
  | head hedge _ ih =>
    obtain ⟨next, hnext, rfl, hrest⟩ := ih
    obtain ⟨feature, hfeature, hkey, hrequires⟩ := (enables_key_iff hnext).mp hedge
    exact ⟨feature, hfeature, hkey, .head hrequires hrest⟩

theorem transGen_key_iff (hfeature : feature ∈ catalog.features)
    (hother : other ∈ catalog.features) :
    TransGen (GraphChange.Enables catalog.changes) feature.key other.key ↔
      TransGen catalog.Requires feature other := by
  constructor
  · intro hpath
    obtain ⟨source, hsource, hkey, hrequires⟩ := exists_of_transGen hother hpath
    rwa [eq_of_key_eq hsource hfeature hkey] at hrequires
  · intro hpath
    induction hpath with
    | single hrequires => exact .single ((enables_key_iff hother).mpr ⟨_, hfeature, rfl, hrequires⟩)
    | tail hfront hrequires ih =>
      have hmem := mem_of_transGen hfront
      exact .tail (ih hmem) ((enables_key_iff hother).mpr ⟨_, hmem, rfl, hrequires⟩)

/-! ## The closures between features -/

theorem mem_allEnables_iff (hfeature : feature ∈ catalog.features)
    (hother : other ∈ catalog.features) :
    other.name ∈ catalog.graph.allEnables feature.name ↔
      other ≠ feature ∧ TransGen catalog.Requires feature other := by
  rw [graph_eq_ofChanges, EnablementGraph.mem_allEnables_iff, ← transGen_key_iff hfeature hother]
  constructor
  · rintro ⟨node, hne, hpath, hspelling⟩
    have hkey : other.key = node := normalize_of_spelling? hspelling
    rw [← hkey] at hne hpath
    refine ⟨?_, hpath⟩
    rintro rfl
    exact hne rfl
  · rintro ⟨hne, hpath⟩
    exact ⟨other.key, fun hkey => hne (eq_of_key_eq hother hfeature hkey), hpath,
      spelling?_key hother⟩

theorem mem_allEnabledBy_iff (hfeature : feature ∈ catalog.features)
    (hlisted : ∃ other ∈ catalog.features, other.Lists (Name.normalize element)) :
    feature.name ∈ catalog.graph.allEnabledBy element ↔
      catalog.Enables (Name.normalize element) feature := by
  rw [graph_eq_ofChanges, EnablementGraph.mem_allEnabledBy_iff_of_element catalog.changes element
    (mentionsElement_changes_iff.mpr hlisted)]
  constructor
  · rintro ⟨parent, node, hlists, hpath, hspelling⟩
    obtain ⟨source, hsource, rfl, henables⟩ := exists_path_iff.mp ⟨parent, hlists, hpath⟩
    have hkey : feature.key = source.key := normalize_of_spelling? hspelling
    rwa [eq_of_key_eq hfeature hsource hkey]
  · intro henables
    obtain ⟨parent, hlists, hpath⟩ := exists_path_iff.mpr ⟨feature, hfeature, rfl, henables⟩
    exact ⟨parent, feature.key, hlists, hpath, spelling?_key hfeature⟩

end FeatureCheck.Catalog
