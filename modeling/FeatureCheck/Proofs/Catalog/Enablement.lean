import FeatureCheck.Catalog.Loaded
import FeatureCheck.Proofs.Catalog.Lookup
import FeatureCheck.Proofs.Enablement.Closure

/-!
# What enables a config element

A catalog says it without a graph: a feature enables the elements that it lists, and those that a
feature it requires enables. The closure of the catalog's graph says the same:
`exists_mem_allEnabledBy_iff`.
-/

namespace FeatureCheck

set_option autoImplicit false

/-- The feature itself lists the element with a key. -/
def Feature.Lists (feature : Feature) (key : String) : Prop :=
  ∃ element ∈ feature.configElements, Name.normalize element = key

namespace Catalog

open GraphChange Relation

/-- The feature enables the element with a key. Requirements that the catalog does not know enable
nothing. -/
inductive Enables (catalog : Catalog) (key : String) : Feature → Prop
  | lists {feature : Feature} : feature.Lists key → Enables catalog key feature
  | requires {feature found : Feature} {required : String} :
      required ∈ feature.requirements → catalog.feature? required = some found →
      Enables catalog key found → Enables catalog key feature

variable (catalog : Catalog)

/-- What a feature adds to the graph. -/
def featureChanges (feature : Feature) : List GraphChange :=
  .addFeature feature.name feature.description ::
    (feature.requirements.map fun required =>
      .recordEnables feature.name (catalog.requirementTarget required)) ++
    feature.configElements.map (.recordEnablesElement feature.name)

def changes : List GraphChange :=
  catalog.features.flatMap catalog.featureChanges

theorem addToGraph_eq_foldl (graph : EnablementGraph) (feature : Feature) :
    catalog.addToGraph graph feature = (catalog.featureChanges feature).foldl apply graph := by
  simp only [addToGraph, featureChanges, List.cons_append, List.foldl_cons, List.foldl_append,
    List.foldl_map, apply]

theorem graph_eq_ofChanges : catalog.graph = EnablementGraph.ofChanges catalog.changes := by
  rw [graph, EnablementGraph.ofChanges, changes, List.foldl_flatMap]
  congr 1
  funext graph feature
  exact catalog.addToGraph_eq_foldl graph feature

variable {catalog} {feature : Feature} {key parent child element : String}

theorem mem_changes {change : GraphChange} : change ∈ catalog.changes ↔
    ∃ feature ∈ catalog.features, change ∈ catalog.featureChanges feature :=
  List.mem_flatMap

theorem mem_featureChanges {change : GraphChange} : change ∈ catalog.featureChanges feature ↔
    change = .addFeature feature.name feature.description ∨
      (∃ required ∈ feature.requirements,
        change = .recordEnables feature.name (catalog.requirementTarget required)) ∨
      ∃ listed ∈ feature.configElements, change = .recordEnablesElement feature.name listed := by
  simp only [featureChanges, List.cons_append, List.mem_cons, List.mem_append, List.mem_map,
    eq_comm]

/-! ## The recorded edges -/

theorem enables_changes_iff : GraphChange.Enables catalog.changes parent child ↔
    ∃ feature ∈ catalog.features, feature.key = parent ∧
      ∃ required ∈ feature.requirements,
        Name.normalize (catalog.requirementTarget required) = child := by
  constructor
  · intro hexists
    obtain ⟨change, hchange, hedge⟩ := hexists
    obtain ⟨feature, hfeature, hmem⟩ := mem_changes.mp hchange
    rcases mem_featureChanges.mp hmem with rfl | ⟨required, hrequired, rfl⟩ | ⟨element, -, rfl⟩
    · simp [edge?] at hedge
    · simp only [edge?, Option.some.injEq, Prod.mk.injEq] at hedge
      exact ⟨feature, hfeature, hedge.1, required, hrequired, hedge.2⟩
    · simp [edge?] at hedge
  · intro hexists
    obtain ⟨feature, hfeature, rfl, required, hrequired, rfl⟩ := hexists
    refine ⟨.recordEnables feature.name (catalog.requirementTarget required), ?_, rfl⟩
    exact mem_changes.mpr
      ⟨feature, hfeature, mem_featureChanges.mpr (.inr (.inl ⟨required, hrequired, rfl⟩))⟩

theorem enablesElement_changes_iff : EnablesElement catalog.changes parent element ↔
    ∃ feature ∈ catalog.features, feature.key = parent ∧ feature.Lists element := by
  constructor
  · intro hexists
    obtain ⟨change, hchange, hedge⟩ := hexists
    obtain ⟨feature, hfeature, hmem⟩ := mem_changes.mp hchange
    rcases mem_featureChanges.mp hmem with rfl | ⟨required, -, rfl⟩ | ⟨listed, hlisted, rfl⟩
    · simp [elementEdge?] at hedge
    · simp [elementEdge?] at hedge
    · simp only [elementEdge?, Option.some.injEq, Prod.mk.injEq] at hedge
      exact ⟨feature, hfeature, hedge.1, listed, hlisted, hedge.2⟩
  · intro hexists
    obtain ⟨feature, hfeature, rfl, listed, hlisted, rfl⟩ := hexists
    refine ⟨.recordEnablesElement feature.name listed, ?_, rfl⟩
    exact mem_changes.mpr
      ⟨feature, hfeature, mem_featureChanges.mpr (.inr (.inr ⟨listed, hlisted, rfl⟩))⟩

theorem mentionsElement_changes_iff : MentionsElement catalog.changes element ↔
    ∃ feature ∈ catalog.features, feature.Lists element := by
  constructor
  · intro hexists
    obtain ⟨change, hchange, name, hname, rfl⟩ := hexists
    obtain ⟨feature, hfeature, hmem⟩ := mem_changes.mp hchange
    rcases mem_featureChanges.mp hmem with rfl | ⟨required, -, rfl⟩ | ⟨listed, hlisted, rfl⟩
    · simp [elementNames] at hname
    · simp [elementNames] at hname
    · simp only [elementNames, List.mem_singleton] at hname
      exact ⟨feature, hfeature, listed, hlisted, congrArg Name.normalize hname.symm⟩
  · intro hexists
    obtain ⟨feature, hfeature, hlists⟩ := hexists
    exact (enablesElement_changes_iff.mpr ⟨feature, hfeature, rfl, hlists⟩).mentions.2

/-- The graph has just the elements that are listed. -/
theorem isSome_element?_iff {name : String} : (catalog.graph.element? name).isSome ↔
    ∃ feature ∈ catalog.features, feature.Lists (Name.normalize name) := by
  rw [← mentionsElement_changes_iff, ← EnablementGraph.mem_elements_ofChanges,
    Std.ExtTreeMap.mem_iff_isSome_getElem?, ← graph_eq_ofChanges]
  rfl

theorem isSome_spelling?_key (h : feature ∈ catalog.features) :
    (spelling? catalog.changes feature.key).isSome := by
  refine isSome_spelling?_iff.mpr ⟨.addFeature feature.name feature.description, ?_,
    feature.name, by simp [featureNames], rfl⟩
  exact mem_changes.mpr ⟨feature, h, mem_featureChanges.mpr (.inl rfl)⟩

/-! ## The closure -/

/-- A requirement leads to the key of a feature just when it is found as that feature. -/
theorem normalize_requirementTarget_eq_key_iff (h : feature ∈ catalog.features)
    {required : String} :
    Name.normalize (catalog.requirementTarget required) = feature.key ↔
      catalog.feature? required = some feature := by
  unfold requirementTarget
  cases hfound : catalog.feature? required with
  | none =>
    simp only [Option.elim_none, reduceCtorEq, iff_false]
    intro heq
    exact key_ne_of_feature?_eq_none hfound h heq.symm
  | some found =>
    simp only [Option.elim_some, Option.some.injEq]
    constructor
    · intro heq
      exact eq_of_key_eq (mem_of_feature? hfound) h heq
    · rintro rfl
      rfl

/-- The paths to a feature that lists the element start at the features that enable it. -/
theorem exists_path_iff {node : String} :
    (∃ parent, EnablesElement catalog.changes parent element ∧
      ReflTransGen (GraphChange.Enables catalog.changes) node parent) ↔
    ∃ feature ∈ catalog.features, feature.key = node ∧ catalog.Enables element feature := by
  constructor
  · intro hexists
    obtain ⟨parent, hlisted, hpath⟩ := hexists
    induction hpath using ReflTransGen.head_induction_on with
    | refl =>
      obtain ⟨feature, hfeature, hkey, hlists⟩ := enablesElement_changes_iff.mp hlisted
      exact ⟨feature, hfeature, hkey, .lists hlists⟩
    | head hedge _ ih =>
      obtain ⟨found, hfound, rfl, henables⟩ := ih
      obtain ⟨feature, hfeature, hkey, required, hrequired, htarget⟩ :=
        enables_changes_iff.mp hedge
      have hlookup := (normalize_requirementTarget_eq_key_iff hfound).mp htarget
      exact ⟨feature, hfeature, hkey, .requires hrequired hlookup henables⟩
  · intro hexists
    obtain ⟨feature, hfeature, rfl, henables⟩ := hexists
    induction henables with
    | @lists feature hlists =>
      exact ⟨feature.key, enablesElement_changes_iff.mpr ⟨feature, hfeature, rfl, hlists⟩, .refl⟩
    | @requires feature found required hrequired hlookup _ ih =>
      have hfound := mem_of_feature? hlookup
      obtain ⟨parent, hlisted, hpath⟩ := ih hfound
      have hedge : GraphChange.Enables catalog.changes feature.key found.key :=
        enables_changes_iff.mpr ⟨feature, hfeature, rfl, required, hrequired,
          (normalize_requirementTarget_eq_key_iff hfound).mpr hlookup⟩
      exact ⟨parent, hlisted, .head hedge hpath⟩

/-- The graph finds a name in some spelling of a key just when a feature with the key enables the
element. -/
theorem exists_mem_allEnabledBy_iff (p : String → Prop) {name : String}
    (h : ∃ feature ∈ catalog.features, feature.Lists (Name.normalize name)) :
    (∃ found ∈ catalog.graph.allEnabledBy name, p (Name.normalize found)) ↔
      ∃ feature ∈ catalog.features, catalog.Enables (Name.normalize name) feature ∧
        p feature.key := by
  rw [graph_eq_ofChanges]
  simp only [EnablementGraph.mem_allEnabledBy_iff_of_element catalog.changes name
    (mentionsElement_changes_iff.mpr h)]
  constructor
  · intro hexists
    obtain ⟨found, ⟨parent, node, hlisted, hpath, hspelling⟩, hp⟩ := hexists
    obtain ⟨feature, hfeature, hkey, henables⟩ := exists_path_iff.mp ⟨parent, hlisted, hpath⟩
    rw [normalize_of_spelling? hspelling, ← hkey] at hp
    exact ⟨feature, hfeature, henables, hp⟩
  · intro hexists
    obtain ⟨feature, hfeature, henables, hp⟩ := hexists
    obtain ⟨parent, hlisted, hpath⟩ := exists_path_iff.mpr ⟨feature, hfeature, rfl, henables⟩
    obtain ⟨found, hspelling⟩ := Option.isSome_iff_exists.mp (isSome_spelling?_key hfeature)
    refine ⟨found, ⟨parent, feature.key, hlisted, hpath, hspelling⟩, ?_⟩
    rw [normalize_of_spelling? hspelling]
    exact hp

end Catalog

end FeatureCheck
