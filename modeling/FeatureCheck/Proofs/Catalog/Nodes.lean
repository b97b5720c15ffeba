import FeatureCheck.Proofs.Catalog.Requirements
import FeatureCheck.Proofs.Enablement.Integrity

/-!
# The nodes of a catalog's graph

A feature has one node, under its own name and with its description, however often and under which
names it has been required before its turn comes. A name that finds no feature has a bare node, and
there are no others (`depicts_graph`). First what a recorded graph holds besides its edges: of all
descriptions and spellings that are given for a key the first one counts.
-/

namespace FeatureCheck

set_option autoImplicit false

/-! ## Descriptions and spellings -/

namespace GraphChange

/-- The description that the change has for the feature with a key. -/
def description? (key : String) : GraphChange → Option String
  | .addFeature name description => if Name.normalize name = key then description else none
  | _ => none

def elementSpelling? (key : String) (change : GraphChange) : Option String :=
  (change.elementNames.find? (Name.normalize · = key)).map Text.trim

end GraphChange

namespace EnablementGraph

open GraphChange

variable {graph : EnablementGraph} {name key : String}

def description? (graph : EnablementGraph) (key : String) : Option String :=
  (graph.features[key]?).bind (·.description)

def elementName? (graph : EnablementGraph) (key : String) : Option String :=
  (graph.elements[key]?).map (·.name)

/-- What is kept once it is there comes from the first change that gives it. -/
theorem ofChanges_eq_findSome? {α : Type} (get : EnablementGraph → Option α)
    {given : GraphChange → Option α} (changes : List GraphChange) (hempty : get .empty = none)
    (happly : ∀ graph change, get (change.apply graph) = (get graph).or (given change)) :
    get (ofChanges changes) = changes.findSome? given := by
  induction changes using List.reverseRecOn with
  | nil => exact hempty
  | append_singleton changes change ih =>
    rw [ofChanges_concat, happly, ih, List.findSome?_append]
    simp

theorem description?_updateFeature {update : FeatureNode → FeatureNode}
    (hkeeps : ∀ node, (update node).description = node.description) :
    (graph.updateFeature name update).description? key = graph.description? key := by
  unfold description?
  rw [getElem?_updateFeature]
  split
  · cases graph.features[key]? with
    | none => simp [hkeeps, FeatureNode.bare]
    | some node => simp [hkeeps]
  · rfl

theorem description?_apply (graph : EnablementGraph) (change : GraphChange) (key : String) :
    (change.apply graph).description? key =
      (graph.description? key).or (change.description? key) := by
  cases change with
  | addFeature name description =>
    rw [apply, addFeature, description?, getElem?_updateFeature, GraphChange.description?]
    split
    · rw [description?]
      cases graph.features[key]? with
      | none => simp [FeatureNode.bare]
      | some node => simp
    · rw [Option.or_none, description?]
  | addConfigElement name => exact (Option.or_none).symm
  | recordEnables parent child =>
    rw [apply, recordEnables, description?_updateFeature (by simp),
      description?_updateFeature (by simp)]
    exact (Option.or_none).symm
  | recordEnablesElement parent element =>
    rw [apply, recordEnablesElement, description?_updateFeature (by simp)]
    exact (Option.or_none).symm

theorem elementName?_updateFeature (update : FeatureNode → FeatureNode) :
    (graph.updateFeature name update).elementName? key = graph.elementName? key := rfl

theorem elementName?_updateElement {update : ElementNode → ElementNode}
    (hkeeps : ∀ node, (update node).name = node.name) :
    (graph.updateElement name update).elementName? key =
      (graph.elementName? key).or
        (if Name.normalize name = key then some (Text.trim name) else none) := by
  unfold elementName?
  rw [getElem?_updateElement]
  split
  · cases graph.elements[key]? with
    | none => simp [hkeeps, ElementNode.bare]
    | some node => simp [hkeeps]
  · simp

theorem elementName?_apply (graph : EnablementGraph) (change : GraphChange) (key : String) :
    (change.apply graph).elementName? key =
      (graph.elementName? key).or (change.elementSpelling? key) := by
  cases change with
  | addFeature name description => exact (Option.or_none).symm
  | addConfigElement name =>
    refine (elementName?_updateElement fun _ => rfl).trans ?_
    by_cases h : Name.normalize name = key <;> simp [elementSpelling?, elementNames, h]
  | recordEnables parent child => exact (Option.or_none).symm
  | recordEnablesElement parent element =>
    rw [apply, recordEnablesElement, elementName?_updateFeature,
      elementName?_updateElement (by simp)]
    by_cases h : Name.normalize element = key <;> simp [elementSpelling?, elementNames, h]

theorem description?_ofChanges (changes : List GraphChange) (key : String) :
    (ofChanges changes).description? key = changes.findSome? (GraphChange.description? key) :=
  ofChanges_eq_findSome? (·.description? key) changes (by simp [description?, empty])
    fun graph change => description?_apply graph change key

theorem elementName?_ofChanges (changes : List GraphChange) (key : String) :
    (ofChanges changes).elementName? key = changes.findSome? (elementSpelling? key) :=
  ofChanges_eq_findSome? (·.elementName? key) changes (by simp [elementName?, empty])
    fun graph change => elementName?_apply graph change key

end EnablementGraph

namespace Catalog

open GraphChange

/-- The names that features require and under which the catalog finds nothing. -/
def unresolved (catalog : Catalog) : List String :=
  (catalog.features.flatMap (·.requirements)).filter fun required =>
    (catalog.feature? required).isNone

/-- The elements that features list. -/
def listedElements (catalog : Catalog) : List String :=
  catalog.features.flatMap (·.configElements)

end Catalog

/-! ## The nodes -/

/-- The graph has a node for each feature and one for each unresolved requirement, and no others.
Between two features there is an edge just when the one requires the other under a name that finds
it, and from a feature to a bare node just when it requires the name. Config elements have a node
each, too, with an edge from every feature that lists them. -/
structure EnablementGraph.Depicts (graph : EnablementGraph) (catalog : Catalog) : Prop where
  feature : ∀ feature ∈ catalog.features, ∃ node, graph.feature? feature.name = some node ∧
    node.name = feature.name ∧ node.description = feature.description
  bare : ∀ required ∈ catalog.unresolved, ∃ node, graph.feature? required = some node ∧
    (catalog.unresolved.find? (Name.normalize · = Name.normalize required)).map Text.trim =
      some node.name ∧
    node.description = none ∧ node.enables = ∅ ∧ node.configElements = ∅
  feature_or_bare : ∀ key, key ∈ graph.features ↔
    (∃ feature ∈ catalog.features, feature.key = key) ∨
      ∃ required ∈ catalog.unresolved, Name.normalize required = key
  featureCount : graph.featureCount =
    catalog.size + (catalog.unresolved.map Name.normalize).toFinset.card
  enables_feature : ∀ parent ∈ catalog.features, ∀ child ∈ catalog.features,
    (child.key ∈ graph.adjacent (·.enables) parent.key ↔
      ∃ required ∈ parent.requirements, catalog.feature? required = some child)
  enables_bare : ∀ parent ∈ catalog.features, ∀ required ∈ catalog.unresolved,
    (Name.normalize required ∈ graph.adjacent (·.enables) parent.key ↔
      ∃ other ∈ parent.requirements, Name.normalize other = Name.normalize required)
  element : ∀ key, key ∈ graph.elements ↔ ∃ feature ∈ catalog.features, feature.Lists key
  element_name : ∀ key node, graph.elements[key]? = some node →
    (catalog.listedElements.find? (Name.normalize · = key)).map Text.trim = some node.name
  elementCount : graph.elementCount = (catalog.listedElements.map Name.normalize).toFinset.card
  lists : ∀ feature ∈ catalog.features, ∀ key,
    (key ∈ graph.adjacent (·.configElements) feature.key ↔ feature.Lists key)
  /-- Edges are at both of their ends, and lead to nodes. -/
  wellFormed : graph.WellFormed

namespace Catalog

open GraphChange EnablementGraph

variable {catalog other : Catalog} {feature : Feature} {key required text : String}

theorem mem_unresolved_iff : required ∈ catalog.unresolved ↔
    (∃ feature ∈ catalog.features, required ∈ feature.requirements) ∧
      catalog.feature? required = none := by
  simp only [unresolved, List.mem_filter, List.mem_flatMap, Option.isNone_iff_eq_none]

theorem mem_features_graph_iff : key ∈ catalog.graph.features ↔
    (∃ feature ∈ catalog.features, feature.key = key) ∨
      ∃ required ∈ catalog.unresolved, Name.normalize required = key := by
  rw [graph_eq_ofChanges, mem_features_ofChanges]
  constructor
  · intro hsome
    obtain ⟨change, hchange, name, hname, rfl⟩ := isSome_spelling?_iff.mp hsome
    obtain ⟨source, hsource, hmem⟩ := mem_changes.mp hchange
    rcases mem_featureChanges.mp hmem with rfl | ⟨required, hrequired, rfl⟩ | ⟨element, -, rfl⟩
    · obtain rfl := List.mem_singleton.mp hname
      exact .inl ⟨source, hsource, rfl⟩
    · simp only [featureNames, List.mem_cons, List.not_mem_nil, or_false] at hname
      rcases hname with rfl | rfl
      · rw [requirementTarget]
        cases hfound : catalog.feature? required with
        | none =>
          exact .inr ⟨required, mem_unresolved_iff.mpr ⟨⟨source, hsource, hrequired⟩, hfound⟩, rfl⟩
        | some found => exact .inl ⟨found, mem_of_feature? hfound, rfl⟩
      · exact .inl ⟨source, hsource, rfl⟩
    · obtain rfl := List.mem_singleton.mp hname
      exact .inl ⟨source, hsource, rfl⟩
  · rintro (⟨feature, hfeature, rfl⟩ | ⟨required, hrequired, rfl⟩)
    · exact isSome_spelling?_key hfeature
    · obtain ⟨⟨feature, hfeature, hrequires⟩, hnone⟩ := mem_unresolved_iff.mp hrequired
      have hedge : GraphChange.Enables catalog.changes feature.key (Name.normalize required) :=
        enables_changes_iff.mpr ⟨feature, hfeature, rfl, required, hrequires, by
          rw [requirementTarget, hnone, Option.elim_none]⟩
      exact hedge.mentions.2

theorem featureCount_graph : catalog.graph.featureCount =
    catalog.size + (catalog.unresolved.map Name.normalize).toFinset.card := by
  have hkeys : ∀ key, key ∈ catalog.graph.features ↔
      key ∈ catalog.features.map Feature.key ++ catalog.unresolved.map Name.normalize := by
    intro key
    rw [mem_features_graph_iff, List.mem_append, List.mem_map, List.mem_map]
  have hnodup : (catalog.features.map Feature.key).Nodup := by
    rw [List.nodup_iff_pairwise_ne, List.pairwise_map]
    refine catalog.distinct.imp fun hkey heq => hkey ?_
    rw [← heq]
    exact List.mem_cons_self
  have hdisjoint : Disjoint (catalog.features.map Feature.key).toFinset
      (catalog.unresolved.map Name.normalize).toFinset := by
    rw [List.disjoint_toFinset_iff_disjoint]
    intro key hmem hunresolved
    obtain ⟨feature, hfeature, rfl⟩ := List.mem_map.mp hmem
    obtain ⟨required, hrequired, hkey⟩ := List.mem_map.mp hunresolved
    exact key_ne_of_feature?_eq_none (mem_unresolved_iff.mp hrequired).2 hfeature hkey.symm
  rw [featureCount, NameMap.size_eq_card hkeys, List.toFinset_append,
    Finset.card_union_of_disjoint hdisjoint, List.toFinset_card_of_nodup hnodup, List.length_map,
    size]

/-! ## Names and descriptions -/

theorem exists_of_description? {change : GraphChange} (hchange : change ∈ catalog.changes)
    (h : change.description? key = some text) :
    ∃ feature ∈ catalog.features, feature.key = key ∧ feature.description = some text := by
  obtain ⟨feature, hfeature, hmem⟩ := mem_changes.mp hchange
  rcases mem_featureChanges.mp hmem with rfl | ⟨required, -, rfl⟩ | ⟨element, -, rfl⟩
  · rw [GraphChange.description?, Option.ite_none_right_eq_some] at h
    exact ⟨feature, hfeature, h.1, h.2⟩
  · cases h
  · cases h

theorem description?_graph_iff : catalog.graph.description? key = some text ↔
    ∃ feature ∈ catalog.features, feature.key = key ∧ feature.description = some text := by
  rw [graph_eq_ofChanges, description?_ofChanges]
  constructor
  · intro h
    obtain ⟨change, hchange, hgives⟩ := List.exists_of_findSome?_eq_some h
    exact exists_of_description? hchange hgives
  · rintro ⟨feature, hfeature, rfl, htext⟩
    cases hfirst : catalog.changes.findSome? (GraphChange.description? feature.key) with
    | none =>
      have hadded : .addFeature feature.name feature.description ∈ catalog.changes :=
        mem_changes.mpr ⟨feature, hfeature, mem_featureChanges.mpr (.inl rfl)⟩
      have hkey : Name.normalize feature.name = feature.key := rfl
      have hnone := List.findSome?_eq_none_iff.mp hfirst _ hadded
      rw [GraphChange.description?, if_pos hkey, htext] at hnone
      cases hnone
    | some first =>
      obtain ⟨change, hchange, hgives⟩ := List.exists_of_findSome?_eq_some hfirst
      obtain ⟨same, hsame, hkey, hdescription⟩ := exists_of_description? hchange hgives
      rw [← hdescription, eq_of_key_eq hsame hfeature hkey, htext]

/-- Of the names that the edges to required features mention, just the unresolved ones can have the
key. -/
theorem filter_featureNames_recordEnables (h : ∀ feature ∈ catalog.features, feature.key ≠ key)
    {parent : String} (hparent : Name.normalize parent ≠ key) (requirements : List String) :
    ((requirements.map fun required =>
        recordEnables parent (catalog.requirementTarget required)).flatMap featureNames).filter
          (Name.normalize · = key) =
      (requirements.filter fun required =>
        (catalog.feature? required).isNone).filter (Name.normalize · = key) := by
  induction requirements with
  | nil => rfl
  | cons required requirements ih =>
    rw [List.map_cons, List.flatMap_cons, List.filter_append, ih, featureNames, requirementTarget]
    cases hfound : catalog.feature? required with
    | none =>
      by_cases hkey : Name.normalize required = key
      · simp [hfound, hparent, hkey]
      · simp [hfound, hparent, hkey]
    | some found =>
      have hkey : Name.normalize found.name ≠ key := h found (mem_of_feature? hfound)
      simp [hfound, hparent, hkey]

theorem filter_featureNames_recordEnablesElement {parent : String}
    (hparent : Name.normalize parent ≠ key) (elements : List String) :
    ((elements.map (recordEnablesElement parent)).flatMap featureNames).filter
      (Name.normalize · = key) = [] := by
  rw [List.filter_eq_nil_iff]
  intro name hmem
  obtain ⟨change, hchange, hmentioned⟩ := List.mem_flatMap.mp hmem
  obtain ⟨element, -, rfl⟩ := List.mem_map.mp hchange
  rw [List.mem_singleton.mp hmentioned, decide_eq_true_eq]
  exact hparent

theorem filter_featureNames_of_bare (h : ∀ feature ∈ catalog.features, feature.key ≠ key)
    (hfeature : feature ∈ catalog.features) :
    ((catalog.featureChanges feature).flatMap featureNames).filter (Name.normalize · = key) =
      (feature.requirements.filter fun required =>
        (catalog.feature? required).isNone).filter (Name.normalize · = key) := by
  have hname : Name.normalize feature.name ≠ key := h feature hfeature
  rw [featureChanges, List.flatMap_append, List.filter_append,
    filter_featureNames_recordEnablesElement hname, List.append_nil, List.flatMap_cons,
    List.filter_append, filter_featureNames_recordEnables h hname]
  simp [featureNames, hname]

/-- A bare node is spelled as the first requirement that finds nothing and has its key. -/
theorem name?_graph_of_bare (h : ∀ feature ∈ catalog.features, feature.key ≠ key) :
    catalog.graph.name? key =
      (catalog.unresolved.find? (Name.normalize · = key)).map Text.trim := by
  have hfilter : (catalog.changes.flatMap featureNames).filter (Name.normalize · = key) =
      catalog.unresolved.filter (Name.normalize · = key) := by
    rw [changes, List.flatMap_assoc, List.filter_flatMap, unresolved, List.filter_flatMap,
      List.filter_flatMap]
    exact List.flatMap_congr fun feature hfeature => filter_featureNames_of_bare h hfeature
  rw [graph_eq_ofChanges, name?_ofChanges, spelling?, ← List.head?_filter, hfilter,
    List.head?_filter]

theorem flatMap_elementNames_changes (catalog : Catalog) :
    catalog.changes.flatMap elementNames = catalog.listedElements := by
  have hlisted : ∀ feature : Feature,
      (catalog.featureChanges feature).flatMap elementNames = feature.configElements := by
    intro feature
    simp [featureChanges, elementNames, List.flatMap_map]
  rw [changes, List.flatMap_assoc, listedElements]
  exact List.flatMap_congr fun feature _ => hlisted feature

theorem elementName?_graph (catalog : Catalog) (key : String) : catalog.graph.elementName? key =
    (catalog.listedElements.find? (Name.normalize · = key)).map Text.trim := by
  rw [graph_eq_ofChanges, elementName?_ofChanges, ← flatMap_elementNames_changes,
    List.find?_flatMap, List.map_findSome?]
  rfl

theorem elementCount_graph (catalog : Catalog) : catalog.graph.elementCount =
    (catalog.listedElements.map Name.normalize).toFinset.card := by
  rw [graph_eq_ofChanges, elementCount_ofChanges, elementKeys, flatMap_elementNames_changes]

/-! ## The edges -/

/-- Only one feature has the key. -/
theorem exists_key_iff (hfeature : feature ∈ catalog.features) {p : Feature → Prop} :
    (∃ same ∈ catalog.features, same.key = feature.key ∧ p same) ↔ p feature := by
  constructor
  · rintro ⟨same, hsame, hkey, hp⟩
    rwa [eq_of_key_eq hsame hfeature hkey] at hp
  · intro hp
    exact ⟨feature, hfeature, rfl, hp⟩

theorem mem_enables_graph_iff {parent child : String} :
    child ∈ catalog.graph.adjacent (·.enables) parent ↔
      ∃ feature ∈ catalog.features, feature.key = parent ∧
        ∃ required ∈ feature.requirements,
          Name.normalize (catalog.requirementTarget required) = child := by
  rw [graph_eq_ofChanges, mem_enables_ofChanges, enables_changes_iff]

theorem mem_configElements_graph_iff {parent element : String} :
    element ∈ catalog.graph.adjacent (·.configElements) parent ↔
      ∃ feature ∈ catalog.features, feature.key = parent ∧ feature.Lists element := by
  rw [graph_eq_ofChanges, mem_configElements_ofChanges, enablesElement_changes_iff]

/-- A requirement leads to a bare node just when it is the name of that node. -/
theorem normalize_requirementTarget_iff_of_none (h : catalog.feature? required = none)
    {name : String} : Name.normalize (catalog.requirementTarget name) = Name.normalize required ↔
      Name.normalize name = Name.normalize required := by
  rw [requirementTarget]
  cases hfound : catalog.feature? name with
  | none => rw [Option.elim_none]
  | some found =>
    have hkey := key_ne_of_feature?_eq_none h (mem_of_feature? hfound)
    rw [Option.elim_some]
    constructor
    · intro heq
      exact absurd heq hkey
    · intro heq
      rw [feature?_congr heq, h] at hfound
      cases hfound

/-! ## The whole graph -/

theorem exists_node (h : key ∈ catalog.graph.features) :
    ∃ node, catalog.graph.features[key]? = some node := by
  rwa [Std.ExtTreeMap.mem_iff_isSome_getElem?, Option.isSome_iff_exists] at h

theorem node_of_feature (hfeature : feature ∈ catalog.features) :
    ∃ node, catalog.graph.feature? feature.name = some node ∧ node.name = feature.name ∧
      node.description = feature.description := by
  obtain ⟨node, hnode⟩ := exists_node (mem_features_graph_iff.mpr (.inl ⟨feature, hfeature, rfl⟩))
  have hname : catalog.graph.name? feature.key = some feature.name := by
    rw [graph_eq_ofChanges, name?_ofChanges, spelling?_key hfeature]
  rw [name?, hnode] at hname
  refine ⟨node, hnode, Option.some.inj hname, Option.ext fun text => ?_⟩
  have hdescription : catalog.graph.description? feature.key = node.description := by
    rw [EnablementGraph.description?, hnode, Option.bind_some]
  rw [← hdescription, description?_graph_iff, exists_key_iff hfeature]

theorem node_of_unresolved (hrequired : required ∈ catalog.unresolved) :
    ∃ node, catalog.graph.feature? required = some node ∧
      (catalog.unresolved.find? (Name.normalize · = Name.normalize required)).map Text.trim =
        some node.name ∧
      node.description = none ∧ node.enables = ∅ ∧ node.configElements = ∅ := by
  have hnone := (mem_unresolved_iff.mp hrequired).2
  have hother : ∀ feature ∈ catalog.features, feature.key ≠ Name.normalize required :=
    fun _ => key_ne_of_feature?_eq_none hnone
  obtain ⟨node, hnode⟩ := exists_node (mem_features_graph_iff.mpr (.inr ⟨required, hrequired, rfl⟩))
  have hname := name?_graph_of_bare hother
  rw [name?, hnode] at hname
  have hempty : ∀ get : FeatureNode → NameSet,
      (∀ next ∈ catalog.graph.adjacent get (Name.normalize required),
        ∃ feature ∈ catalog.features, feature.key = Name.normalize required) → get node = ∅ := by
    intro get hparent
    rw [Std.ExtTreeSet.eq_empty_iff_forall_not_mem]
    intro next hnext
    obtain ⟨feature, hfeature, hkey⟩ := hparent next (by rwa [adjacent_of_getElem? hnode])
    exact hother feature hfeature hkey
  refine ⟨node, hnode, hname.symm, ?_, ?_, ?_⟩
  · cases htext : node.description with
    | none => rfl
    | some text =>
      have hdescription : catalog.graph.description? (Name.normalize required) = some text := by
        rw [EnablementGraph.description?, hnode, Option.bind_some, htext]
      obtain ⟨feature, hfeature, hkey, -⟩ := description?_graph_iff.mp hdescription
      exact absurd hkey (hother feature hfeature)
  · refine hempty (·.enables) fun child hedge => ?_
    obtain ⟨feature, hfeature, hkey, -⟩ := mem_enables_graph_iff.mp hedge
    exact ⟨feature, hfeature, hkey⟩
  · refine hempty (·.configElements) fun element hedge => ?_
    obtain ⟨feature, hfeature, hkey, -⟩ := mem_configElements_graph_iff.mp hedge
    exact ⟨feature, hfeature, hkey⟩

theorem depicts (catalog : Catalog) : catalog.graph.Depicts catalog where
  feature _ := node_of_feature
  bare _ := node_of_unresolved
  feature_or_bare _ := mem_features_graph_iff
  featureCount := featureCount_graph
  enables_feature parent hparent child hchild := by
    rw [mem_enables_graph_iff, exists_key_iff hparent]
    simp only [normalize_requirementTarget_eq_key_iff hchild]
  enables_bare parent hparent required hrequired := by
    rw [mem_enables_graph_iff, exists_key_iff hparent]
    simp only [normalize_requirementTarget_iff_of_none (mem_unresolved_iff.mp hrequired).2]
  element key := by
    rw [graph_eq_ofChanges, mem_elements_ofChanges, mentionsElement_changes_iff]
  element_name key node hnode := by
    rw [← elementName?_graph, elementName?, hnode, Option.map_some]
  elementCount := elementCount_graph catalog
  lists feature hfeature key := by
    rw [mem_configElements_graph_iff, exists_key_iff hfeature]
  wellFormed := by
    rw [graph_eq_ofChanges]
    exact wellFormed_ofChanges _

/-- Features that are in another order lead to the same edges, if their requirements still find what
they found. -/
theorem changes_perm (hperm : other.features.Perm catalog.features)
    (hfound : ∀ feature ∈ catalog.features, ∀ required ∈ feature.requirements,
      other.feature? required = catalog.feature? required) :
    other.changes.Perm catalog.changes := by
  have hsame : ∀ feature ∈ other.features,
      other.featureChanges feature = catalog.featureChanges feature := by
    intro feature hfeature
    have htargets : feature.requirements.map (fun required =>
          recordEnables feature.name (other.requirementTarget required)) =
        feature.requirements.map fun required =>
          recordEnables feature.name (catalog.requirementTarget required) := by
      refine List.map_congr_left fun required hrequired => ?_
      rw [requirementTarget, hfound feature (hperm.mem_iff.mp hfeature) required hrequired,
        requirementTarget]
    rw [featureChanges, htargets, featureChanges]
  rw [changes, List.flatMap_congr hsame, changes]
  exact hperm.flatMap_right _

/-- The graph of a catalog, with one node for each thing it is about; in which order the features
stand makes a difference to the spelling of other nodes at most. -/
theorem depicts_graph (catalog : Catalog) :
    catalog.graph.Depicts catalog ∧
    ∀ other : Catalog, other.features.Perm catalog.features →
      (∀ feature ∈ catalog.features, ∀ required ∈ feature.requirements,
        other.feature? required = catalog.feature? required) →
      other.graph.Alike catalog.graph := by
  refine ⟨catalog.depicts, fun other hperm hfound => ?_⟩
  rw [graph_eq_ofChanges, graph_eq_ofChanges]
  exact alike_of_perm (changes_perm hperm hfound)

/-- It requires a later feature by its symbolic name, itself, and twice what there is not. -/
def forwardProfile : Feature :=
  (Feature.named "webProfile-10.0" .isPublic).withRequires
    ["com.ibm.websphere.appserver.servlet-6.0", "WebProfile-10.0", " Pages-3.1", "pages-3.1"]

def forwardServlet : Feature :=
  (((Feature.named "servlet-6.0" .isPublic).withSymbolicName
    "com.ibm.websphere.appserver.servlet-6.0").withDescription "Jakarta Servlet 6.0").withRequires
      ["PAGES-3.1"]

/-- The order decides how the bare node is spelled, and nothing else. -/
theorem depicts_graph_forward :
    (ofFeatures [forwardServlet, forwardProfile]).features.Perm
      (ofFeatures [forwardProfile, forwardServlet]).features ∧
    (∀ feature ∈ (ofFeatures [forwardProfile, forwardServlet]).features,
      ∀ required ∈ feature.requirements,
        (ofFeatures [forwardServlet, forwardProfile]).feature? required =
          (ofFeatures [forwardProfile, forwardServlet]).feature? required) ∧
    (ofFeatures [forwardServlet, forwardProfile]).graph.Alike
      (ofFeatures [forwardProfile, forwardServlet]).graph ∧
    (∃ node, (ofFeatures [forwardProfile, forwardServlet]).graph.feature? "servlet-6.0" =
      some node ∧ node.name = "servlet-6.0" ∧ node.description = some "Jakarta Servlet 6.0") ∧
    (ofFeatures [forwardProfile, forwardServlet]).graph.featureCount = 3 ∧
    (ofFeatures [forwardProfile, forwardServlet]).graph.name? "pages-3.1" = some "Pages-3.1" ∧
    (ofFeatures [forwardServlet, forwardProfile]).graph.name? "pages-3.1" = some "PAGES-3.1" := by
  have hperm : (ofFeatures [forwardServlet, forwardProfile]).features.Perm
      (ofFeatures [forwardProfile, forwardServlet]).features := by decide +kernel
  have hfound : ∀ feature ∈ (ofFeatures [forwardProfile, forwardServlet]).features,
      ∀ required ∈ feature.requirements,
        (ofFeatures [forwardServlet, forwardProfile]).feature? required =
          (ofFeatures [forwardProfile, forwardServlet]).feature? required := by decide +kernel
  have hmem : forwardServlet ∈ (ofFeatures [forwardProfile, forwardServlet]).features := by
    decide +kernel
  obtain ⟨hdepicts, horder⟩ := depicts_graph (ofFeatures [forwardProfile, forwardServlet])
  exact ⟨hperm, hfound, horder _ hperm hfound, hdepicts.feature forwardServlet hmem,
    hdepicts.featureCount.trans (by decide +kernel), by decide +kernel, by decide +kernel⟩

end Catalog

end FeatureCheck
