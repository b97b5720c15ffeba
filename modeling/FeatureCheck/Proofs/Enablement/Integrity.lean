import FeatureCheck.Proofs.Enablement.Closure
import Mathlib.Data.Finset.Card

/-!
# The integrity of a recorded graph

Each change keeps the two ends of every edge in step (`WellFormed.apply`) and takes nothing away
(`within_apply`). So a change that was made once finds all that it would record
(`Recorded.apply_eq_self`), and the order of the changes decides spellings and descriptions only
(`alike_of_perm`).
-/

namespace FeatureCheck

set_option autoImplicit false

theorem NameSet.insert_eq_self {set : NameSet} {name : String} (h : name ∈ set) :
    set.insert name = set := by
  apply Std.ExtTreeSet.ext_mem
  intro other
  rw [NameSet.mem_insert_iff, ← NameSet.mem_iff_of_mem h]

/-- A table has as many entries as there are names among its keys. -/
theorem NameMap.size_eq_card {α : Type} {map : NameMap α} {names : List String}
    (h : ∀ key, key ∈ map ↔ key ∈ names) : map.size = names.toFinset.card := by
  have hkeys : map.keys.toFinset = names.toFinset := by
    ext key
    rw [List.mem_toFinset, List.mem_toFinset, Std.ExtTreeMap.mem_keys, h]
  rw [← hkeys, List.toFinset_card_of_nodup Std.ExtTreeMap.nodup_keys, Std.ExtTreeMap.length_keys]

/-! ## What a change keeps -/

/-- The later node has the name and, once there is one, the description of the earlier, and its
edges. -/
structure FeatureNode.Within (before after : FeatureNode) : Prop where
  name : after.name = before.name
  description : ∀ text, before.description = some text → after.description = some text
  enables : ∀ key ∈ before.enables, key ∈ after.enables
  enabledBy : ∀ key ∈ before.enabledBy, key ∈ after.enabledBy
  configElements : ∀ key ∈ before.configElements, key ∈ after.configElements

structure ElementNode.Within (before after : ElementNode) : Prop where
  name : after.name = before.name
  enabledBy : ∀ key ∈ before.enabledBy, key ∈ after.enabledBy

theorem FeatureNode.Within.refl (node : FeatureNode) : node.Within node :=
  ⟨rfl, fun _ h => h, fun _ h => h, fun _ h => h, fun _ h => h⟩

theorem ElementNode.Within.refl (node : ElementNode) : node.Within node :=
  ⟨rfl, fun _ h => h⟩

namespace EnablementGraph

open GraphChange

/-- No node and no edge of the earlier graph is missing in the later one. -/
structure Within (before after : EnablementGraph) : Prop where
  features : ∀ (key : String) (node : FeatureNode), before.features[key]? = some node →
    ∃ later, after.features[key]? = some later ∧ node.Within later
  elements : ∀ (key : String) (node : ElementNode), before.elements[key]? = some node →
    ∃ later, after.elements[key]? = some later ∧ node.Within later

variable {graph before after : EnablementGraph} {change : GraphChange} {name key : String}
  {changes others : List GraphChange}

theorem Within.refl (graph : EnablementGraph) : graph.Within graph where
  features _ node hnode := ⟨node, hnode, .refl node⟩
  elements _ node hnode := ⟨node, hnode, .refl node⟩

theorem Within.trans {middle : EnablementGraph} (h : before.Within middle)
    (h' : middle.Within after) : before.Within after where
  features key node hnode := by
    obtain ⟨later, hlater, hold⟩ := h.features key node hnode
    obtain ⟨last, hlast, hnew⟩ := h'.features key later hlater
    exact ⟨last, hlast, hnew.name.trans hold.name,
      fun text htext => hnew.description text (hold.description text htext),
      fun other hother => hnew.enables other (hold.enables other hother),
      fun other hother => hnew.enabledBy other (hold.enabledBy other hother),
      fun other hother => hnew.configElements other (hold.configElements other hother)⟩
  elements key node hnode := by
    obtain ⟨later, hlater, hold⟩ := h.elements key node hnode
    obtain ⟨last, hlast, hnew⟩ := h'.elements key later hlater
    exact ⟨last, hlast, hnew.name.trans hold.name,
      fun other hother => hnew.enabledBy other (hold.enabledBy other hother)⟩

theorem within_updateFeature {update : FeatureNode → FeatureNode}
    (h : ∀ node : FeatureNode, node.Within (update node)) :
    graph.Within (graph.updateFeature name update) where
  features key node hnode := by
    rw [getElem?_updateFeature, hnode]
    split
    · exact ⟨update node, rfl, h node⟩
    · exact ⟨node, rfl, .refl node⟩
  elements := (Within.refl graph).elements

theorem within_updateElement {update : ElementNode → ElementNode}
    (h : ∀ node : ElementNode, node.Within (update node)) :
    graph.Within (graph.updateElement name update) where
  features := (Within.refl graph).features
  elements key node hnode := by
    rw [getElem?_updateElement, hnode]
    split
    · exact ⟨update node, rfl, h node⟩
    · exact ⟨node, rfl, .refl node⟩

theorem within_apply (graph : EnablementGraph) (change : GraphChange) :
    graph.Within (change.apply graph) := by
  have hinsert : ∀ (set : NameSet) (name : String), ∀ other ∈ set, other ∈ set.insert name :=
    fun _ _ _ hother => NameSet.mem_insert_iff.mpr (Or.inr hother)
  cases change with
  | addFeature name description =>
    rw [apply, addFeature]
    refine within_updateFeature fun node => ?_
    refine ⟨rfl, ?_, fun _ h => h, fun _ h => h, fun _ h => h⟩
    intro text htext
    simp [htext]
  | addConfigElement name => exact within_updateElement fun node => ⟨rfl, fun _ h => h⟩
  | recordEnables parent child =>
    rw [apply, recordEnables]
    refine (within_updateFeature fun node => ?_).trans (within_updateFeature fun node => ?_)
    · exact ⟨rfl, fun _ h => h, fun _ h => h, hinsert _ _, fun _ h => h⟩
    · exact ⟨rfl, fun _ h => h, hinsert _ _, fun _ h => h, fun _ h => h⟩
  | recordEnablesElement parent element =>
    rw [apply, recordEnablesElement]
    refine (within_updateElement fun node => ?_).trans (within_updateFeature fun node => ?_)
    · exact ⟨rfl, hinsert _ _⟩
    · exact ⟨rfl, fun _ h => h, fun _ h => h, fun _ h => h, hinsert _ _⟩

theorem within_foldl (graph : EnablementGraph) (changes : List GraphChange) :
    graph.Within (changes.foldl GraphChange.apply graph) := by
  induction changes generalizing graph with
  | nil => exact .refl graph
  | cons change changes ih => exact (within_apply graph change).trans (ih _)

namespace Within

theorem mem_elements (h : before.Within after) (hkey : key ∈ before.elements) :
    key ∈ after.elements := by
  rw [Std.ExtTreeMap.mem_iff_isSome_getElem?, Option.isSome_iff_exists] at hkey ⊢
  obtain ⟨node, hnode⟩ := hkey
  obtain ⟨later, hlater, -⟩ := h.elements key node hnode
  exact ⟨later, hlater⟩

/-- An edge that is kept at each node is kept in the graph. -/
theorem mem_adjacent (h : before.Within after) {side : FeatureNode → NameSet} {other : String}
    (hside : ∀ node later : FeatureNode, node.Within later →
      ∀ key ∈ side node, key ∈ side later)
    (hmem : other ∈ before.adjacent side key) : other ∈ after.adjacent side key := by
  unfold adjacent at hmem ⊢
  cases hnode : before.features[key]? with
  | none => simp [hnode] at hmem
  | some node =>
    obtain ⟨later, hlater, hwithin⟩ := h.features key node hnode
    rw [hnode] at hmem
    rw [hlater]
    exact hside node later hwithin other hmem

theorem mem_enablers (h : before.Within after) {parent : String}
    (hmem : parent ∈ before.enablers key) : parent ∈ after.enablers key := by
  unfold enablers at hmem ⊢
  cases hnode : before.elements[key]? with
  | none => simp [hnode] at hmem
  | some node =>
    obtain ⟨later, hlater, hwithin⟩ := h.elements key node hnode
    rw [hnode] at hmem
    rw [hlater]
    exact hwithin.enabledBy parent hmem

end Within

/-! ## Both ends of every edge -/

theorem mem_configElements_apply (graph : EnablementGraph) (change : GraphChange)
    (parent element : String) :
    element ∈ (change.apply graph).adjacent (·.configElements) parent ↔
      element ∈ graph.adjacent (·.configElements) parent ∨
        change.elementEdge? = some (parent, element) := by
  cases change with
  | addFeature name description =>
    rw [apply, addFeature, adjacent_updateFeature_of_keeps (by simp) (by simp)]
    simp [elementEdge?]
  | addConfigElement name => simp [apply, addConfigElement, elementEdge?]
  | recordEnables source target =>
    rw [apply, recordEnables, adjacent_updateFeature_of_keeps (by simp) (by simp),
      adjacent_updateFeature_of_keeps (by simp) (by simp)]
    simp [elementEdge?]
  | recordEnablesElement source target =>
    rw [apply, recordEnablesElement,
      adjacent_updateFeature_of_inserts (Name.normalize target) (by simp) (by simp)]
    by_cases hsource : Name.normalize source = parent
    · simp [hsource, elementEdge?, or_comm]
    · simp [hsource, elementEdge?]

theorem mem_configElements_ofChanges (changes : List GraphChange) (parent element : String) :
    element ∈ (ofChanges changes).adjacent (·.configElements) parent ↔
      EnablesElement changes parent element := by
  refine ofChanges_iff changes (fun graph => element ∈ graph.adjacent (·.configElements) parent) ?_
    fun graph change => mem_configElements_apply graph change parent element
  simp [adjacent, empty]

theorem mem_features_apply (graph : EnablementGraph) (change : GraphChange) (key : String) :
    key ∈ (change.apply graph).features ↔
      key ∈ graph.features ∨ ∃ name ∈ change.featureNames, Name.normalize name = key := by
  have hnode : ∀ graph : EnablementGraph, key ∈ graph.features ↔ (graph.name? key).isSome := by
    intro graph
    rw [name?, Option.isSome_map, Std.ExtTreeMap.mem_iff_isSome_getElem?]
  rw [hnode, hnode, name?_apply, Option.isSome_or, Bool.or_eq_true, isSome_spelling?_iff]
  simp

/-- Nodes stand under the normal forms of their names, and the adjacency sets at the two ends of an
edge agree and lead to nodes. -/
structure WellFormed (graph : EnablementGraph) : Prop where
  feature_key : ∀ key node, graph.features[key]? = some node → Name.normalize node.name = key
  element_key : ∀ key node, graph.elements[key]? = some node → Name.normalize node.name = key
  enables_iff : ∀ parent child, child ∈ graph.adjacent (·.enables) parent ↔
    parent ∈ graph.adjacent (·.enabledBy) child
  configElements_iff : ∀ parent element, element ∈ graph.adjacent (·.configElements) parent ↔
    parent ∈ graph.enablers element
  enables_mem : ∀ parent, ∀ child ∈ graph.adjacent (·.enables) parent, child ∈ graph.features
  enabledBy_mem : ∀ child, ∀ parent ∈ graph.adjacent (·.enabledBy) child, parent ∈ graph.features
  configElements_mem : ∀ parent, ∀ element ∈ graph.adjacent (·.configElements) parent,
    element ∈ graph.elements
  enablers_mem : ∀ element, ∀ parent ∈ graph.enablers element, parent ∈ graph.features

theorem wellFormed_empty : empty.WellFormed := by
  constructor <;> simp [empty, adjacent, enablers]

theorem normalize_name_updateElement {update : ElementNode → ElementNode} {node : ElementNode}
    (hkeeps : ∀ node, (update node).name = node.name)
    (h : ∀ key node, graph.elements[key]? = some node → Name.normalize node.name = key)
    (hnode : (graph.updateElement name update).elements[key]? = some node) :
    Name.normalize node.name = key := by
  rw [getElem?_updateElement] at hnode
  split at hnode
  · rename_i hkey
    obtain rfl := Option.some.inj hnode
    rw [hkeeps]
    cases hold : graph.elements[key]? with
    | none => simpa [ElementNode.bare] using hkey
    | some old => exact h key old hold
  · exact h key node hnode

namespace WellFormed

theorem feature_key_apply (h : graph.WellFormed) (key : String) (node : FeatureNode)
    (hnode : (change.apply graph).features[key]? = some node) : Name.normalize node.name = key := by
  have hname : (change.apply graph).name? key = some node.name := by rw [name?, hnode]; rfl
  rw [name?_apply, Option.or_eq_some_iff] at hname
  rcases hname with hold | ⟨-, hnew⟩
  · obtain ⟨old, hget, heq⟩ := Option.map_eq_some_iff.mp hold
    rw [← heq]
    exact h.feature_key key old hget
  · exact normalize_of_spelling? hnew

theorem element_key_apply (h : graph.WellFormed) (key : String) (node : ElementNode)
    (hnode : (change.apply graph).elements[key]? = some node) : Name.normalize node.name = key := by
  cases change with
  | addFeature name description => exact h.element_key key node hnode
  | addConfigElement name =>
    exact normalize_name_updateElement (fun _ => rfl) h.element_key hnode
  | recordEnables parent child => exact h.element_key key node hnode
  | recordEnablesElement parent element =>
    rw [GraphChange.apply, recordEnablesElement, elements_updateFeature] at hnode
    exact normalize_name_updateElement (by simp) h.element_key hnode

/-- A change records an edge at both of its ends, and makes the nodes there. -/
protected theorem apply (h : graph.WellFormed) (change : GraphChange) :
    (change.apply graph).WellFormed where
  feature_key := h.feature_key_apply
  element_key := h.element_key_apply
  enables_iff parent child := by
    rw [mem_enables_apply, mem_enabledBy_apply, h.enables_iff]
  configElements_iff parent element := by
    rw [mem_configElements_apply, mem_enablers_apply, h.configElements_iff]
  enables_mem parent child hmem := by
    rw [mem_enables_apply] at hmem
    rw [mem_features_apply]
    refine hmem.imp (h.enables_mem parent child) fun hedge => ?_
    have hmentions := (Enables.mentions ⟨change, List.mem_singleton_self _, hedge⟩).2
    simpa using isSome_spelling?_iff.mp hmentions
  enabledBy_mem child parent hmem := by
    rw [mem_enabledBy_apply] at hmem
    rw [mem_features_apply]
    refine hmem.imp (h.enabledBy_mem child parent) fun hedge => ?_
    have hmentions := (Enables.mentions ⟨change, List.mem_singleton_self _, hedge⟩).1
    simpa using isSome_spelling?_iff.mp hmentions
  configElements_mem parent element hmem := by
    rw [mem_configElements_apply] at hmem
    rw [mem_elements_apply]
    refine hmem.imp (h.configElements_mem parent element) fun hedge => ?_
    have hmentions := (EnablesElement.mentions ⟨change, List.mem_singleton_self _, hedge⟩).2
    simpa [MentionsElement] using hmentions
  enablers_mem element parent hmem := by
    rw [mem_enablers_apply] at hmem
    rw [mem_features_apply]
    refine hmem.imp (h.enablers_mem element parent) fun hedge => ?_
    have hmentions := (EnablesElement.mentions ⟨change, List.mem_singleton_self _, hedge⟩).1
    simpa using isSome_spelling?_iff.mp hmentions

end WellFormed

theorem wellFormed_ofChanges (changes : List GraphChange) : (ofChanges changes).WellFormed := by
  induction changes using List.reverseRecOn with
  | nil => exact wellFormed_empty
  | append_singleton changes change ih =>
    rw [ofChanges_concat]
    exact ih.apply change

/-! ## Changes that are made again -/

theorem updateFeature_eq_self {update : FeatureNode → FeatureNode} {node : FeatureNode}
    (hnode : graph.features[Name.normalize name]? = some node) (hsame : update node = node) :
    graph.updateFeature name update = graph := by
  have hfeatures : (graph.updateFeature name update).features = graph.features := by
    apply Std.ExtTreeMap.ext_getElem?
    intro key
    rw [getElem?_updateFeature]
    split
    · rename_i hkey
      rw [← hkey, hnode, Option.getD_some, hsame]
    · rfl
  have helements : (graph.updateFeature name update).elements = graph.elements := rfl
  cases graph
  simp_all [updateFeature]

theorem updateElement_eq_self {update : ElementNode → ElementNode} {node : ElementNode}
    (hnode : graph.elements[Name.normalize name]? = some node) (hsame : update node = node) :
    graph.updateElement name update = graph := by
  have helements : (graph.updateElement name update).elements = graph.elements := by
    apply Std.ExtTreeMap.ext_getElem?
    intro key
    rw [getElem?_updateElement]
    split
    · rename_i hkey
      rw [← hkey, hnode, Option.getD_some, hsame]
    · rfl
  cases graph
  simp_all [updateElement]

/-- The graph holds all that the change would record. -/
def Recorded (graph : EnablementGraph) : GraphChange → Prop
  | .addFeature name description => ∃ node, graph.features[Name.normalize name]? = some node ∧
      (description.isSome → node.description.isSome)
  | .addConfigElement name => Name.normalize name ∈ graph.elements
  | .recordEnables parent child =>
      Name.normalize child ∈ graph.adjacent (·.enables) (Name.normalize parent) ∧
        Name.normalize parent ∈ graph.adjacent (·.enabledBy) (Name.normalize child)
  | .recordEnablesElement parent element =>
      Name.normalize element ∈ graph.adjacent (·.configElements) (Name.normalize parent) ∧
        Name.normalize parent ∈ graph.enablers (Name.normalize element)

theorem recorded_apply (graph : EnablementGraph) (change : GraphChange) :
    (change.apply graph).Recorded change := by
  cases change with
  | addFeature name description =>
    refine ⟨_, (getElem?_updateFeature _).trans (if_pos rfl), ?_⟩
    intro hsome
    cases (graph.features[Name.normalize name]?.getD (.bare name)).description with
    | none => exact hsome
    | some text => rfl
  | addConfigElement name => exact (mem_updateElement id).mpr (Or.inl rfl)
  | recordEnables parent child =>
    exact ⟨(mem_enables_apply graph _ _ _).mpr (Or.inr rfl),
      (mem_enabledBy_apply graph _ _ _).mpr (Or.inr rfl)⟩
  | recordEnablesElement parent element =>
    exact ⟨(mem_configElements_apply graph _ _ _).mpr (Or.inr rfl),
      (mem_enablers_apply graph _ _ _).mpr (Or.inr rfl)⟩

theorem Recorded.within (h : before.Recorded change) (hwithin : before.Within after) :
    after.Recorded change := by
  cases change with
  | addFeature name description =>
    obtain ⟨node, hnode, hdescription⟩ := h
    obtain ⟨later, hlater, hnew⟩ := hwithin.features _ node hnode
    refine ⟨later, hlater, fun hsome => ?_⟩
    obtain ⟨text, htext⟩ := Option.isSome_iff_exists.mp (hdescription hsome)
    rw [hnew.description text htext]
    rfl
  | addConfigElement name => exact hwithin.mem_elements h
  | recordEnables parent child =>
    exact ⟨hwithin.mem_adjacent (fun _ _ hnew => hnew.enables) h.1,
      hwithin.mem_adjacent (fun _ _ hnew => hnew.enabledBy) h.2⟩
  | recordEnablesElement parent element =>
    exact ⟨hwithin.mem_adjacent (fun _ _ hnew => hnew.configElements) h.1,
      hwithin.mem_enablers h.2⟩

theorem exists_of_mem_adjacent {side : FeatureNode → NameSet} {other : String}
    (h : other ∈ graph.adjacent side key) :
    ∃ node, graph.features[key]? = some node ∧ other ∈ side node := by
  unfold adjacent at h
  cases hnode : graph.features[key]? with
  | none => simp [hnode] at h
  | some node => exact ⟨node, rfl, by simpa [hnode] using h⟩

theorem exists_of_mem_enablers {parent : String} (h : parent ∈ graph.enablers key) :
    ∃ node, graph.elements[key]? = some node ∧ parent ∈ node.enabledBy := by
  unfold enablers at h
  cases hnode : graph.elements[key]? with
  | none => simp [hnode] at h
  | some node => exact ⟨node, rfl, by simpa [hnode] using h⟩

theorem Recorded.apply_eq_self (h : graph.Recorded change) : change.apply graph = graph := by
  cases change with
  | addFeature name description =>
    obtain ⟨node, hnode, hdescription⟩ := h
    rw [apply, addFeature]
    have hsame : (node.description <|> description) = node.description := by
      cases hold : node.description with
      | some text => rfl
      | none =>
        rw [hold] at hdescription
        simpa using hdescription
    exact updateFeature_eq_self hnode (by rw [hsame])
  | addConfigElement name =>
    rw [Recorded, Std.ExtTreeMap.mem_iff_isSome_getElem?, Option.isSome_iff_exists] at h
    obtain ⟨node, hnode⟩ := h
    exact updateElement_eq_self hnode rfl
  | recordEnables parent child =>
    obtain ⟨source, hsource, hchild⟩ := exists_of_mem_adjacent h.1
    obtain ⟨target, htarget, hparent⟩ := exists_of_mem_adjacent h.2
    rw [apply, recordEnables,
      updateFeature_eq_self htarget (by rw [NameSet.insert_eq_self hparent])]
    exact updateFeature_eq_self hsource (by rw [NameSet.insert_eq_self hchild])
  | recordEnablesElement parent element =>
    obtain ⟨source, hsource, helement⟩ := exists_of_mem_adjacent h.1
    obtain ⟨target, htarget, hparent⟩ := exists_of_mem_enablers h.2
    rw [apply, recordEnablesElement,
      updateElement_eq_self htarget (by rw [NameSet.insert_eq_self hparent])]
    exact updateFeature_eq_self hsource (by rw [NameSet.insert_eq_self helement])

theorem recorded_of_mem (h : change ∈ changes) : (ofChanges changes).Recorded change := by
  obtain ⟨front, back, rfl⟩ := List.append_of_mem h
  have hfront : (ofChanges (front ++ [change])).Recorded change := by
    rw [ofChanges_concat]
    exact recorded_apply _ change
  rw [← List.concat_append, List.concat_eq_append, ofChanges, List.foldl_append]
  exact hfront.within (within_foldl _ back)

theorem ofChanges_append_of_subset (h : others ⊆ changes) :
    ofChanges (changes ++ others) = ofChanges changes := by
  induction others using List.reverseRecOn with
  | nil => rw [List.append_nil]
  | append_singleton others change ih =>
    rw [← List.append_assoc, ofChanges_concat, ih fun _ hmem => h (List.mem_append_left _ hmem)]
    have hmem : change ∈ changes := h (List.mem_append_right _ (List.mem_singleton_self _))
    exact (recorded_of_mem hmem).apply_eq_self

/-! ## The order of changes -/

/-- Equal keys and equal edges. -/
structure Alike (left right : EnablementGraph) : Prop where
  features : ∀ key, key ∈ left.features ↔ key ∈ right.features
  elements : ∀ key, key ∈ left.elements ↔ key ∈ right.elements
  enables : ∀ key, left.adjacent (·.enables) key = right.adjacent (·.enables) key
  enabledBy : ∀ key, left.adjacent (·.enabledBy) key = right.adjacent (·.enabledBy) key
  configElements : ∀ key,
    left.adjacent (·.configElements) key = right.adjacent (·.configElements) key
  enablers : ∀ key, left.enablers key = right.enablers key
  featureCount : left.featureCount = right.featureCount
  elementCount : left.elementCount = right.elementCount

/-- Keys of the names that are mentioned as features. -/
def featureKeys (changes : List GraphChange) : List String :=
  (changes.flatMap featureNames).map Name.normalize

def elementKeys (changes : List GraphChange) : List String :=
  (changes.flatMap elementNames).map Name.normalize

theorem mem_features_ofChanges_iff : key ∈ (ofChanges changes).features ↔
    key ∈ featureKeys changes := by
  rw [mem_features_ofChanges, isSome_spelling?_iff, featureKeys]
  simp only [List.mem_map, List.mem_flatMap]
  constructor
  · rintro ⟨change, hchange, name, hname, hkey⟩
    exact ⟨name, ⟨change, hchange, hname⟩, hkey⟩
  · rintro ⟨name, ⟨change, hchange, hname⟩, hkey⟩
    exact ⟨change, hchange, name, hname, hkey⟩

theorem mem_elements_ofChanges_iff : key ∈ (ofChanges changes).elements ↔
    key ∈ elementKeys changes := by
  rw [mem_elements_ofChanges, MentionsElement, elementKeys]
  simp only [List.mem_map, List.mem_flatMap]
  constructor
  · rintro ⟨change, hchange, name, hname, hkey⟩
    exact ⟨name, ⟨change, hchange, hname⟩, hkey⟩
  · rintro ⟨name, ⟨change, hchange, hname⟩, hkey⟩
    exact ⟨change, hchange, name, hname, hkey⟩

theorem featureCount_ofChanges (changes : List GraphChange) :
    (ofChanges changes).featureCount = (featureKeys changes).toFinset.card :=
  NameMap.size_eq_card fun _ => mem_features_ofChanges_iff

theorem elementCount_ofChanges (changes : List GraphChange) :
    (ofChanges changes).elementCount = (elementKeys changes).toFinset.card :=
  NameMap.size_eq_card fun _ => mem_elements_ofChanges_iff

/-- What is said of some change does not depend on the order of the changes. -/
theorem alike_of_perm (h : changes.Perm others) :
    (ofChanges changes).Alike (ofChanges others) := by
  have hfeatures : (featureKeys changes).Perm (featureKeys others) := (h.flatMap_right _).map _
  have helements : (elementKeys changes).Perm (elementKeys others) := (h.flatMap_right _).map _
  have henables : ∀ parent child, Enables changes parent child ↔ Enables others parent child :=
    fun _ _ => exists_congr fun change => and_congr_left' h.mem_iff
  have henablers : ∀ parent element,
      EnablesElement changes parent element ↔ EnablesElement others parent element :=
    fun _ _ => exists_congr fun change => and_congr_left' h.mem_iff
  refine ⟨fun key => ?_, fun key => ?_, fun key => ?_, fun key => ?_, fun key => ?_,
    fun key => ?_, ?_, ?_⟩
  · rw [mem_features_ofChanges_iff, mem_features_ofChanges_iff, hfeatures.mem_iff]
  · rw [mem_elements_ofChanges_iff, mem_elements_ofChanges_iff, helements.mem_iff]
  · refine Std.ExtTreeSet.ext_mem fun child => ?_
    rw [mem_enables_ofChanges, mem_enables_ofChanges, henables]
  · refine Std.ExtTreeSet.ext_mem fun parent => ?_
    rw [mem_enabledBy_ofChanges, mem_enabledBy_ofChanges, henables]
  · refine Std.ExtTreeSet.ext_mem fun element => ?_
    rw [mem_configElements_ofChanges, mem_configElements_ofChanges, henablers]
  · refine Std.ExtTreeSet.ext_mem fun parent => ?_
    rw [mem_enablers_ofChanges, mem_enablers_ofChanges, henablers]
  · rw [featureCount_ofChanges, featureCount_ofChanges, List.toFinset_eq_of_perm _ _ hfeatures]
  · rw [elementCount_ofChanges, elementCount_ofChanges, List.toFinset_eq_of_perm _ _ helements]

/-- The integrity of a graph, whatever is recorded in it. -/
theorem integrity_ofChanges (changes : List GraphChange) :
    (ofChanges changes).WellFormed ∧
    (ofChanges changes).featureCount = (featureKeys changes).toFinset.card ∧
    (ofChanges changes).elementCount = (elementKeys changes).toFinset.card ∧
    (∀ change, (ofChanges changes).Within (ofChanges (changes ++ [change]))) ∧
    (∀ others, others ⊆ changes → ofChanges (changes ++ others) = ofChanges changes) ∧
    ∀ others, changes.Perm others → (ofChanges changes).Alike (ofChanges others) := by
  refine ⟨wellFormed_ofChanges changes, featureCount_ofChanges changes,
    elementCount_ofChanges changes, fun change => ?_, fun _ => ofChanges_append_of_subset,
    fun _ => alike_of_perm⟩
  rw [ofChanges_concat]
  exact within_apply _ change

/-- Two features under four spellings; which of them names a node depends on the order. -/
theorem integrity_ofChanges_mutualChanges :
    [.recordEnables "B" "a "] ⊆ mutualChanges ∧
    ofChanges (mutualChanges ++ [.recordEnables "B" "a "]) = ofChanges mutualChanges ∧
    mutualChanges.Perm mutualChanges.reverse ∧
    (ofChanges mutualChanges).Alike (ofChanges mutualChanges.reverse) ∧
    (ofChanges mutualChanges).featureCount = 2 ∧
    (ofChanges mutualChanges).name? "a" = some "A" ∧
    (ofChanges mutualChanges.reverse).name? "a" = some "a" := by
  have hmade : [.recordEnables "B" "a "] ⊆ mutualChanges := by simp [mutualChanges]
  have hperm : mutualChanges.Perm mutualChanges.reverse := (List.reverse_perm _).symm
  obtain ⟨-, hcount, -, -, hagain, horder⟩ := integrity_ofChanges mutualChanges
  exact ⟨hmade, hagain _ hmade, hperm, horder _ hperm, hcount.trans (by decide +kernel),
    by decide +kernel, by decide +kernel⟩

end EnablementGraph

end FeatureCheck
