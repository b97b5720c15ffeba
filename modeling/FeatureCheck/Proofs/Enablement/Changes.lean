import FeatureCheck.Proofs.Enablement.Walk
import Mathlib.Data.List.Induction

/-!
# What a graph records

A graph is made by a list of changes to the empty one. Read back, it holds the edges that were
recorded, at both ends, and for each feature the spelling of its first mention. Names count as one
when their normal forms are equal.
-/

namespace FeatureCheck

set_option autoImplicit false

/-- A change to a graph, with the names as they are given. -/
inductive GraphChange where
  | addFeature (name : String) (description : Option String)
  | addConfigElement (name : String)
  | recordEnables (parent child : String)
  | recordEnablesElement (parent element : String)

namespace GraphChange

def apply (graph : EnablementGraph) : GraphChange → EnablementGraph
  | .addFeature name description => graph.addFeature name description
  | .addConfigElement name => graph.addConfigElement name
  | .recordEnables parent child => graph.recordEnables parent child
  | .recordEnablesElement parent element => graph.recordEnablesElement parent element

/-- The names that are mentioned as features, in the order in which missing nodes are made. -/
def featureNames : GraphChange → List String
  | .addFeature name _ => [name]
  | .addConfigElement _ => []
  | .recordEnables parent child => [child, parent]
  | .recordEnablesElement parent _ => [parent]

def elementNames : GraphChange → List String
  | .addConfigElement name => [name]
  | .recordEnablesElement _ element => [element]
  | _ => []

/-- The keys of a parent and its child. -/
def edge? : GraphChange → Option (String × String)
  | .recordEnables parent child => some (Name.normalize parent, Name.normalize child)
  | _ => none

def elementEdge? : GraphChange → Option (String × String)
  | .recordEnablesElement parent element => some (Name.normalize parent, Name.normalize element)
  | _ => none

/-- An edge from parent to child was recorded. -/
def Enables (changes : List GraphChange) (parent child : String) : Prop :=
  ∃ change ∈ changes, change.edge? = some (parent, child)

def EnablesElement (changes : List GraphChange) (parent element : String) : Prop :=
  ∃ change ∈ changes, change.elementEdge? = some (parent, element)

def MentionsElement (changes : List GraphChange) (key : String) : Prop :=
  ∃ change ∈ changes, ∃ name ∈ change.elementNames, Name.normalize name = key

/-- How a feature was spelled first, if it was mentioned. -/
def spelling? (changes : List GraphChange) (key : String) : Option String :=
  ((changes.flatMap featureNames).find? (Name.normalize · = key)).map Text.trim

section Mentions

variable {changes : List GraphChange} {parent child element key name : String}

theorem isSome_spelling?_iff : (spelling? changes key).isSome ↔
    ∃ change ∈ changes, ∃ name ∈ change.featureNames, Name.normalize name = key := by
  simp only [spelling?, Option.isSome_map, List.find?_isSome, List.mem_flatMap, decide_eq_true_eq]
  constructor
  · intro hexists
    obtain ⟨name, ⟨change, hchange, hname⟩, hkey⟩ := hexists
    exact ⟨change, hchange, name, hname, hkey⟩
  · intro hexists
    obtain ⟨change, hchange, name, hname, hkey⟩ := hexists
    exact ⟨name, ⟨change, hchange, hname⟩, hkey⟩

theorem normalize_of_spelling? (h : spelling? changes key = some name) :
    Name.normalize name = key := by
  obtain ⟨first, hfirst, rfl⟩ := Option.map_eq_some_iff.mp h
  have hkey := List.find?_some hfirst
  simpa using hkey

theorem Enables.mentions (h : Enables changes parent child) :
    (spelling? changes parent).isSome ∧ (spelling? changes child).isSome := by
  obtain ⟨change, hchange, hedge⟩ := h
  cases change with
  | recordEnables source target =>
    simp only [edge?, Option.some.injEq, Prod.mk.injEq] at hedge
    obtain ⟨rfl, rfl⟩ := hedge
    exact ⟨isSome_spelling?_iff.mpr ⟨_, hchange, source, by simp [featureNames], rfl⟩,
      isSome_spelling?_iff.mpr ⟨_, hchange, target, by simp [featureNames], rfl⟩⟩
  | _ => simp [edge?] at hedge

theorem EnablesElement.mentions (h : EnablesElement changes parent element) :
    (spelling? changes parent).isSome ∧ MentionsElement changes element := by
  obtain ⟨change, hchange, hedge⟩ := h
  cases change with
  | recordEnablesElement source target =>
    simp only [elementEdge?, Option.some.injEq, Prod.mk.injEq] at hedge
    obtain ⟨rfl, rfl⟩ := hedge
    exact ⟨isSome_spelling?_iff.mpr ⟨_, hchange, source, by simp [featureNames], rfl⟩,
      _, hchange, target, by simp [elementNames], rfl⟩
  | _ => simp [elementEdge?] at hedge

end Mentions

end GraphChange

namespace EnablementGraph

open GraphChange

variable {graph : EnablementGraph} {side : FeatureNode → NameSet} {key name : String}

def ofChanges (changes : List GraphChange) : EnablementGraph :=
  changes.foldl GraphChange.apply .empty

@[simp] theorem ofChanges_nil : ofChanges [] = .empty := rfl

@[simp] theorem ofChanges_concat (changes : List GraphChange) (change : GraphChange) :
    ofChanges (changes ++ [change]) = change.apply (ofChanges changes) := by
  simp [ofChanges]

/-- Keys of the features that enable an element directly. -/
def enablers (graph : EnablementGraph) (key : String) : NameSet :=
  (graph.elements[key]?).elim ∅ (·.enabledBy)

/-! ## Updates of one node -/

@[simp] theorem features_updateElement (update : ElementNode → ElementNode) :
    (graph.updateElement name update).features = graph.features := rfl

@[simp] theorem elements_updateFeature (update : FeatureNode → FeatureNode) :
    (graph.updateFeature name update).elements = graph.elements := rfl

theorem getElem?_updateFeature (update : FeatureNode → FeatureNode) :
    (graph.updateFeature name update).features[key]? =
      if Name.normalize name = key then some (update ((graph.features[key]?).getD (.bare name)))
      else graph.features[key]? := by
  unfold updateFeature
  rw [Std.ExtTreeMap.getElem?_alter]
  simp only [Std.LawfulEqCmp.compare_eq_iff_eq]
  split
  · rename_i heq
    rw [heq]
  · rfl

theorem getElem?_updateElement (update : ElementNode → ElementNode) :
    (graph.updateElement name update).elements[key]? =
      if Name.normalize name = key then some (update ((graph.elements[key]?).getD (.bare name)))
      else graph.elements[key]? := by
  unfold updateElement
  rw [Std.ExtTreeMap.getElem?_alter]
  simp only [Std.LawfulEqCmp.compare_eq_iff_eq]
  split
  · rename_i heq
    rw [heq]
  · rfl

section Sides

variable {update : FeatureNode → FeatureNode}

theorem adjacent_updateFeature_of_keeps (hbare : ∀ name, side (.bare name) = ∅)
    (hkeeps : ∀ node, side (update node) = side node) :
    (graph.updateFeature name update).adjacent side key = graph.adjacent side key := by
  unfold adjacent
  rw [getElem?_updateFeature]
  split
  · cases graph.features[key]? with
    | none => simp [hkeeps, hbare]
    | some node => simp [hkeeps]
  · rfl

theorem adjacent_updateFeature_of_inserts (other : String)
    (hbare : ∀ name, side (.bare name) = ∅)
    (hinserts : ∀ node, side (update node) = (side node).insert other) :
    (graph.updateFeature name update).adjacent side key =
      if Name.normalize name = key then (graph.adjacent side key).insert other
      else graph.adjacent side key := by
  unfold adjacent
  rw [getElem?_updateFeature]
  split
  · cases graph.features[key]? with
    | none => simp [hinserts, hbare]
    | some node => simp [hinserts]
  · rfl

theorem name?_updateFeature (hkeeps : ∀ node, (update node).name = node.name) :
    (graph.updateFeature name update).name? key =
      (graph.name? key).or
        (if Name.normalize name = key then some (Text.trim name) else none) := by
  unfold name?
  rw [getElem?_updateFeature]
  split
  · cases graph.features[key]? with
    | none => simp [hkeeps]
    | some node => simp [hkeeps]
  · simp

end Sides

@[simp] theorem adjacent_updateElement (update : ElementNode → ElementNode) :
    (graph.updateElement name update).adjacent side key = graph.adjacent side key := rfl

theorem mem_updateElement (update : ElementNode → ElementNode) :
    key ∈ (graph.updateElement name update).elements ↔
      Name.normalize name = key ∨ key ∈ graph.elements := by
  rw [Std.ExtTreeMap.mem_iff_isSome_getElem?, getElem?_updateElement,
    Std.ExtTreeMap.mem_iff_isSome_getElem?]
  split <;> simp [*]

/-! ## One change -/

section Change

variable (graph) (change : GraphChange)

theorem mem_enables_apply (parent child : String) :
    child ∈ (change.apply graph).adjacent (·.enables) parent ↔
      child ∈ graph.adjacent (·.enables) parent ∨ change.edge? = some (parent, child) := by
  cases change with
  | addFeature name description =>
    rw [apply, addFeature, adjacent_updateFeature_of_keeps (by simp) (by simp)]
    simp [edge?]
  | addConfigElement name => simp [apply, addConfigElement, edge?]
  | recordEnables source target =>
    rw [apply, recordEnables,
      adjacent_updateFeature_of_inserts (Name.normalize target) (by simp) (by simp),
      adjacent_updateFeature_of_keeps (by simp) (by simp)]
    by_cases hsource : Name.normalize source = parent
    · simp [hsource, edge?, or_comm]
    · simp [hsource, edge?]
  | recordEnablesElement source element =>
    rw [apply, recordEnablesElement, adjacent_updateFeature_of_keeps (by simp) (by simp)]
    simp [edge?]

theorem mem_enabledBy_apply (parent child : String) :
    parent ∈ (change.apply graph).adjacent (·.enabledBy) child ↔
      parent ∈ graph.adjacent (·.enabledBy) child ∨ change.edge? = some (parent, child) := by
  cases change with
  | addFeature name description =>
    rw [apply, addFeature, adjacent_updateFeature_of_keeps (by simp) (by simp)]
    simp [edge?]
  | addConfigElement name => simp [apply, addConfigElement, edge?]
  | recordEnables source target =>
    rw [apply, recordEnables, adjacent_updateFeature_of_keeps (by simp) (by simp),
      adjacent_updateFeature_of_inserts (Name.normalize source) (by simp) (by simp)]
    by_cases htarget : Name.normalize target = child
    · simp [htarget, edge?, or_comm]
    · simp [htarget, edge?]
  | recordEnablesElement source element =>
    rw [apply, recordEnablesElement, adjacent_updateFeature_of_keeps (by simp) (by simp)]
    simp [edge?]

theorem mem_enablers_apply (parent element : String) :
    parent ∈ (change.apply graph).enablers element ↔
      parent ∈ graph.enablers element ∨ change.elementEdge? = some (parent, element) := by
  cases change with
  | addFeature name description => simp [apply, addFeature, enablers, elementEdge?]
  | addConfigElement name =>
    simp only [apply, addConfigElement, enablers, getElem?_updateElement]
    split
    · cases graph.elements[element]? with
      | none => simp [elementEdge?]
      | some node => simp [elementEdge?]
    · simp [elementEdge?]
  | recordEnables source target => simp [apply, recordEnables, enablers, elementEdge?]
  | recordEnablesElement source target =>
    simp only [apply, recordEnablesElement, enablers, elements_updateFeature,
      getElem?_updateElement]
    by_cases htarget : Name.normalize target = element
    · cases graph.elements[element]? with
      | none => simp [htarget, elementEdge?]
      | some node => simp [htarget, elementEdge?, or_comm]
    · simp [htarget, elementEdge?]

theorem name?_apply (key : String) :
    (change.apply graph).name? key = (graph.name? key).or (spelling? [change] key) := by
  cases change with
  | addFeature name description =>
    rw [apply, addFeature, name?_updateFeature (by simp)]
    by_cases h : Name.normalize name = key <;> simp [spelling?, featureNames, h]
  | addConfigElement name => simp [apply, addConfigElement, name?, spelling?, featureNames]
  | recordEnables parent child =>
    rw [apply, recordEnables, name?_updateFeature (by simp), name?_updateFeature (by simp),
      Option.or_assoc]
    by_cases hchild : Name.normalize child = key
    · simp [spelling?, featureNames, hchild]
    · by_cases hparent : Name.normalize parent = key <;>
        simp [spelling?, featureNames, hchild, hparent]
  | recordEnablesElement parent element =>
    rw [apply, recordEnablesElement, name?_updateFeature (by simp)]
    by_cases h : Name.normalize parent = key <;> simp [name?, spelling?, featureNames, h]

theorem mem_elements_apply (key : String) :
    key ∈ (change.apply graph).elements ↔
      key ∈ graph.elements ∨ ∃ name ∈ change.elementNames, Name.normalize name = key := by
  cases change with
  | addFeature name description => simp [apply, addFeature, elementNames]
  | addConfigElement name =>
    simp [apply, addConfigElement, mem_updateElement, elementNames, or_comm]
  | recordEnables parent child => simp [apply, recordEnables, elementNames]
  | recordEnablesElement parent element =>
    simp [apply, recordEnablesElement, mem_updateElement, elementNames, or_comm]

end Change

/-! ## A list of changes -/

section Changes

variable (changes : List GraphChange)

/-- What each change adds to a graph, and nothing else makes true, is what some change has
recorded. -/
theorem ofChanges_iff (holds : EnablementGraph → Prop) {records : GraphChange → Prop}
    (hempty : ¬ holds .empty)
    (happly : ∀ graph change, holds (change.apply graph) ↔ holds graph ∨ records change) :
    holds (ofChanges changes) ↔ ∃ change ∈ changes, records change := by
  induction changes using List.reverseRecOn with
  | nil => simpa using hempty
  | append_singleton changes change ih =>
    rw [ofChanges_concat, happly, ih]
    simp [or_and_right, exists_or]

theorem mem_enables_ofChanges (parent child : String) :
    child ∈ (ofChanges changes).adjacent (·.enables) parent ↔ Enables changes parent child := by
  refine ofChanges_iff changes (fun graph => child ∈ graph.adjacent (·.enables) parent) ?_
    fun graph change => mem_enables_apply graph change parent child
  simp [adjacent, empty]

theorem mem_enabledBy_ofChanges (parent child : String) :
    parent ∈ (ofChanges changes).adjacent (·.enabledBy) child ↔ Enables changes parent child := by
  refine ofChanges_iff changes (fun graph => parent ∈ graph.adjacent (·.enabledBy) child) ?_
    fun graph change => mem_enabledBy_apply graph change parent child
  simp [adjacent, empty]

theorem mem_enablers_ofChanges (parent element : String) :
    parent ∈ (ofChanges changes).enablers element ↔ EnablesElement changes parent element := by
  refine ofChanges_iff changes (fun graph => parent ∈ graph.enablers element) ?_
    fun graph change => mem_enablers_apply graph change parent element
  simp [enablers, empty]

theorem mem_elements_ofChanges (key : String) :
    key ∈ (ofChanges changes).elements ↔ MentionsElement changes key := by
  refine ofChanges_iff changes (fun graph => key ∈ graph.elements) ?_
    fun graph change => mem_elements_apply graph change key
  simp [empty]

theorem name?_ofChanges (key : String) :
    (ofChanges changes).name? key = spelling? changes key := by
  induction changes using List.reverseRecOn with
  | nil => simp [name?, empty, spelling?]
  | append_singleton changes change ih =>
    rw [ofChanges_concat, name?_apply, ih]
    simp [spelling?, Option.map_or]

end Changes

end EnablementGraph

end FeatureCheck
