import FeatureCheck.Proofs.Enablement.Changes

/-!
# The closures of a recorded graph

Whatever was recorded, in whatever order and spelling, the closures are reachability along the
recorded edges: `mem_allEnables_iff` forwards, `mem_allEnabledBy_iff_of_element` and
`mem_allEnabledBy_iff_of_feature` backwards.
-/

namespace FeatureCheck.EnablementGraph

set_option autoImplicit false

open GraphChange Relation

variable {changes : List GraphChange} {name found : String}

theorem mem_features_ofChanges (key : String) :
    key ∈ (ofChanges changes).features ↔ (spelling? changes key).isSome := by
  rw [← name?_ofChanges, name?, Option.isSome_map, Std.ExtTreeMap.mem_iff_isSome_getElem?]

theorem getElem?_features_eq_none_iff {key : String} :
    (ofChanges changes).features[key]? = none ↔ spelling? changes key = none := by
  rw [← name?_ofChanges, name?, Option.map_eq_none_iff]

theorem getElem?_elements_eq_none {key : String} (h : ¬ MentionsElement changes key) :
    (ofChanges changes).elements[key]? = none := by
  rw [← mem_elements_ofChanges, Std.ExtTreeMap.mem_iff_isSome_getElem?,
    Option.not_isSome_iff_eq_none] at h
  exact h

theorem adjacent_of_getElem? {graph : EnablementGraph} {side : FeatureNode → NameSet}
    {key : String} {node : FeatureNode} (h : graph.features[key]? = some node) :
    graph.adjacent side key = side node := by
  rw [adjacent, h]
  rfl

theorem enablers_of_getElem? {graph : EnablementGraph} {key : String} {node : ElementNode}
    (h : graph.elements[key]? = some node) : graph.enablers key = node.enabledBy := by
  rw [enablers, h]
  rfl

/-! ## The walks of a recorded graph stay inside it -/

theorem closed_enables (key : String) :
    (ofChanges changes).Closed (·.enables) ((ofChanges changes).adjacent (·.enables) key) := by
  have hchild : ∀ parent, ∀ child ∈ (ofChanges changes).adjacent (·.enables) parent,
      child ∈ (ofChanges changes).features := by
    intro parent child hedge
    rw [mem_enables_ofChanges] at hedge
    exact (mem_features_ofChanges child).mpr hedge.mentions.2
  exact ⟨hchild key, hchild⟩

theorem parent_mem_features {parent child : String}
    (h : parent ∈ (ofChanges changes).adjacent (·.enabledBy) child) :
    parent ∈ (ofChanges changes).features := by
  rw [mem_enabledBy_ofChanges] at h
  exact (mem_features_ofChanges parent).mpr h.mentions.1

theorem closed_enabledBy (key : String) :
    (ofChanges changes).Closed (·.enabledBy) ((ofChanges changes).adjacent (·.enabledBy) key) :=
  ⟨fun _ h => parent_mem_features h, fun _ _ h => parent_mem_features h⟩

theorem closed_enablers (key : String) :
    (ofChanges changes).Closed (·.enabledBy) ((ofChanges changes).enablers key) where
  start_mem parent h := by
    rw [mem_enablers_ofChanges] at h
    exact (mem_features_ofChanges parent).mpr h.mentions.1
  adjacent_mem _ _ h := parent_mem_features h

/-! ## What the closures hold -/

section Closures

variable (changes) (name)

theorem edge_enables :
    (fun parent child => child ∈ (ofChanges changes).adjacent (·.enables) parent) =
      Enables changes := by
  funext parent child
  exact propext (mem_enables_ofChanges changes parent child)

theorem edge_enabledBy :
    (fun child parent => parent ∈ (ofChanges changes).adjacent (·.enabledBy) child) =
      Function.swap (Enables changes) := by
  funext child parent
  exact propext (mem_enabledBy_ofChanges changes parent child)

theorem allEnables_eq_empty (h : spelling? changes (Name.normalize name) = none) :
    (ofChanges changes).allEnables name = ∅ := by
  simp [allEnables, getElem?_features_eq_none_iff.mpr h]

theorem allEnabledBy_eq_empty (h : spelling? changes (Name.normalize name) = none)
    (helement : ¬ MentionsElement changes (Name.normalize name)) :
    (ofChanges changes).allEnabledBy name = ∅ := by
  simp [allEnabledBy, getElem?_features_eq_none_iff.mpr h, getElem?_elements_eq_none helement]

theorem mem_allEnables_iff : found ∈ (ofChanges changes).allEnables name ↔
    ∃ other, other ≠ Name.normalize name ∧
      TransGen (Enables changes) (Name.normalize name) other ∧
      spelling? changes other = some found := by
  cases hnode : (ofChanges changes).features[Name.normalize name]? with
  | none =>
    rw [getElem?_features_eq_none_iff] at hnode
    rw [allEnables_eq_empty changes name hnode]
    simp only [Std.ExtTreeSet.not_mem_empty, false_iff]
    intro hexists
    obtain ⟨other, -, hpath, -⟩ := hexists
    obtain ⟨first, hfirst, -⟩ := TransGen.head'_iff.mp hpath
    simpa [hnode] using hfirst.mentions.1
  | some node =>
    have hstart : (ofChanges changes).adjacent (·.enables) (Name.normalize name) = node.enables :=
      adjacent_of_getElem? hnode
    simp only [allEnables, hnode, Option.elim_some]
    rw [← hstart, mem_walk_iff (closed_enables _)]
    simp only [reaches_origin_iff, edge_enables, name?_ofChanges, and_assoc]

/-- For a config element the closure starts at the features recorded as enabling it, and leaves
none out. -/
theorem mem_allEnabledBy_iff_of_element (h : MentionsElement changes (Name.normalize name)) :
    found ∈ (ofChanges changes).allEnabledBy name ↔
      ∃ parent other, EnablesElement changes parent (Name.normalize name) ∧
        ReflTransGen (Enables changes) other parent ∧ spelling? changes other = some found := by
  rw [← mem_elements_ofChanges, Std.ExtTreeMap.mem_iff_isSome_getElem?] at h
  obtain ⟨element, helement⟩ := Option.isSome_iff_exists.mp h
  have hstart : (ofChanges changes).enablers (Name.normalize name) = element.enabledBy :=
    enablers_of_getElem? helement
  simp only [allEnabledBy, helement]
  rw [← hstart, mem_walk_iff (closed_enablers _)]
  simp only [reaches_none_iff, edge_enabledBy, reflTransGen_swap, mem_enablers_ofChanges,
    name?_ofChanges]
  constructor
  · intro hexists
    obtain ⟨other, ⟨parent, helement, hpath⟩, hname⟩ := hexists
    exact ⟨parent, other, helement, hpath, hname⟩
  · intro hexists
    obtain ⟨parent, other, helement, hpath, hname⟩ := hexists
    exact ⟨other, ⟨parent, helement, hpath⟩, hname⟩

theorem mem_allEnabledBy_iff_of_feature (h : ¬ MentionsElement changes (Name.normalize name)) :
    found ∈ (ofChanges changes).allEnabledBy name ↔
      ∃ other, other ≠ Name.normalize name ∧
        TransGen (Enables changes) other (Name.normalize name) ∧
        spelling? changes other = some found := by
  cases hnode : (ofChanges changes).features[Name.normalize name]? with
  | none =>
    rw [getElem?_features_eq_none_iff] at hnode
    rw [allEnabledBy_eq_empty changes name hnode h]
    simp only [Std.ExtTreeSet.not_mem_empty, false_iff]
    intro hexists
    obtain ⟨other, -, hpath, -⟩ := hexists
    obtain ⟨last, -, hlast⟩ := TransGen.tail'_iff.mp hpath
    simpa [hnode] using hlast.mentions.2
  | some node =>
    have hstart : (ofChanges changes).adjacent (·.enabledBy) (Name.normalize name) =
        node.enabledBy := adjacent_of_getElem? hnode
    simp only [allEnabledBy, getElem?_elements_eq_none h, hnode]
    rw [← hstart, mem_walk_iff (closed_enabledBy _)]
    simp only [reaches_origin_iff, edge_enabledBy, transGen_swap, name?_ofChanges, and_assoc]

/-- What one feature enables, the other is enabled by. -/
theorem mem_allEnables_iff_mem_allEnabledBy {other first second : String}
    (hfirst : spelling? changes (Name.normalize name) = some first)
    (hsecond : spelling? changes (Name.normalize other) = some second)
    (h : ¬ MentionsElement changes (Name.normalize other)) :
    second ∈ (ofChanges changes).allEnables name ↔
      first ∈ (ofChanges changes).allEnabledBy other := by
  rw [mem_allEnables_iff, mem_allEnabledBy_iff_of_feature changes other h]
  constructor
  · intro hexists
    obtain ⟨key, hne, hpath, hkey⟩ := hexists
    have heq : key = Name.normalize other :=
      (normalize_of_spelling? hkey).symm.trans (normalize_of_spelling? hsecond)
    rw [heq] at hne hpath
    exact ⟨Name.normalize name, hne.symm, hpath, hfirst⟩
  · intro hexists
    obtain ⟨key, hne, hpath, hkey⟩ := hexists
    have heq : key = Name.normalize name :=
      (normalize_of_spelling? hkey).symm.trans (normalize_of_spelling? hfirst)
    rw [heq] at hne hpath
    exact ⟨Name.normalize other, hne.symm, hpath, hsecond⟩

/-- What the closures of a name hold, whatever was recorded. A walk never stops for want of room. -/
theorem closures_ofChanges :
    ((ofChanges changes).feature? name).map (·.name) =
      spelling? changes (Name.normalize name) ∧
    (∀ found, found ∈ (ofChanges changes).allEnables name ↔
      ∃ other, other ≠ Name.normalize name ∧
        TransGen (Enables changes) (Name.normalize name) other ∧
        spelling? changes other = some found) ∧
    (MentionsElement changes (Name.normalize name) →
      ∀ found, found ∈ (ofChanges changes).allEnabledBy name ↔
        ∃ parent other, EnablesElement changes parent (Name.normalize name) ∧
          ReflTransGen (Enables changes) other parent ∧ spelling? changes other = some found) ∧
    (¬ MentionsElement changes (Name.normalize name) →
      ∀ found, found ∈ (ofChanges changes).allEnabledBy name ↔
        ∃ other, other ≠ Name.normalize name ∧
          TransGen (Enables changes) other (Name.normalize name) ∧
          spelling? changes other = some found) ∧
    (spelling? changes (Name.normalize name) = none →
      (ofChanges changes).allEnables name = ∅ ∧
      (¬ MentionsElement changes (Name.normalize name) →
        (ofChanges changes).allEnabledBy name = ∅)) ∧
    (∀ node, (ofChanges changes).feature? name = some node →
      (ofChanges changes).Exhausts (·.enables) (some (Name.normalize name)) node.enables ∧
      (ofChanges changes).Exhausts (·.enabledBy) (some (Name.normalize name)) node.enabledBy) ∧
    (∀ element, (ofChanges changes).element? name = some element →
      (ofChanges changes).Exhausts (·.enabledBy) none element.enabledBy) ∧
    (∀ other first second, spelling? changes (Name.normalize name) = some first →
      spelling? changes (Name.normalize other) = some second →
      ¬ MentionsElement changes (Name.normalize other) →
      (second ∈ (ofChanges changes).allEnables name ↔
        first ∈ (ofChanges changes).allEnabledBy other)) := by
  refine ⟨name?_ofChanges changes _, fun _ => mem_allEnables_iff changes name,
    fun h _ => mem_allEnabledBy_iff_of_element changes name h,
    fun h _ => mem_allEnabledBy_iff_of_feature changes name h, ?_, ?_, ?_, ?_⟩
  · intro hunknown
    exact ⟨allEnables_eq_empty changes name hunknown, allEnabledBy_eq_empty changes name hunknown⟩
  · intro node hnode
    have henables : (ofChanges changes).adjacent (·.enables) (Name.normalize name) = node.enables :=
      adjacent_of_getElem? hnode
    have henabledBy : (ofChanges changes).adjacent (·.enabledBy) (Name.normalize name) =
        node.enabledBy := adjacent_of_getElem? hnode
    rw [← henables, ← henabledBy]
    exact ⟨exhausts (closed_enables _), exhausts (closed_enabledBy _)⟩
  · intro element helement
    have hstart : (ofChanges changes).enablers (Name.normalize name) = element.enabledBy :=
      enablers_of_getElem? helement
    rw [← hstart]
    exact exhausts (closed_enablers _)
  · intro other first second hfirst hsecond h
    exact mem_allEnables_iff_mem_allEnabledBy changes name hfirst hsecond h

end Closures

/-- Two features that enable one another, and an element of one of them. -/
def mutualChanges : List GraphChange :=
  [.recordEnables " A" "b", .recordEnables "B" "a ", .recordEnablesElement "b" "E"]

/-- The element is enabled by both, under the names by which they were mentioned first. -/
theorem closures_ofChanges_mutualChanges :
    MentionsElement mutualChanges (Name.normalize "e") ∧
      "A" ∈ (ofChanges mutualChanges).allEnabledBy "e" ∧
      "b" ∈ (ofChanges mutualChanges).allEnabledBy "e" := by
  have helement : MentionsElement mutualChanges (Name.normalize "e") :=
    ⟨.recordEnablesElement "b" "E", by simp [mutualChanges], "E", by simp [elementNames],
      by decide +kernel⟩
  have hmem := (closures_ofChanges mutualChanges "e").2.2.1 helement
  have hlisted : EnablesElement mutualChanges "b" (Name.normalize "e") :=
    ⟨.recordEnablesElement "b" "E", by simp [mutualChanges], by decide +kernel⟩
  have hedge : Enables mutualChanges "a" "b" :=
    ⟨.recordEnables " A" "b", by simp [mutualChanges], by decide +kernel⟩
  exact ⟨helement, (hmem "A").mpr ⟨"b", "a", hlisted, .single hedge, by decide +kernel⟩,
    (hmem "b").mpr ⟨"b", "b", hlisted, .refl, by decide +kernel⟩⟩

end FeatureCheck.EnablementGraph
