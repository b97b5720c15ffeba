import FeatureCheck.Proofs.Catalog.Enablement
import FeatureCheck.Proofs.Validation.Severity

/-!
# Config elements without a feature

A warning stands for each element that some feature of the catalog lists and no declared feature
enables, under its first spelling and in document order: `missing_validate`. For one element this is
`reportsMissing_iff`.
-/

namespace FeatureCheck

set_option autoImplicit false

instance (feature : Feature) (key : String) : Decidable (feature.Lists key) :=
  inferInstanceAs (Decidable (∃ element ∈ feature.configElements, Name.normalize element = key))

namespace Catalog

variable {catalog : Catalog} {declared elements : List String} {element key : String}

/-- A feature of the catalog lists the element with a key, but no declared feature enables it. -/
def Misses (catalog : Catalog) (declared : List String) (key : String) : Prop :=
  (∃ feature ∈ catalog.features, feature.Lists key) ∧
    ¬ ∃ name ∈ declared, ∃ feature ∈ catalog.features,
      catalog.Enables key feature ∧ Name.normalize name = feature.key

def missingFinding (catalog : Catalog) (element : String) : Finding where
  kind := .missingConfiguredFeature
  subject := Text.trim element
  related := ((catalog.publicFeatures.filter fun feature =>
    feature.Lists (Name.normalize element)).map (·.name)).mergeSort

theorem distinctElements_eq (seen : NameSet) (elements : List String) :
    distinctElements seen elements =
      ((firstOfEach Name.normalize elements).filter (Name.normalize · ∉ seen)).map Text.trim := by
  induction elements generalizing seen with
  | nil => rfl
  | cons element elements ih =>
    by_cases hseen : Name.normalize element ∈ seen
    · have hfilter : ((firstOfEach Name.normalize elements).filter
            (Name.normalize · ≠ Name.normalize element)).filter (Name.normalize · ∉ seen) =
          (firstOfEach Name.normalize elements).filter (Name.normalize · ∉ seen) := by
        rw [List.filter_filter]
        apply List.filter_congr
        intro other _
        by_cases hother : Name.normalize other ∈ seen
        · simp [hother]
        · have hne : Name.normalize other ≠ Name.normalize element := by
            intro heq
            rw [heq] at hother
            exact hother hseen
          simp [hother, hne]
      rw [firstOfEach, List.filter_cons_of_neg (by simpa using hseen), hfilter, ← ih,
        distinctElements]
      simp only [Std.ExtTreeSet.contains_iff_mem, hseen, if_true]
    · have hfilter : ((firstOfEach Name.normalize elements).filter
            (Name.normalize · ≠ Name.normalize element)).filter (Name.normalize · ∉ seen) =
          (firstOfEach Name.normalize elements).filter
            (Name.normalize · ∉ seen.insert (Name.normalize element)) := by
        rw [List.filter_filter]
        apply List.filter_congr
        intro other _
        rw [Bool.eq_iff_iff]
        simp [-Std.ExtTreeSet.mem_insert, NameSet.mem_insert_iff, and_comm]
      rw [firstOfEach, List.filter_cons_of_pos (by simpa using hseen), hfilter, List.map_cons,
        ← ih, distinctElements]
      simp only [Std.ExtTreeSet.contains_iff_mem, hseen, if_false]

/-- The direct enablers of an element are the features that list it. -/
theorem related_eq_mergeSort {node : ElementNode} (h : catalog.graph.element? element = some node) :
    (NameSet.ofList (node.enabledBy.toList.filterMap fun key =>
        (catalog.publicFeature? key).map (·.name))).toList =
      ((catalog.publicFeatures.filter fun feature =>
        feature.Lists (Name.normalize element)).map (·.name)).mergeSort := by
  have henablers : ∀ key, key ∈ node.enabledBy ↔
      ∃ feature ∈ catalog.features, feature.key = key ∧
        feature.Lists (Name.normalize element) := by
    intro key
    rw [← enablesElement_changes_iff, ← EnablementGraph.mem_enablers_ofChanges,
      ← graph_eq_ofChanges, EnablementGraph.enablers_of_getElem? h]
  rw [← NameSet.toList_ofList_of_nodup (nodup_publicNames _)]
  congr 1
  apply Std.ExtTreeSet.ext_mem
  intro name
  rw [NameSet.mem_ofList, NameSet.mem_ofList]
  simp only [List.mem_filterMap, List.mem_map, List.mem_filter, publicFeatures,
    Std.ExtTreeSet.mem_toList, henablers]
  constructor
  · intro hexists
    obtain ⟨key, ⟨feature, hfeature, rfl, hlists⟩, hname⟩ := hexists
    rw [publicFeature?_key hfeature] at hname
    split at hname
    · rename_i hpublic
      exact ⟨feature, ⟨⟨hfeature, hpublic⟩, decide_eq_true hlists⟩, Option.some.inj hname⟩
    · simp at hname
  · intro hexists
    obtain ⟨feature, ⟨⟨hfeature, hpublic⟩, hlists⟩, rfl⟩ := hexists
    refine ⟨feature.key, ⟨feature, hfeature, rfl, of_decide_eq_true hlists⟩, ?_⟩
    rw [publicFeature?_key hfeature, if_pos hpublic]
    rfl

/-- A declared feature enables the element, as the graph of the catalog has it. -/
theorem any_allEnabledBy_iff (declared : List String) (element : String)
    (h : ∃ feature ∈ catalog.features, feature.Lists (Name.normalize element)) :
    ((catalog.graph.allEnabledBy element).toList.any fun name =>
        (NameSet.ofList (declared.map Name.normalize)).contains (Name.normalize name)) = true ↔
      ∃ name ∈ declared, ∃ feature ∈ catalog.features,
        catalog.Enables (Name.normalize element) feature ∧ Name.normalize name = feature.key := by
  have hclosure := exists_mem_allEnabledBy_iff
    (fun key => ∃ name ∈ declared, Name.normalize name = key) h
  simp only [List.any_eq_true, Std.ExtTreeSet.mem_toList, Std.ExtTreeSet.contains_iff_mem,
    NameSet.mem_ofList, List.mem_map]
  rw [hclosure]
  constructor
  · intro hexists
    obtain ⟨feature, hfeature, henables, name, hname, hkey⟩ := hexists
    exact ⟨name, hname, feature, hfeature, henables, hkey⟩
  · intro hexists
    obtain ⟨name, hname, feature, hfeature, henables, hkey⟩ := hexists
    exact ⟨feature, hfeature, henables, name, hname, hkey⟩

open Classical in
theorem elementFinding_eq : catalog.elementFinding catalog.graph
      (NameSet.ofList (declared.map Name.normalize)) (Text.trim element) =
    if catalog.Misses declared (Name.normalize element) then some (catalog.missingFinding element)
    else none := by
  have hlisted : (catalog.graph.element? (Text.trim element)).isSome ↔
      ∃ feature ∈ catalog.features, feature.Lists (Name.normalize element) := by
    rw [isSome_element?_iff, Name.normalize_trim]
  rw [elementFinding]
  cases hnode : catalog.graph.element? (Text.trim element) with
  | none =>
    rw [hnode] at hlisted
    rw [if_neg fun hmisses => by simpa using hlisted.mpr hmisses.1]
    rfl
  | some node =>
    have hsome := hlisted.mp (by rw [hnode]; rfl)
    have hany := any_allEnabledBy_iff declared (Text.trim element) (by rwa [Name.normalize_trim])
    have hrelated := related_eq_mergeSort hnode
    rw [Name.normalize_trim] at hany hrelated
    simp only [Option.bind_some, hany]
    split
    · rename_i henabled
      rw [if_neg fun hmisses => hmisses.2 henabled]
    · rename_i hdisabled
      rw [if_pos ⟨hsome, hdisabled⟩]
      simp [Finding.about, Finding.withRelated, missingFinding, hrelated]

open Classical in
/-- Each element without a declared feature is reported once, where it comes first. -/
theorem missingFeatures_eq : catalog.missingFeatures declared elements =
    ((firstOfEach Name.normalize elements).filter fun element =>
      catalog.Misses declared (Name.normalize element)).map catalog.missingFinding := by
  have hall : distinctElements ∅ elements =
      (firstOfEach Name.normalize elements).map Text.trim := by
    rw [distinctElements_eq, List.filter_eq_self.mpr]
    simp
  rw [missingFeatures, hall, List.filterMap_map,
    ← List.filterMap_eq_map (f := catalog.missingFinding), ← List.filterMap_eq_filter,
    List.filterMap_filterMap]
  apply List.filterMap_congr
  intro element _
  simp only [Function.comp_apply, elementFinding_eq, Option.guard]
  split
  · rename_i hmisses
    simp [hmisses]
  · rename_i hmisses
    simp [hmisses]

/-- Some feature lists an element that is missed, so the catalog is not empty. -/
theorem Misses.isEmpty_eq_false (h : catalog.Misses declared key) : catalog.isEmpty = false := by
  obtain ⟨⟨feature, hfeature, -⟩, -⟩ := h
  rw [isEmpty, List.isEmpty_eq_false_iff]
  exact List.ne_nil_of_mem hfeature

end Catalog

/-! ## Reports of one element -/

/-- A warning is about the element, in one of its spellings. -/
def ReportsMissing (tables : CompatibilityTables) (catalog : Catalog) (declarations : Declarations)
    (element : String) : Prop :=
  ∃ finding ∈ validate tables catalog declarations,
    finding.kind = .missingConfiguredFeature ∧
      Name.normalize finding.subject = Name.normalize element

theorem mem_missingFeatures_iff {catalog : Catalog} {declared elements : List String}
    {finding : Finding} :
    finding ∈ catalog.missingFeatures declared elements ↔
      ∃ element ∈ firstOfEach Name.normalize elements,
        catalog.Misses declared (Name.normalize element) ∧
          catalog.missingFinding element = finding := by
  classical
  simp only [Catalog.missingFeatures_eq, List.mem_map, List.mem_filter, decide_eq_true_eq,
    and_assoc]

theorem reportsMissing_iff {tables : CompatibilityTables} {catalog : Catalog}
    {declarations : Declarations} {element : String} :
    ReportsMissing tables catalog declarations element ↔
      (∃ used ∈ declarations.configElements, Name.normalize used = Name.normalize element) ∧
        catalog.Misses declarations.features (Name.normalize element) := by
  constructor
  · rintro ⟨finding, hfinding, hkind, hsubject⟩
    have hmem : finding ∈ (validate tables catalog declarations).filter
        (·.kind = .missingConfiguredFeature) :=
      List.mem_filter.mpr ⟨hfinding, decide_eq_true hkind⟩
    rw [filter_kind_validate (isEmpty_eq_false_of_mem_validate hfinding)] at hmem
    obtain ⟨used, hused, hmisses, rfl⟩ := mem_missingFeatures_iff.mp hmem
    rw [Catalog.missingFinding, Name.normalize_trim] at hsubject
    rw [hsubject] at hmisses
    exact ⟨⟨used, mem_of_mem_firstOfEach hused, hsubject⟩, hmisses⟩
  · rintro ⟨⟨used, hused, hkey⟩, hmisses⟩
    obtain ⟨first, hfirst, hsame⟩ := exists_mem_firstOfEach Name.normalize hused
    rw [← hkey, ← hsame] at hmisses
    have hmem := mem_missingFeatures_iff.mpr ⟨first, hfirst, hmisses, rfl⟩
    rw [← filter_kind_validate hmisses.isEmpty_eq_false, List.mem_filter] at hmem
    refine ⟨_, hmem.1, rfl, ?_⟩
    rw [Catalog.missingFinding, Name.normalize_trim, hsame, hkey]

open Classical in
/-- The warnings of a report, for whatever the catalog holds and whatever is declared. -/
theorem missing_validate (tables : CompatibilityTables) (catalog : Catalog)
    (declarations : Declarations) :
    (validate tables catalog declarations).filter (·.kind = .missingConfiguredFeature) =
      ((firstOfEach Name.normalize declarations.configElements).filter fun element =>
        catalog.Misses declarations.features (Name.normalize element)).map
          catalog.missingFinding := by
  cases hempty : catalog.isEmpty with
  | false => rw [filter_kind_validate hempty, Catalog.missingFeatures_eq]
  | true =>
    have hnone : ∀ key, ¬ catalog.Misses declarations.features key := by
      intro key hmisses
      obtain ⟨⟨feature, hfeature, -⟩, -⟩ := hmisses
      rw [List.isEmpty_iff.mp hempty] at hfeature
      simp at hfeature
    simp [validate, hempty, hnone]

end FeatureCheck
