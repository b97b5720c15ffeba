import Std.Data.ExtTreeMap
import Std.Data.ExtTreeSet

/-!
# Ordered sets and tables of names

Names are ordered by their code points. A set lists each of its names once, in that order.
-/

namespace FeatureCheck

set_option autoImplicit false

abbrev NameSet := Std.ExtTreeSet String

abbrev NameMap (α : Type) := Std.ExtTreeMap String α

namespace NameSet

def ofList (names : List String) : NameSet :=
  Std.ExtTreeSet.ofList names

def unionAll (sets : List NameSet) : NameSet :=
  sets.foldl (· ∪ ·) ∅

/-- The names that all the sets hold; nothing is common to no set. -/
def commonTo : List NameSet → NameSet
  | [] => ∅
  | set :: sets => sets.foldl (· ∩ ·) set

def isDisjoint (left right : NameSet) : Bool :=
  left.toList.all fun name => !right.contains name

@[simp] theorem mem_ofList {names : List String} {name : String} :
    name ∈ ofList names ↔ name ∈ names := by
  simp [ofList, Std.ExtTreeSet.mem_ofList]

theorem mem_insert_iff {set : NameSet} {name other : String} :
    name ∈ set.insert other ↔ name = other ∨ name ∈ set := by
  rw [Std.ExtTreeSet.mem_insert, Std.LawfulEqCmp.compare_eq_iff_eq, eq_comm]

/-- A set holds no more for a name that it has. -/
theorem mem_iff_of_mem {set : NameSet} {name other : String} (h : name ∈ set) :
    other ∈ set ↔ other = name ∨ other ∈ set := by
  rw [or_iff_right_of_imp]
  intro heq
  rw [heq]
  exact h

theorem isEmpty_eq_false_iff_exists_mem {set : NameSet} :
    set.isEmpty = false ↔ ∃ name, name ∈ set := by
  rw [Std.ExtTreeSet.isEmpty_eq_false_iff, Std.ExtTreeSet.eq_empty_iff_forall_not_mem]
  exact Classical.not_forall_not

theorem mem_filter_iff {set : NameSet} {p : String → Bool} {name : String} :
    name ∈ set.filter p ↔ name ∈ set ∧ p name := by
  rw [← Std.ExtTreeSet.mem_toList, Std.ExtTreeSet.toList_filter, List.mem_filter,
    Std.ExtTreeSet.mem_toList]

theorem isDisjoint_iff {left right : NameSet} :
    isDisjoint left right ↔ ∀ name ∈ left, name ∉ right := by
  simp [isDisjoint, ← Std.ExtTreeSet.contains_iff_mem]

theorem mem_foldl_union {sets : List NameSet} {start : NameSet} {name : String} :
    name ∈ sets.foldl (· ∪ ·) start ↔ name ∈ start ∨ ∃ set ∈ sets, name ∈ set := by
  induction sets generalizing start with
  | nil => simp
  | cons set sets ih => simp [ih, or_assoc]

@[simp] theorem mem_unionAll {sets : List NameSet} {name : String} :
    name ∈ unionAll sets ↔ ∃ set ∈ sets, name ∈ set := by
  simp [unionAll, mem_foldl_union]

theorem mem_foldl_inter {sets : List NameSet} {start : NameSet} {name : String} :
    name ∈ sets.foldl (· ∩ ·) start ↔ name ∈ start ∧ ∀ set ∈ sets, name ∈ set := by
  induction sets generalizing start with
  | nil => simp
  | cons set sets ih => simp [ih, and_assoc]

theorem mem_commonTo {sets : List NameSet} {name : String} :
    name ∈ commonTo sets ↔ sets ≠ [] ∧ ∀ set ∈ sets, name ∈ set := by
  cases sets with
  | nil => simp [commonTo]
  | cons set sets => simp [commonTo, mem_foldl_inter]

/-- The names of a set in strictly rising order. -/
theorem pairwise_toList (set : NameSet) : set.toList.Pairwise (· < ·) :=
  set.ordered_toList.imp compareOfLessAndEq_eq_lt.mp

theorem nodup_toList (set : NameSet) : set.toList.Nodup := by
  apply (pairwise_toList set).imp
  intro name other hlt heq
  rw [heq] at hlt
  exact String.lt_irrefl other hlt

@[simp] theorem ofList_toList (set : NameSet) : ofList set.toList = set := by
  refine Std.ExtTreeSet.ext_mem fun name => ?_
  rw [mem_ofList, Std.ExtTreeSet.mem_toList]

/-- The set of names that differ lists them in order. -/
theorem toList_ofList_of_nodup {names : List String} (h : names.Nodup) :
    (ofList names).toList = names.mergeSort := by
  have hperm : (ofList names).toList.Perm names.mergeSort := by
    refine ((List.perm_ext_iff_of_nodup (nodup_toList _) h).mpr ?_).trans
      (List.mergeSort_perm names _).symm
    intro name
    rw [Std.ExtTreeSet.mem_toList, mem_ofList]
  have hsorted : names.mergeSort.Pairwise (· ≤ ·) := by
    have hle := @List.pairwise_mergeSort String (fun left right => left ≤ right)
      (fun _ _ _ => by simpa using String.le_trans)
      (fun left right => by simpa using String.le_total left right) names
    simpa using hle
  refine hperm.eq_of_pairwise ?_ ((pairwise_toList _).imp Std.le_of_lt) hsorted
  intro name other _ _ hle hge
  exact String.le_antisymm hle hge

theorem toList_eq_singleton_iff {set : NameSet} {name : String} :
    set.toList = [name] ↔ ∀ other, other ∈ set ↔ other = name := by
  constructor
  · intro h other
    rw [← Std.ExtTreeSet.mem_toList, h, List.mem_singleton]
  · intro h
    have hset : set = ofList [name] := by
      apply Std.ExtTreeSet.ext_mem
      intro other
      rw [h, mem_ofList, List.mem_singleton]
    rw [hset]
    rfl

end NameSet

namespace NameMap

variable {α : Type} {map : NameMap α} {key : String}

theorem getElem?_insertIfNew (map : NameMap α) (key : String) (value : α) (other : String) :
    (map.insertIfNew key value)[other]? =
      map[other]?.or (if key = other then some value else none) := by
  rw [Std.ExtTreeMap.getElem?_insertIfNew]
  simp only [Std.LawfulEqCmp.compare_eq_iff_eq]
  by_cases heq : key = other
  · subst heq
    cases hfound : map[key]? with
    | none =>
      have hnew : key ∉ map := by simpa using hfound
      simp [hnew]
    | some found =>
      have hold : key ∈ map := by
        rw [Std.ExtTreeMap.mem_iff_isSome_getElem?, hfound]
        rfl
      simp [hold]
  · simp [heq]

theorem getElem?_insert_of_new (h : map[key]? = none) (value : α) (other : String) :
    (map.insert key value)[other]? = map[other]?.or (if key = other then some value else none) := by
  rw [Std.ExtTreeMap.getElem?_insert]
  simp only [Std.LawfulEqCmp.compare_eq_iff_eq]
  split
  · rename_i heq
    rw [← heq, h]
    rfl
  · rw [Option.or_none]

end NameMap

end FeatureCheck
