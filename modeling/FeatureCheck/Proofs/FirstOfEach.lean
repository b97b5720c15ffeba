import Mathlib.Data.List.Induction

/-!
# The first name of each key

Of names with one key only the first is kept, and the order stays.
-/

namespace FeatureCheck

set_option autoImplicit false

variable {key : String → String} {names : List String} {name : String}

def firstOfEach (key : String → String) : List String → List String
  | [] => []
  | name :: names => name :: (firstOfEach key names).filter (key · ≠ key name)

theorem firstOfEach_sublist (names : List String) : (firstOfEach key names).Sublist names := by
  induction names with
  | nil => exact .slnil
  | cons name names ih => exact (List.filter_sublist.trans ih).cons_cons name

theorem mem_of_mem_firstOfEach (h : name ∈ firstOfEach key names) : name ∈ names :=
  (firstOfEach_sublist names).subset h

/-- Every key that occurs is kept. -/
theorem exists_mem_firstOfEach (key : String → String) (h : name ∈ names) :
    ∃ first ∈ firstOfEach key names, key first = key name := by
  induction names with
  | nil => simp at h
  | cons head names ih =>
    by_cases hkey : key name = key head
    · exact ⟨head, List.mem_cons_self, hkey.symm⟩
    · have hmem : name ∈ names := by
        rcases List.mem_cons.mp h with rfl | hmem
        · exact absurd rfl hkey
        · exact hmem
      obtain ⟨first, hfirst, heq⟩ := ih hmem
      refine ⟨first, List.mem_cons_of_mem head ?_, heq⟩
      simp [hfirst, heq, hkey]

theorem pairwise_firstOfEach (names : List String) :
    (firstOfEach key names).Pairwise fun earlier later => key earlier ≠ key later := by
  induction names with
  | nil => exact .nil
  | cons name names ih =>
    refine List.pairwise_cons.mpr ⟨?_, ih.filter _⟩
    intro later hlater
    have hne := (List.mem_filter.mp hlater).2
    simpa using Ne.symm (of_decide_eq_true hne)

theorem filter_concat (p : String → Bool) (names : List String) (name : String) :
    (names ++ [name]).filter p = names.filter p ++ if p name then [name] else [] := by
  rw [List.filter_append, List.filter_cons, List.filter_nil]

theorem pairwise_concat_iff {r : String → String → Prop} :
    (names ++ [name]).Pairwise r ↔ names.Pairwise r ∧ ∀ other ∈ names, r other name := by
  simp [List.pairwise_append]

theorem firstOfEach_concat (names : List String) (name : String) :
    firstOfEach key (names ++ [name]) =
      firstOfEach key names ++ if ∃ other ∈ names, key other = key name then [] else [name] := by
  induction names with
  | nil => simp [firstOfEach]
  | cons head names ih =>
    rw [List.cons_append, firstOfEach, ih, List.filter_append, firstOfEach, List.cons_append]
    congr 2
    by_cases hkey : key head = key name
    · by_cases hmem : ∃ other ∈ names, key other = key name
      · simp [hmem]
      · simp [hmem, hkey]
    · by_cases hmem : ∃ other ∈ names, key other = key name
      · simp [hmem]
      · simp [hmem, hkey, Ne.symm hkey]

theorem length_firstOfEach_concat (names : List String) (name : String) :
    (firstOfEach key (names ++ [name])).length =
      (firstOfEach key names).length + if ∃ other ∈ names, key other = key name then 0 else 1 := by
  rw [firstOfEach_concat, List.length_append, apply_ite List.length]
  rfl

/-- The keys that are kept are those that occur, whatever the order. -/
theorem map_key_firstOfEach_perm {others : List String} (key : String → String)
    (h : names.Perm others) :
    ((firstOfEach key names).map key).Perm ((firstOfEach key others).map key) := by
  have hnodup : ∀ list, ((firstOfEach key list).map key).Nodup := fun list =>
    List.pairwise_map.mpr (pairwise_firstOfEach list)
  have hmem : ∀ list value, value ∈ (firstOfEach key list).map key ↔
      ∃ name ∈ list, key name = value := by
    intro list value
    rw [List.mem_map]
    constructor
    · rintro ⟨name, hname, heq⟩
      exact ⟨name, mem_of_mem_firstOfEach hname, heq⟩
    · rintro ⟨name, hname, rfl⟩
      exact exists_mem_firstOfEach key hname
  refine (List.perm_ext_iff_of_nodup (hnodup names) (hnodup others)).mpr fun value => ?_
  simp only [hmem, h.mem_iff]

theorem length_firstOfEach_perm {others : List String} (key : String → String)
    (h : names.Perm others) :
    (firstOfEach key names).length = (firstOfEach key others).length := by
  simpa using (map_key_firstOfEach_perm key h).length_eq

theorem firstOfEach_eq_self
    (h : names.Pairwise fun earlier later => key earlier ≠ key later) :
    firstOfEach key names = names := by
  induction names with
  | nil => rfl
  | cons name names ih =>
    obtain ⟨hname, hrest⟩ := List.pairwise_cons.mp h
    rw [firstOfEach, ih hrest, List.filter_eq_self.mpr]
    intro later hlater
    simpa using Ne.symm (hname later hlater)

end FeatureCheck
