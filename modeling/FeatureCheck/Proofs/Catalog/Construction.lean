import FeatureCheck.Catalog.Loaded
import FeatureCheck.Proofs.Catalog.Lookup
import Mathlib.Data.List.Induction

/-!
# Building a catalog

A catalog keeps the features of a list whose name no earlier kept one has taken, in their order, and
is determined by them: built again from what it keeps it is the same catalog, and two catalogs that
compare as equal answer alike. The main result is `ofFeatures_keeps`.
-/

namespace FeatureCheck.Catalog

set_option autoImplicit false

variable {catalog other : Catalog} {features before after : List Feature} {feature : Feature}
  {name platform : String}

/-! ## Taken names -/

/-- A feature of the catalog is found under the name of the given one. -/
def Takes (catalog : Catalog) (feature : Feature) : Prop :=
  ∃ earlier ∈ catalog.features, feature.key ∈ earlier.keys

theorem isSome_feature?_name_iff :
    (catalog.feature? feature.name).isSome = true ↔ catalog.Takes feature := by
  rw [feature?_eq_find?, List.find?_isSome]
  constructor
  · rintro ⟨earlier, hearlier, hkey⟩
    exact ⟨earlier, hearlier, List.contains_iff_mem.mp hkey⟩
  · rintro ⟨earlier, hearlier, hkey⟩
    exact ⟨earlier, hearlier, List.contains_iff_mem.mpr hkey⟩

instance (catalog : Catalog) (feature : Feature) : Decidable (catalog.Takes feature) :=
  decidable_of_iff _ isSome_feature?_name_iff

theorem features_add_of_takes (h : catalog.Takes feature) :
    (catalog.add feature).features = catalog.features := by
  unfold add
  rw [dif_pos (isSome_feature?_name_iff.mpr h)]

theorem features_add_of_not_takes (h : ¬ catalog.Takes feature) :
    (catalog.add feature).features = catalog.features ++ [feature] := by
  have hfree : ¬ (catalog.feature? feature.name).isSome = true := by
    intro htaken
    exact h (isSome_feature?_name_iff.mp htaken)
  unfold add
  rw [dif_neg hfree]

/-! ## Adding one after another -/

/-- What is added stands behind what was there, and is kept in order. -/
theorem features_foldl_add (catalog : Catalog) (features : List Feature) :
    ∃ kept, kept.Sublist features ∧
      (features.foldl add catalog).features = catalog.features ++ kept := by
  induction features generalizing catalog with
  | nil => exact ⟨[], .slnil, (List.append_nil _).symm⟩
  | cons feature features ih =>
    obtain ⟨kept, hsublist, hkept⟩ := ih (catalog.add feature)
    rw [List.foldl_cons, hkept]
    by_cases h : catalog.Takes feature
    · exact ⟨kept, hsublist.cons feature, by rw [features_add_of_takes h]⟩
    · refine ⟨feature :: kept, hsublist.cons_cons feature, ?_⟩
      rw [features_add_of_not_takes h, List.append_assoc, List.singleton_append]

theorem features_ofFeatures_sublist (features : List Feature) :
    (ofFeatures features).features.Sublist features := by
  obtain ⟨kept, hsublist, hkept⟩ := features_foldl_add empty features
  rw [ofFeatures, hkept]
  exact hsublist

/-- A feature is kept at its place unless one that is kept before it takes its name. -/
theorem features_ofFeatures_append (before : List Feature) (feature : Feature)
    (after : List Feature) :
    ∃ rest, rest.Sublist after ∧
      (ofFeatures (before ++ feature :: after)).features =
        (ofFeatures before).features ++
          (if (ofFeatures before).Takes feature then [] else [feature]) ++ rest := by
  obtain ⟨rest, hsublist, hrest⟩ := features_foldl_add ((ofFeatures before).add feature) after
  refine ⟨rest, hsublist, ?_⟩
  have hsplit : ofFeatures (before ++ feature :: after) =
      after.foldl add ((ofFeatures before).add feature) := by
    rw [ofFeatures, List.foldl_append, List.foldl_cons, ofFeatures]
  rw [hsplit, hrest]
  split
  · rename_i h
    rw [features_add_of_takes h, List.append_nil]
  · rename_i h
    rw [features_add_of_not_takes h]

theorem ofFeatures_concat (features : List Feature) (feature : Feature) :
    ofFeatures (features ++ [feature]) = (ofFeatures features).add feature := by
  rw [ofFeatures, List.foldl_append, List.foldl_cons, List.foldl_nil, ofFeatures]

/-- What is kept of a list of features is what no earlier kept one takes the name of. -/
theorem mem_ofFeatures_iff : feature ∈ (ofFeatures features).features ↔
    ∃ before after, features = before ++ feature :: after ∧
      ¬ (ofFeatures before).Takes feature := by
  constructor
  · intro h
    induction features using List.reverseRecOn with
    | nil => exact absurd h List.not_mem_nil
    | append_singleton features last ih =>
      have hearlier : feature ∈ (ofFeatures features).features → ∃ before after,
          features ++ [last] = before ++ feature :: after ∧
            ¬ (ofFeatures before).Takes feature := by
        intro hmem
        obtain ⟨before, after, hfeatures, hfree⟩ := ih hmem
        exact ⟨before, after ++ [last], by simp [hfeatures], hfree⟩
      rw [ofFeatures_concat] at h
      by_cases htakes : (ofFeatures features).Takes last
      · rw [features_add_of_takes htakes] at h
        exact hearlier h
      · rw [features_add_of_not_takes htakes, List.mem_append, List.mem_singleton] at h
        rcases h with hmem | rfl
        · exact hearlier hmem
        · exact ⟨features, [], rfl, htakes⟩
  · rintro ⟨before, after, rfl, hfree⟩
    obtain ⟨rest, -, hfeatures⟩ := features_ofFeatures_append before feature after
    rw [hfeatures, if_neg hfree]
    simp

/-- Features whose names differ from those of all before them are all kept. -/
theorem features_foldl_add_of_distinct
    (h : (catalog.features ++ features).Pairwise fun earlier later => later.key ∉ earlier.keys) :
    (features.foldl add catalog).features = catalog.features ++ features := by
  induction features generalizing catalog with
  | nil => rw [List.foldl_nil, List.append_nil]
  | cons feature features ih =>
    have hnew : ¬ catalog.Takes feature := by
      rintro ⟨earlier, hearlier, hkey⟩
      obtain ⟨-, -, hcross⟩ := List.pairwise_append.mp h
      exact hcross earlier hearlier feature List.mem_cons_self hkey
    have hadded := features_add_of_not_takes hnew
    rw [List.foldl_cons, ih, hadded, List.append_assoc, List.singleton_append]
    rwa [hadded, List.append_assoc, List.singleton_append]

/-! ## Equal catalogs -/

theorem eq_of_features_eq (h : catalog.features = other.features) : catalog = other := by
  have hindex : catalog.index = other.index := by
    rw [catalog.index_eq, other.index_eq, h]
  have hplatforms : catalog.platforms = other.platforms := by
    rw [catalog.platforms_eq, other.platforms_eq, h]
  cases catalog
  cases other
  cases h
  cases hindex
  cases hplatforms
  rfl

theorem ofFeatures_features (catalog : Catalog) : ofFeatures catalog.features = catalog := by
  have hdistinct : (empty.features ++ catalog.features).Pairwise
      fun earlier later => later.key ∉ earlier.keys := catalog.distinct
  apply eq_of_features_eq
  exact features_foldl_add_of_distinct hdistinct

theorem equals_iff : catalog.equals other = true ↔ catalog = other := by
  constructor
  · intro h
    simp only [equals, Bool.and_eq_true, beq_iff_eq] at h
    exact eq_of_features_eq h.1
  · rintro rfl
    simp [equals]

theorem mem_platforms_iff : platform ∈ catalog.platforms ↔
    ∃ feature ∈ catalog.features, feature.isPublic = false ∧ platform ∈ feature.platforms := by
  rw [catalog.platforms_eq, backedPlatforms, NameSet.mem_unionAll]
  constructor
  · rintro ⟨platforms, hplatforms, hmem⟩
    obtain ⟨feature, hfeature, rfl⟩ := List.mem_map.mp hplatforms
    obtain ⟨hfeature, hprivate⟩ := List.mem_filter.mp hfeature
    exact ⟨feature, hfeature, by simpa using hprivate, hmem⟩
  · rintro ⟨feature, hfeature, hprivate, hmem⟩
    refine ⟨feature.platforms, List.mem_map.mpr ⟨feature, ?_, rfl⟩, hmem⟩
    exact List.mem_filter.mpr ⟨hfeature, by simpa using hprivate⟩

/-- What is built of any list: in the order of the list it keeps just the features whose name none
that is kept before takes, it finds the first of them with a name and so each under its own, its
platforms are those that the private ones back, and neither building again nor the index and the
graph, which a comparison passes over, make a difference. -/
theorem ofFeatures_keeps (features : List Feature) :
    let catalog := ofFeatures features
    catalog.features.Sublist features ∧
    (∀ (before : List Feature) (feature : Feature) (after : List Feature),
      features = before ++ feature :: after →
        ∃ rest, rest.Sublist after ∧
          catalog.features = (ofFeatures before).features ++
            (if (ofFeatures before).Takes feature then [] else [feature]) ++ rest) ∧
    (∀ name, catalog.feature? name =
      catalog.features.find? fun feature => feature.keys.contains (Name.normalize name)) ∧
    (∀ feature ∈ catalog.features, catalog.feature? feature.name = some feature) ∧
    (∀ platform, platform ∈ catalog.platforms ↔
      ∃ feature ∈ catalog.features, feature.isPublic = false ∧ platform ∈ feature.platforms) ∧
    (∀ platform, catalog.hasPlatform platform = true ↔
      Name.normalize platform ∈ catalog.platforms) ∧
    ofFeatures catalog.features = catalog ∧
    ∀ other : Catalog, catalog.equals other = true →
      catalog.index = other.index ∧ catalog.graph = other.graph ∧
      ∀ name, catalog.feature? name = other.feature? name ∧
        catalog.publicFeature? name = other.publicFeature? name ∧
        catalog.hasPlatform name = other.hasPlatform name ∧
        catalog.graph.allEnables name = other.graph.allEnables name ∧
        catalog.graph.allEnabledBy name = other.graph.allEnabledBy name := by
  refine ⟨features_ofFeatures_sublist features, ?_, ?_, ?_, ?_, ?_, ?_, ?_⟩
  · rintro before feature after rfl
    exact features_ofFeatures_append before feature after
  · intro name
    exact feature?_eq_find? _ name
  · intro feature hfeature
    exact feature?_name hfeature
  · intro platform
    exact mem_platforms_iff
  · intro platform
    exact Std.ExtTreeSet.contains_iff_mem
  · exact ofFeatures_features _
  · intro other hequals
    obtain rfl := equals_iff.mp hequals
    exact ⟨rfl, rfl, fun name => ⟨rfl, rfl, rfl, rfl, rfl⟩⟩

/-- The second feature has the symbolic name of the first, and the third the name of the second. -/
def collidingFeatures : List Feature := [
  (Feature.named "servlet-6.0" .isPublic).withSymbolicName "io.openliberty.servlet-6.0",
  ((Feature.named "IO.OpenLiberty.servlet-6.0" .isPrivate).withSymbolicName
    "io.openliberty.compatible-10.0").withPlatforms ["JavaEE-8.0"],
  (Feature.named "io.openliberty.compatible-10.0" .isPrivate).withPlatforms ["JakartaEE-10.0"]]

/-- The second one is dropped, and neither its symbolic name nor its platform is left. -/
theorem ofFeatures_keeps_colliding :
    (∃ rest, rest.Sublist (collidingFeatures.drop 2) ∧
      (ofFeatures collidingFeatures).features =
        (ofFeatures (collidingFeatures.take 1)).features ++ [] ++ rest) ∧
    (ofFeatures collidingFeatures).features = [collidingFeatures[0], collidingFeatures[2]] ∧
    (ofFeatures collidingFeatures).feature? "io.openliberty.compatible-10.0" =
      some collidingFeatures[2] ∧
    "javaee-8.0" ∉ (ofFeatures collidingFeatures).platforms ∧
    (ofFeatures (collidingFeatures ++ collidingFeatures)).index =
      (ofFeatures collidingFeatures).index := by
  obtain ⟨-, hplaces, -, hfound, hplatforms, -, -, -⟩ := ofFeatures_keeps collidingFeatures
  have hkept : (ofFeatures collidingFeatures).features =
      [collidingFeatures[0], collidingFeatures[2]] := by decide +kernel
  have htaken : (ofFeatures (collidingFeatures.take 1)).Takes collidingFeatures[1] := by
    decide +kernel
  refine ⟨?_, hkept, ?_, ?_, ?_⟩
  · obtain ⟨rest, hrest, hfeatures⟩ :=
      hplaces (collidingFeatures.take 1) collidingFeatures[1] (collidingFeatures.drop 2) rfl
    rw [if_pos htaken] at hfeatures
    exact ⟨rest, hrest, hfeatures⟩
  · exact hfound collidingFeatures[2] (by rw [hkept]; simp)
  · rw [hplatforms, hkept]
    decide +kernel
  · obtain ⟨-, -, -, -, -, -, -, hequal⟩ :=
      ofFeatures_keeps (collidingFeatures ++ collidingFeatures)
    exact (hequal (ofFeatures collidingFeatures) (by decide +kernel)).1

end FeatureCheck.Catalog
