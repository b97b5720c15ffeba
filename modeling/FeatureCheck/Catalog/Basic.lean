import FeatureCheck.Feature

/-!
# Feature catalogs

The features published for one runtime. A catalog is determined by its features, none of which has
the name under which an earlier one is found; the index and the platforms are kept beside them.
-/

namespace FeatureCheck

set_option autoImplicit false

namespace Feature

/-- The form under which the short name is looked up. -/
def key (feature : Feature) : String :=
  Name.normalize feature.name

def keys (feature : Feature) : List String :=
  feature.key :: (feature.symbolicName.map Name.normalize).toList

end Feature

namespace Catalog

/-- Adds a feature under those of its keys that are free. -/
def addKeys (index : NameMap Feature) (feature : Feature) : NameMap Feature :=
  feature.keys.foldl (fun index key => index.insertIfNew key feature) index

def indexOf (features : List Feature) : NameMap Feature :=
  features.foldl addKeys ∅

/-- The platforms that features which are not public stand behind. -/
def backedPlatforms (features : List Feature) : NameSet :=
  NameSet.unionAll ((features.filter (!·.isPublic)).map (·.platforms))

theorem getElem?_foldl_insertIfNew {keys : List String} {feature : Feature}
    {index : NameMap Feature} {key : String} :
    (keys.foldl (fun index key => index.insertIfNew key feature) index)[key]? =
      index[key]?.or (if key ∈ keys then some feature else none) := by
  induction keys generalizing index with
  | nil => simp
  | cons k keys ih =>
    rw [List.foldl_cons, ih, NameMap.getElem?_insertIfNew, Option.or_assoc]
    by_cases hk : k = key
    · simp [hk]
    · simp [hk, Ne.symm hk]

/-- The index finds the first feature with the key. -/
theorem getElem?_indexOf {features : List Feature} {key : String} :
    (indexOf features)[key]? = features.find? fun feature => feature.keys.contains key := by
  have aux : ∀ (features : List Feature) (index : NameMap Feature),
      (features.foldl addKeys index)[key]? =
        index[key]?.or (features.find? fun feature => feature.keys.contains key) := by
    intro features
    induction features with
    | nil => simp
    | cons feature features ih =>
      intro index
      rw [List.foldl_cons, ih, addKeys, getElem?_foldl_insertIfNew, Option.or_assoc]
      by_cases h : key ∈ feature.keys <;> simp [h]
  simpa [indexOf] using aux features ∅

end Catalog

structure Catalog where
  features : List Feature
  index : NameMap Feature
  platforms : NameSet
  index_eq : index = Catalog.indexOf features
  platforms_eq : platforms = Catalog.backedPlatforms features
  distinct : features.Pairwise fun earlier later => later.key ∉ earlier.keys

namespace Catalog

def empty : Catalog :=
  ⟨[], ∅, ∅, rfl, rfl, .nil⟩

/-- Any feature, found by its short or symbolic name. -/
def feature? (catalog : Catalog) (name : String) : Option Feature :=
  catalog.index[Name.normalize name]?

/-- A feature that users may declare. -/
def publicFeature? (catalog : Catalog) (name : String) : Option Feature :=
  (catalog.feature? name).filter (·.isPublic)

theorem feature?_eq_find? (catalog : Catalog) (name : String) :
    catalog.feature? name =
      catalog.features.find? fun feature => feature.keys.contains (Name.normalize name) := by
  rw [feature?, catalog.index_eq, getElem?_indexOf]

/-- Adds a feature at the end, unless its name is taken. -/
def add (catalog : Catalog) (feature : Feature) : Catalog :=
  if h : (catalog.feature? feature.name).isSome then catalog
  else
    { features := catalog.features ++ [feature]
      index := addKeys catalog.index feature
      platforms :=
        if feature.isPublic then catalog.platforms else catalog.platforms ∪ feature.platforms
      index_eq := by simp [catalog.index_eq, indexOf]
      platforms_eq := by
        rw [catalog.platforms_eq]
        cases hpublic : feature.isPublic <;> simp [backedPlatforms, NameSet.unionAll, hpublic]
      distinct := by
        rw [List.pairwise_append]
        refine ⟨catalog.distinct, List.pairwise_singleton _ _, ?_⟩
        intro earlier hearlier later hlater
        rw [List.mem_singleton] at hlater
        subst hlater
        rw [feature?_eq_find?, Bool.not_eq_true, Option.isSome_eq_false_iff,
          Option.isNone_iff_eq_none, List.find?_eq_none] at h
        simpa [Feature.key] using h earlier hearlier }

/-- The catalog of a list of features; of features with one name the first is kept. -/
def ofFeatures (features : List Feature) : Catalog :=
  features.foldl add empty

def isEmpty (catalog : Catalog) : Bool :=
  catalog.features.isEmpty

def size (catalog : Catalog) : Nat :=
  catalog.features.length

def publicFeatures (catalog : Catalog) : List Feature :=
  catalog.features.filter (·.isPublic)

def privateFeatures (catalog : Catalog) : List Feature :=
  catalog.features.filter (!·.isPublic)

def hasPlatform (catalog : Catalog) (platform : String) : Bool :=
  catalog.platforms.contains (Name.normalize platform)

/-- Equal features and equal platforms. -/
def equals (left right : Catalog) : Bool :=
  left.features == right.features && left.platforms == right.platforms

/-- The platforms of a feature that the catalog backs. -/
def platformsOf (catalog : Catalog) (name : String) : NameSet :=
  (catalog.feature? name).elim ∅ fun feature => feature.platforms ∩ catalog.platforms

end Catalog

end FeatureCheck
