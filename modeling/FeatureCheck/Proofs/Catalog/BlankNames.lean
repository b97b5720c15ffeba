import FeatureCheck.Proofs.Catalog.Entries
import FeatureCheck.Proofs.Catalog.Nodes

/-!
# Entries without a name

An entry needs a short name that is not blank or a name that it provides. Of the provided names only
the first is looked at, and it is not looked into: where it is blank, the entry becomes a feature
with the empty name, unless one before it is already found under the empty name (`blank_name_iff`).
-/

namespace FeatureCheck

set_option autoImplicit false

namespace CatalogEntry

/-- Neither the short name nor the first provided name holds anything but white space. -/
def Unnamed (entry : CatalogEntry) : Prop :=
  (∀ name, entry.shortName = some name → Text.trim name = "") ∧
    ∀ name, entry.provides.head? = some name → Text.trim name = ""

variable {entry : CatalogEntry} {feature : Feature} {name : String}

theorem Named.trim_eq_empty_iff (h : entry.Named name) : Text.trim name = "" ↔ entry.Unnamed := by
  cases h with
  | @short name hshort hstated =>
    rw [Text.trim_trim]
    constructor
    · intro hblank
      exact absurd hblank hstated
    · intro hunnamed
      exact hunnamed.1 name hshort
  | @provided _ others hblank hprovided =>
    constructor
    · intro htrim
      refine ⟨hblank, fun first hfirst => ?_⟩
      rw [hprovided, List.head?_cons] at hfirst
      rwa [← Option.some.inj hfirst]
    · intro hunnamed
      exact hunnamed.2 name (by rw [hprovided, List.head?_cons])

theorem Describes.name_eq_empty_iff (h : entry.Describes feature) :
    feature.name = "" ↔ entry.Unnamed := by
  obtain ⟨name, hnamed, hname⟩ := h.name
  rw [hname, hnamed.trim_eq_empty_iff]

/-- An entry that is not refused and still has no name provides a blank one. -/
theorem Unnamed.exists_provided (h : entry.Unnamed) (hnamed : ¬ entry.Nameless) :
    ∃ name others, entry.provides = name :: others ∧ Text.trim name = "" := by
  cases hprovides : entry.provides with
  | nil => exact absurd ⟨h.1, hprovides⟩ hnamed
  | cons name others =>
    exact ⟨name, others, rfl, h.2 name (by rw [hprovides, List.head?_cons])⟩

end CatalogEntry

namespace Catalog

variable {bytes : List UInt8} {catalog : Catalog} {entries : List CatalogEntry}
  {features : List Feature}

theorem exists_entries_of_parse (h : parse bytes = .ok catalog) : ∃ entries features,
    Json.Decoder.decode (.list CatalogEntry.decoder) (Text.glyphs bytes) = .ok entries ∧
      (∀ entry ∈ entries, ¬ entry.Nameless) ∧
      List.Forall₂ CatalogEntry.Describes entries features ∧ catalog = ofFeatures features := by
  cases hdecode : Json.Decoder.decode (.list CatalogEntry.decoder) (Text.glyphs bytes) with
  | error failure =>
    rw [parse, hdecode] at h
    cases h
  | ok entries =>
    rw [parse_of_toFeatures hdecode] at h
    rcases CatalogEntry.toFeatures_cases 0 entries with
      ⟨place, -, herror⟩ | ⟨hnamed, features, hfeatures, hok⟩
    · rw [herror] at h
      cases h
    · rw [hok] at h
      exact ⟨entries, features, rfl, hnamed, hfeatures, (Except.ok.inj h).symm⟩

/-- A feature with the empty name is kept where nothing is found under that name yet. -/
theorem exists_empty_name_iff (h : List.Forall₂ CatalogEntry.Describes entries features) :
    (∃ feature ∈ (ofFeatures features).features, feature.name = "") ↔
      ∃ place entry, entries[place]? = some entry ∧ entry.Unnamed ∧
        (ofFeatures (features.take place)).feature? "" = none := by
  have hfree : ∀ {before : List Feature} {feature : Feature}, feature.name = "" →
      (¬ (ofFeatures before).Takes feature ↔ (ofFeatures before).feature? "" = none) := by
    intro before feature hname
    rw [← isSome_feature?_name_iff, hname, Option.not_isSome_iff_eq_none]
  constructor
  · rintro ⟨feature, hfeature, hname⟩
    obtain ⟨before, after, rfl, htakes⟩ := mem_ofFeatures_iff.mp hfeature
    have hplace : before.length < (before ++ feature :: after).length := by
      simp
    have hlt : before.length < entries.length := h.length_eq ▸ hplace
    have hdescribes : entries[before.length].Describes feature := by
      have hget := h.get hlt hplace
      simpa using hget
    refine ⟨before.length, entries[before.length], List.getElem?_eq_getElem hlt,
      hdescribes.name_eq_empty_iff.mp hname, ?_⟩
    rw [List.take_left]
    exact (hfree hname).mp htakes
  · rintro ⟨place, entry, hentry, hunnamed, hnone⟩
    obtain ⟨hplace, rfl⟩ := List.getElem?_eq_some_iff.mp hentry
    have hlt : place < features.length := h.length_eq ▸ hplace
    have hname : features[place].name = "" :=
      (h.get hplace hlt).name_eq_empty_iff.mpr hunnamed
    refine ⟨features[place], mem_ofFeatures_iff.mpr ?_, hname⟩
    refine ⟨features.take place, features.drop (place + 1), ?_, (hfree hname).mpr hnone⟩
    rw [← List.drop_eq_getElem_cons hlt, List.take_append_drop]

/-- Whatever is read: an entry without a name provides a blank one first. Some feature, and with it
some node of the graph, has the empty name just when there is such an entry and nothing of the
entries before it is found under the empty name. -/
theorem blank_name_iff (bytes : List UInt8) (catalog : Catalog)
    (hparse : parse bytes = .ok catalog) : ∃ entries features,
      Json.Decoder.decode (.list CatalogEntry.decoder) (Text.glyphs bytes) = .ok entries ∧
      List.Forall₂ CatalogEntry.Describes entries features ∧ catalog = ofFeatures features ∧
      (∀ entry ∈ entries, entry.Unnamed →
        ∃ name others, entry.provides = name :: others ∧ Text.trim name = "") ∧
      ((∃ feature ∈ catalog.features, feature.name = "") ↔
        ∃ place entry, entries[place]? = some entry ∧ entry.Unnamed ∧
          (ofFeatures (features.take place)).feature? "" = none) ∧
      ∀ feature ∈ catalog.features, feature.name = "" →
        ∃ node, catalog.graph.feature? "" = some node ∧ node.name = "" := by
  obtain ⟨entries, features, hdecode, hnamed, hfeatures, rfl⟩ := exists_entries_of_parse hparse
  refine ⟨entries, features, hdecode, hfeatures, rfl, ?_, exists_empty_name_iff hfeatures, ?_⟩
  · intro entry hentry hunnamed
    exact hunnamed.exists_provided (hnamed entry hentry)
  · intro feature hfeature hname
    obtain ⟨node, hnode, hspelled, -⟩ := node_of_feature hfeature
    rw [hname] at hnode hspelled
    exact ⟨node, hnode, hspelled⟩

/-- The feature of the first entry is found under the name of the second, which is blank. -/
def blankNames : List Json := [
  .object [("wlpInformation", .object [
    ("shortName", .text "a"), ("provideFeature", .array [.text " "])])],
  .object [("wlpInformation", .object [("provideFeature", .array [.text "\t"])])]]

def aliasedEntry : CatalogEntry := { shortName := some "a", provides := [" "] }

def blankEntry : CatalogEntry := { provides := ["\t"] }

theorem unnamed_blankEntry : blankEntry.Unnamed := by
  refine ⟨nofun, fun name hname => ?_⟩
  rw [← Option.some.inj hname]
  decide +kernel

/-- No feature has the empty name where the entry before is found under it. -/
theorem blank_name_blankNames : ∃ catalog features,
    parse (Text.bytesOf (Json.compact (.array blankNames))) = .ok catalog ∧
      catalog = ofFeatures features ∧ (¬ ∃ feature ∈ catalog.features, feature.name = "") ∧
      (ofFeatures (features.take 1)).feature? "" ≠ none := by
  have hdecode : Json.Decoder.decode (.list CatalogEntry.decoder)
      (Text.glyphs (Text.bytesOf (Json.compact (.array blankNames)))) =
        .ok [aliasedEntry, blankEntry] :=
    toOption_eq_some_iff.mp (by decide +kernel)
  have hparse : parse (Text.bytesOf (Json.compact (.array blankNames))) =
      .ok (ofFeatures [aliasedEntry.toFeature "a", blankEntry.toFeature "\t"]) := by
    rw [parse_of_toFeatures hdecode]
    rfl
  obtain ⟨entries, features, hread, -, hkept, -, hiff, -⟩ := blank_name_iff _ _ hparse
  rw [hdecode] at hread
  obtain rfl := Except.ok.inj hread
  have hnamed : ¬ ∃ feature ∈ (ofFeatures
      [aliasedEntry.toFeature "a", blankEntry.toFeature "\t"]).features, feature.name = "" := by
    decide +kernel
  refine ⟨_, features, hparse, hkept, hnamed, fun hnone => hnamed (hiff.mpr ?_)⟩
  exact ⟨1, blankEntry, rfl, unnamed_blankEntry, hnone⟩

/-- The second entry by itself is read, and its feature and the node of it have the empty name. -/
theorem blank_name_accepted : ∃ catalog,
    Json.Decoder.decode (.list CatalogEntry.decoder)
        (Text.glyphs (Text.bytesOf (Json.compact (.array (blankNames.drop 1))))) =
          .ok [blankEntry] ∧
      blankEntry.Unnamed ∧
      parse (Text.bytesOf (Json.compact (.array (blankNames.drop 1)))) = .ok catalog ∧
      ∃ feature ∈ catalog.features, feature.name = "" ∧
        ∃ node, catalog.graph.feature? "" = some node ∧ node.name = "" := by
  have hdecode : Json.Decoder.decode (.list CatalogEntry.decoder)
      (Text.glyphs (Text.bytesOf (Json.compact (.array (blankNames.drop 1))))) =
        .ok [blankEntry] :=
    toOption_eq_some_iff.mp (by decide +kernel)
  have hparse : parse (Text.bytesOf (Json.compact (.array (blankNames.drop 1)))) =
      .ok (ofFeatures [blankEntry.toFeature "\t"]) := by
    rw [parse_of_toFeatures hdecode]
    rfl
  obtain ⟨feature, hfeature, hname⟩ :
      ∃ feature ∈ (ofFeatures [blankEntry.toFeature "\t"]).features, feature.name = "" := by
    decide +kernel
  obtain ⟨node, hnode, hspelled, -⟩ := node_of_feature hfeature
  rw [hname] at hnode hspelled
  exact ⟨_, hdecode, unnamed_blankEntry, hparse, feature, hfeature, hname, node, hnode, hspelled⟩

end Catalog

end FeatureCheck
