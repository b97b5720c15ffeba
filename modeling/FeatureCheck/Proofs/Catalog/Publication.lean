import FeatureCheck.Proofs.Catalog.Entries
import FeatureCheck.Proofs.Json.Printed
import FeatureCheck.Proofs.Json.Records

/-!
# Reading back published catalogs

`Published` says how a list of features is published. Whatever the order of the members, whatever
members the format does not know, and however the text spells its values, what is read back is the
catalog of the features: `parse_of_published`.
-/

namespace FeatureCheck

set_option autoImplicit false

open Json Json.Decoder

/-! ## The published format -/

def ToleratedRequirement.Published (requirement : ToleratedRequirement) (value : Json) : Prop :=
  ∃ members, value = .object members ∧
    Holds ["feature", "tolerates"]
      [("feature", .text requirement.feature), ("tolerates", texts requirement.tolerates)] members

/-- The platforms stand in any order. -/
def Feature.PublishedInformation (feature : Feature) (value : Json) : Prop :=
  ∃ members platforms tolerated, value = .object members ∧
    NameSet.ofList platforms = feature.platforms ∧
    List.Forall₂ ToleratedRequirement.Published feature.tolerated tolerated ∧
    Holds ["shortName", "provideFeature", "visibility", "platforms", "requireFeature",
        "requireFeatureWithTolerates", "configElements"]
      [("shortName", .text feature.name), ("provideFeature", texts feature.symbolicName.toList),
        ("visibility", .text feature.visibility.word), ("platforms", texts platforms),
        ("requireFeature", texts feature.requires),
        ("requireFeatureWithTolerates", .array tolerated),
        ("configElements", texts feature.configElements)] members

def Feature.Published (feature : Feature) (value : Json) : Prop :=
  ∃ members information, value = .object members ∧ feature.PublishedInformation information ∧
    Holds ["shortDescription", "wlpInformation"]
      (feature.description.toList.map (fun text => ("shortDescription", .text text)) ++
        [("wlpInformation", information)]) members

/-- An array with an object for each feature. -/
def Published (features : List Feature) (value : Json) : Prop :=
  ∃ items, value = .array items ∧ List.Forall₂ Feature.Published features items

/-! ## Decoding -/

theorem texts_eq_nil_iff {values : List String} : texts values = .array [] ↔ values = [] := by
  simp [texts]

/-- A list is read in full, since it is left out only if it is empty. -/
theorem ite_of_seen {α : Type} {key : String} {last : List String} {values : List α}
    (h : key ∈ last ∨ values = []) : (if key ∈ last then values else []) = values := by
  rcases h with hseen | rfl
  · exact if_pos hseen
  · exact ite_self []

namespace ToleratedRequirement

/-- The requirement as far as its members have been seen. -/
def upTo (requirement : ToleratedRequirement) (seen : List String) : ToleratedRequirement where
  feature := if "feature" ∈ seen then requirement.feature else ""
  tolerates := if "tolerates" ∈ seen then requirement.tolerates else []

theorem decode_of_published {requirement : ToleratedRequirement} {value : Json}
    (h : requirement.Published value) :
    CatalogEntry.toleratedDecoder (asRead value) = .ok requirement := by
  obtain ⟨members, rfl, hholds⟩ := h
  refine record_asRead requirement.upTo rfl hholds ?_ ?_ ?_ ?_
  · simp [names, Field.of]
  · simp only [List.forall_mem_cons]
    refine ⟨fills_of ?_ (text_asRead requirement.feature) ?_,
      fills_of ?_ (list_text_asRead requirement.tolerates) ?_, List.forall_mem_nil _⟩
    · simp
    · simp [upTo]
    · simp
    · simp [upTo]
  · simp only [List.forall_mem_cons]
    refine ⟨fun _ => ⟨_, List.mem_cons_self, by simp⟩, fun hrequired => ?_, List.forall_mem_nil _⟩
    exact absurd hrequired Bool.false_ne_true
  · intro seen hseen
    simp only [List.forall_mem_cons, texts_eq_nil_iff, reduceCtorEq, or_false] at hseen
    obtain ⟨hfeature, htolerates, -⟩ := hseen
    rw [upTo, if_pos hfeature, ite_of_seen htolerates]

end ToleratedRequirement

namespace Feature

/-- What is published about the feature besides its description, as far as the members have been
seen. -/
def informationUpTo (feature : Feature) (platforms : List String) (seen : List String) :
    CatalogEntry where
  shortName := if "shortName" ∈ seen then some feature.name else none
  provides := if "provideFeature" ∈ seen then feature.symbolicName.toList else []
  visibility := if "visibility" ∈ seen then some feature.visibility.word else none
  platforms := if "platforms" ∈ seen then platforms else []
  requires := if "requireFeature" ∈ seen then feature.requires else []
  tolerated := if "requireFeatureWithTolerates" ∈ seen then feature.tolerated else []
  configElements := if "configElements" ∈ seen then feature.configElements else []

/-- The entry that the feature is published by. -/
def entry (feature : Feature) (platforms : List String) : CatalogEntry where
  description := feature.description
  shortName := some feature.name
  provides := feature.symbolicName.toList
  visibility := some feature.visibility.word
  platforms := platforms
  requires := feature.requires
  tolerated := feature.tolerated
  configElements := feature.configElements

theorem decode_information {feature : Feature} {value : Json}
    (h : feature.PublishedInformation value) :
    ∃ platforms, NameSet.ofList platforms = feature.platforms ∧
      CatalogEntry.informationDecoder (asRead value) =
        .ok { feature.entry platforms with description := none } := by
  obtain ⟨members, platforms, tolerated, rfl, hplatforms, htolerated, hholds⟩ := h
  refine ⟨platforms, hplatforms, ?_⟩
  have hlist : list CatalogEntry.toleratedDecoder (asRead (.array tolerated)) =
      .ok feature.tolerated := by
    refine list_asRead (htolerated.flip.imp ?_)
    intro value requirement hpublished
    exact ToleratedRequirement.decode_of_published hpublished
  refine record_asRead (feature.informationUpTo platforms) rfl hholds ?_ ?_ ?_ ?_
  · simp [names, Field.of]
  · simp only [List.forall_mem_cons]
    refine ⟨fills_of ?_ (optional_text_asRead feature.name) ?_,
      fills_of ?_ (list_text_asRead feature.symbolicName.toList) ?_,
      fills_of ?_ (optional_text_asRead feature.visibility.word) ?_,
      fills_of ?_ (list_text_asRead platforms) ?_,
      fills_of ?_ (list_text_asRead feature.requires) ?_,
      fills_of ?_ hlist ?_,
      fills_of ?_ (list_text_asRead feature.configElements) ?_, List.forall_mem_nil _⟩
    all_goals simp [informationUpTo]
  · simp [Field.of]
  · intro seen hseen
    simp only [List.forall_mem_cons, texts_eq_nil_iff, reduceCtorEq, or_false] at hseen
    obtain ⟨hname, hprovides, hvisibility, hseen, hrequires, htolerates, helements, -⟩ := hseen
    have htolerates : "requireFeatureWithTolerates" ∈ seen ∨ feature.tolerated = [] := by
      refine htolerates.imp_right fun hempty => ?_
      obtain rfl := Json.array.inj hempty
      exact List.forall₂_nil_right_iff.mp htolerated
    rw [informationUpTo, if_pos hname, if_pos hvisibility, ite_of_seen hprovides, ite_of_seen hseen,
      ite_of_seen hrequires, ite_of_seen htolerates, ite_of_seen helements]
    rfl

/-- The entry of the feature, as far as its two members have been seen. -/
def entryUpTo (feature : Feature) (platforms : List String) (seen : List String) : CatalogEntry :=
  { (if "wlpInformation" ∈ seen then feature.entry platforms else {}) with
    description := if "shortDescription" ∈ seen then feature.description else none }

theorem decode_of_published {feature : Feature} {value : Json} (h : feature.Published value) :
    ∃ platforms, NameSet.ofList platforms = feature.platforms ∧
      CatalogEntry.decoder (asRead value) = .ok (feature.entry platforms) := by
  obtain ⟨members, information, rfl, hinformation, hholds⟩ := h
  obtain ⟨platforms, hplatforms, hdecode⟩ := decode_information hinformation
  have hobject : information ≠ .array [] := by
    obtain ⟨_, _, _, rfl, -⟩ := hinformation
    simp
  refine ⟨platforms, hplatforms, ?_⟩
  refine record_asRead (feature.entryUpTo platforms) rfl hholds ?_ ?_ ?_ ?_
  · intro member hmember
    rcases List.mem_append.mp hmember with hdescribed | hinformed
    · obtain ⟨_, -, rfl⟩ := List.mem_map.mp hdescribed
      exact List.mem_cons_self
    · obtain rfl := List.mem_singleton.mp hinformed
      exact List.mem_cons_of_mem _ List.mem_cons_self
  · simp only [List.forall_mem_cons]
    refine ⟨?_, fills_of ?_ hdecode ?_, List.forall_mem_nil _⟩
    · -- only a description that there is has a member
      intro value hvalue seen _
      obtain ⟨description, hdescription, rfl⟩ : ∃ description,
          feature.description = some description ∧ Json.text description = value := by
        simpa [Field.of] using hvalue
      simp [Field.of, optional_text_asRead, Except.map, entryUpTo, hdescription]
    · intro other hother
      simpa using hother
    · simp [entryUpTo]
  · simp only [List.forall_mem_cons]
    refine ⟨fun hrequired => absurd hrequired Bool.false_ne_true,
      fun _ => ⟨information, ?_, hobject⟩, List.forall_mem_nil _⟩
    simp [Field.of]
  · intro seen hseen
    have hinformed : "wlpInformation" ∈ seen :=
      (hseen ("wlpInformation", information) (by simp)).resolve_right hobject
    have hdescribed : (if "shortDescription" ∈ seen then feature.description else none) =
        feature.description := by
      cases hdescription : feature.description with
      | none => exact ite_self none
      | some description =>
        have hmember := hseen ("shortDescription", .text description) (by simp [hdescription])
        exact if_pos (hmember.resolve_right (by simp))
    rw [entryUpTo, if_pos hinformed, hdescribed]
    rfl

/-! ## The feature of an entry -/

theorem visibilityOf_word (visibility : Visibility) :
    CatalogEntry.visibilityOf (some visibility.word) = visibility := by
  cases visibility <;> rfl

theorem name?_entry {feature : Feature} {platforms : List String}
    (h : Text.isBlank feature.name = false) :
    (feature.entry platforms).name? = some feature.name := by
  simp [CatalogEntry.name?, entry, h]

theorem toFeature_entry {feature : Feature} {platforms : List String}
    (h : NameSet.ofList platforms = feature.platforms) :
    (feature.entry platforms).toFeature feature.name = feature := by
  have hnormal : platforms.map Name.normalize = platforms := by
    calc platforms.map Name.normalize
        = platforms.map id := List.map_congr_left fun platform hplatform =>
            feature.normalize_platform platform (h ▸ NameSet.mem_ofList.mpr hplatform)
      _ = platforms := List.map_id platforms
  have hplatforms : (∅ : NameSet) ∪ NameSet.ofList (platforms.map Name.normalize) =
      feature.platforms := by
    rw [hnormal, h]
    exact Std.ExtTreeSet.ext_mem fun platform => by simp
  have htrim := feature.trim_name
  unfold CatalogEntry.toFeature entry
  simp only [visibilityOf_word, foldl_withTolerated]
  obtain ⟨name, symbolicName, visibility, description, backed, requires, tolerated, elements, _,
    _⟩ := feature
  cases symbolicName <;> cases description <;>
    simp_all [named, withPlatforms, withRequires, withConfigElements, withSymbolicName,
      withDescription]

end Feature

/-! ## Catalogs -/

theorem toFeatures_of_entries {features : List Feature} {entries : List CatalogEntry}
    (hnames : ∀ feature ∈ features, Text.isBlank feature.name = false)
    (h : List.Forall₂ (fun feature entry => ∃ platforms,
      NameSet.ofList platforms = Feature.platforms feature ∧ entry = feature.entry platforms)
      features entries) (place : Nat) : CatalogEntry.toFeatures place entries = .ok features := by
  induction h generalizing place with
  | nil => rfl
  | @cons feature entry features entries hentry _ ih =>
    obtain ⟨hname, hrest⟩ := List.forall_mem_cons.mp hnames
    obtain ⟨platforms, hplatforms, rfl⟩ := hentry
    rw [CatalogEntry.toFeatures, Feature.name?_entry hname]
    simp only [ih hrest, Feature.toFeature_entry hplatforms, Except.map]

theorem exists_entries {features : List Feature} {items : List Json}
    (h : List.Forall₂ Feature.Published features items) :
    ∃ entries, List.Forall₂ (fun item entry => CatalogEntry.decoder (asRead item) = .ok entry)
        items entries ∧
      List.Forall₂ (fun feature entry => ∃ platforms,
        NameSet.ofList platforms = Feature.platforms feature ∧ entry = feature.entry platforms)
        features entries := by
  induction h with
  | nil => exact ⟨[], .nil, .nil⟩
  | cons hpublished _ ih =>
    obtain ⟨entries, hdecoded, hentries⟩ := ih
    obtain ⟨platforms, hplatforms, hdecode⟩ := Feature.decode_of_published hpublished
    exact ⟨_ :: entries, .cons hdecode hdecoded, .cons ⟨platforms, hplatforms, rfl⟩ hentries⟩

/-- Every text in which a list of features is published is read as the catalog of these features. -/
theorem parse_of_published {features : List Feature} {value : Json} {text : String}
    (hnames : ∀ feature ∈ features, Text.isBlank feature.name = false)
    (hpublished : Published features value) (htext : IsText value text.toList) :
    Catalog.parse (Text.bytesOf text) = .ok (Catalog.ofFeatures features) := by
  obtain ⟨items, rfl, hitems⟩ := hpublished
  obtain ⟨entries, hdecoded, hentries⟩ := exists_entries hitems
  have hread : decode (list CatalogEntry.decoder) (Text.glyphs (Text.bytesOf text)) =
      .ok entries := by
    rw [Text.glyphs_bytesOf, decode_of_isText htext, list_asRead hdecoded]
  rw [Catalog.parse, hread]
  simp only [toFeatures_of_entries hnames hentries]

/-- A feature with a description that has to be escaped. -/
def describedFeature : Feature where
  name := "servlet-6.0"
  symbolicName := some "io.openliberty.servlet-6.0"
  visibility := .isPublic
  description := some "The \"é\" servlet\n\x01"
  platforms := NameSet.ofList ["jakartaee-10.0", "javaee-8.0"]
  requires := []
  tolerated := [⟨"cdi-4.0", ["3.0", "4.1"]⟩]
  configElements := ["httpSession"]
  trim_name := by decide +kernel
  normalize_platform := by
    intro platform hplatform
    rw [NameSet.mem_ofList] at hplatform
    revert platform
    decide +kernel

/-- The feature is published with its members in another order, an empty list left out, and members
that the format does not know. -/
def describedInformation : Json :=
  .object [
    ("configElements", texts ["httpSession"]), ("installSize", .number (.other "1e999")),
    ("platforms", texts ["javaee-8.0", "jakartaee-10.0"]),
    ("requireFeatureWithTolerates", .array [.object [
      ("tolerates", texts ["3.0", "4.1"]), ("feature", .text "cdi-4.0"), ("version", .null)]]),
    ("visibility", .text "PUBLIC"), ("provideFeature", texts ["io.openliberty.servlet-6.0"]),
    ("shortName", .text "servlet-6.0")]

def describedEntry : Json :=
  .object [
    ("wlpInformation", describedInformation), ("name", .array [.bool true]),
    ("shortDescription", .text "The \"é\" servlet\n\x01")]

theorem published_describedEntry : describedFeature.Published describedEntry := by
  have hrequirement : ToleratedRequirement.Published ⟨"cdi-4.0", ["3.0", "4.1"]⟩ (.object [
      ("tolerates", texts ["3.0", "4.1"]), ("feature", .text "cdi-4.0"), ("version", .null)]) :=
    ⟨_, rfl, by simp, by simp, by decide⟩
  have hplatforms : NameSet.ofList ["javaee-8.0", "jakartaee-10.0"] = describedFeature.platforms :=
    Std.ExtTreeSet.ext_mem fun platform => by simp [describedFeature, or_comm]
  have hinformation : describedFeature.PublishedInformation describedInformation := by
    refine ⟨_, ["javaee-8.0", "jakartaee-10.0"], _, rfl, hplatforms, .cons hrequirement .nil,
      ?_, ?_, ?_⟩
    · simp [describedFeature, texts, Visibility.word]
    · simp [describedFeature, texts, Visibility.word]
    · decide
  refine ⟨_, describedInformation, rfl, hinformation, ?_, ?_, ?_⟩
  · simp [describedFeature]
  · simp [describedFeature]
  · decide

theorem isPrinted_describedEntry :
    ∀ number ∈ numbers (.array [describedEntry]), IsPrinted number := by
  have hone : Digits ['1'] := ⟨nofun, List.all_eq_true.mp rfl⟩
  have hnines : Digits ['9', '9', '9'] := ⟨nofun, List.all_eq_true.mp rfl⟩
  have hwhole : Whole ['1'] := .inr ⟨hone, by decide⟩
  have hpower : Power ('e' :: ([] ++ ['9', '9', '9'])) :=
    .digits (by decide) (by decide) hnines
  have hliteral : Literal ['1', 'e', '9', '9', '9'] := .positive (.of hwhole .none hpower)
  have hnumber : numberOf ['1', 'e', '9', '9', '9'] = .other "1e999" := by decide +kernel
  have hnumbers : numbers (.array [describedEntry]) = [.other "1e999"] := rfl
  rw [hnumbers, List.forall_mem_singleton]
  exact ⟨hliteral, hnumber⟩

theorem parse_of_published_described :
    Catalog.parse (Text.bytesOf (pretty (.array [describedEntry]))) =
      .ok (Catalog.ofFeatures [describedFeature]) := by
  have htext : IsText (.array [describedEntry]) (pretty (.array [describedEntry])).toList := by
    rw [pretty, String.toList_ofList]
    exact isText_print (some 0) _ isPrinted_describedEntry
  exact parse_of_published (by decide +kernel) ⟨_, rfl, .cons published_describedEntry .nil⟩ htext

end FeatureCheck
