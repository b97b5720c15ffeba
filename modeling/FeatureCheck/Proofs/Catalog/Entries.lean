import FeatureCheck.Catalog.Entry
import FeatureCheck.Proofs.Catalog.Construction
import FeatureCheck.Proofs.Text.Utf8
import Mathlib.Data.List.Forall2
import Mathlib.Data.List.TakeWhile

/-!
# Catalogs of entries

A list of entries is read as a whole or not at all. The first entry without a name is what a failure
names; if there is none, each entry becomes a feature, and the catalog finds one under every name:
`parse_entries`.
-/

namespace FeatureCheck

set_option autoImplicit false

/-! ## Blank texts -/

namespace Text

theorem trimChars_eq_nil_iff {cs : List Char} : trimChars cs = [] ↔ ∀ c ∈ cs, isSpace c = true := by
  rw [trimChars, dropTail, List.reverse_eq_nil_iff, List.dropWhile_eq_nil_iff]
  simp only [List.mem_reverse]
  constructor
  · intro hrest
    rw [← List.dropWhile_eq_nil_iff]
    -- what is left in front begins with a character that is no space
    cases hfront : cs.dropWhile isSpace with
    | nil => rfl
    | cons c rest =>
      have hspace : isSpace c = false := head?_dropWhile c (by rw [hfront]; rfl)
      rw [hrest c (by rw [hfront]; exact List.mem_cons_self)] at hspace
      cases hspace
  · intro hall c hc
    exact hall c ((List.dropWhile_suffix isSpace).subset hc)

theorem isBlank_iff {text : String} : isBlank text = true ↔ trim text = "" := by
  rw [isBlank, List.all_eq_true, ← trimChars_eq_nil_iff, trim, ← String.toList_eq_nil_iff,
    String.toList_ofList]

end Text

namespace CatalogEntry

/-! ## Names and features of entries -/

/-- The short name is not there or blank, and nothing is provided. -/
def Nameless (entry : CatalogEntry) : Prop :=
  (∀ name, entry.shortName = some name → Text.trim name = "") ∧ entry.provides = []

/-- The short name without the white space around it, or else the first provided name. -/
inductive Named (entry : CatalogEntry) : String → Prop
  | short {name : String} (hshort : entry.shortName = some name) (hstated : Text.trim name ≠ "") :
      Named entry (Text.trim name)
  | provided {name : String} {others : List String}
      (hblank : ∀ short, entry.shortName = some short → Text.trim short = "")
      (hprovided : entry.provides = name :: others) : Named entry name

/-- The feature is named and made as the entry says. -/
structure Describes (entry : CatalogEntry) (feature : Feature) : Prop where
  name : ∃ name, entry.Named name ∧ feature.name = Text.trim name
  symbolicName : feature.symbolicName = entry.provides.head?
  visibility : feature.visibility = visibilityOf entry.visibility
  description : feature.description = entry.description
  platforms : ∀ platform, platform ∈ feature.platforms ↔
    ∃ listed ∈ entry.platforms, Name.normalize listed = platform
  requires : feature.requires = entry.requires
  tolerated : feature.tolerated = entry.tolerated
  configElements : feature.configElements = entry.configElements

/-- The entry at the place has no name, and all before it have one. -/
def FirstNameless (entries : List CatalogEntry) (place : Nat) : Prop :=
  (∃ entry ∈ entries[place]?, entry.Nameless) ∧ ∀ entry ∈ entries.take place, ¬ entry.Nameless

variable {entry : CatalogEntry} {entries : List CatalogEntry} {name : String} {place : Nat}

theorem stated_eq_none_iff : entry.shortName.filter (!Text.isBlank ·) = none ↔
    ∀ name, entry.shortName = some name → Text.trim name = "" := by
  simp only [Option.filter_eq_none_iff, Bool.not_eq_true', Bool.not_eq_false, Text.isBlank_iff]

theorem name?_eq_or (entry : CatalogEntry) :
    entry.name? = (entry.shortName.filter (!Text.isBlank ·)).or entry.provides.head? :=
  Option.orElse_eq_or

theorem name?_eq_none_iff : entry.name? = none ↔ entry.Nameless := by
  rw [name?_eq_or, Option.or_eq_none_iff, stated_eq_none_iff, List.head?_eq_none_iff, Nameless]

instance (entry : CatalogEntry) : Decidable entry.Nameless :=
  decidable_of_iff _ name?_eq_none_iff

instance (entries : List CatalogEntry) (place : Nat) : Decidable (FirstNameless entries place) :=
  inferInstanceAs (Decidable (_ ∧ _))

/-- The name that is taken counts without the white space around it. -/
theorem exists_named_of_name? (h : entry.name? = some name) :
    ∃ stated, entry.Named stated ∧ Text.trim name = Text.trim stated := by
  rw [name?_eq_or] at h
  rcases Option.or_eq_some_iff.mp h with hshort | ⟨hblank, hprovided⟩
  · obtain ⟨hshort, hstated⟩ := Option.filter_eq_some_iff.mp hshort
    refine ⟨Text.trim name, .short hshort ?_, (Text.trim_trim name).symm⟩
    rw [ne_eq, ← Text.isBlank_iff]
    simpa using hstated
  · obtain ⟨others, hothers⟩ := List.head?_eq_some_iff.mp hprovided
    exact ⟨name, .provided (stated_eq_none_iff.mp hblank) hothers, rfl⟩

theorem Named.unique {other : String} (h : entry.Named name) (h' : entry.Named other) :
    name = other := by
  cases h with
  | short hshort hstated =>
    cases h' with
    | short hshort' => rw [Option.some.inj (hshort.symm.trans hshort')]
    | provided hblank => exact absurd (hblank _ hshort) hstated
  | provided hblank hprovided =>
    cases h' with
    | short hshort hstated => exact absurd (hblank _ hshort) hstated
    | provided _ hprovided' => exact (List.cons.inj (hprovided.symm.trans hprovided')).1

end CatalogEntry

theorem Feature.foldl_withTolerated (feature : Feature) (requirements : List ToleratedRequirement) :
    requirements.foldl withTolerated feature =
      { feature with tolerated := feature.tolerated ++ requirements } := by
  induction requirements generalizing feature with
  | nil => simp
  | cons requirement requirements ih =>
    rw [List.foldl_cons, ih]
    simp [withTolerated]

namespace CatalogEntry

variable {entry : CatalogEntry} {entries : List CatalogEntry} {name : String} {place : Nat}
  {features : List Feature} {feature : Feature}

theorem describes_toFeature (h : entry.name? = some name) :
    entry.Describes (entry.toFeature name) := by
  have hname := exists_named_of_name? h
  have hplatforms : ∀ platform,
      platform ∈ (∅ ∪ NameSet.ofList (entry.platforms.map Name.normalize) : NameSet) ↔
        ∃ listed ∈ entry.platforms, Name.normalize listed = platform := by
    intro platform
    rw [Std.ExtTreeSet.mem_union_iff, or_iff_right Std.ExtTreeSet.not_mem_empty,
      NameSet.mem_ofList, List.mem_map]
  obtain ⟨description, shortName, provides, _⟩ := entry
  unfold toFeature
  rw [Feature.foldl_withTolerated]
  cases description <;> cases provides <;>
    exact ⟨hname, rfl, rfl, rfl, hplatforms, rfl, rfl, rfl⟩

/-- Either the first nameless entry is what the reading fails with, or all of them are features. -/
theorem toFeatures_cases (place : Nat) (entries : List CatalogEntry) :
    (∃ k, FirstNameless entries k ∧ toFeatures place entries = .error (.nameless (place + k))) ∨
      (∀ entry ∈ entries, ¬ entry.Nameless) ∧
        ∃ features, List.Forall₂ Describes entries features ∧
          toFeatures place entries = .ok features := by
  induction entries generalizing place with
  | nil => exact .inr ⟨nofun, [], .nil, rfl⟩
  | cons entry entries ih =>
    rw [toFeatures]
    cases hname : entry.name? with
    | none =>
      exact .inl ⟨0, ⟨⟨entry, rfl, name?_eq_none_iff.mp hname⟩, nofun⟩, rfl⟩
    | some name =>
      have hnamed : ¬ entry.Nameless := by
        intro hnameless
        rw [name?_eq_none_iff.mpr hnameless] at hname
        cases hname
      rcases ih (place + 1) with ⟨k, ⟨hfirst, hbefore⟩, herror⟩ | ⟨hall, features, hfeatures, hok⟩
      · refine .inl ⟨k + 1, ⟨hfirst, ?_⟩, ?_⟩
        · rw [List.take_succ_cons]
          exact List.forall_mem_cons.mpr ⟨hnamed, hbefore⟩
        · rw [herror, show place + 1 + k = place + (k + 1) by omega]
          rfl
      · refine .inr ⟨List.forall_mem_cons.mpr ⟨hnamed, hall⟩, entry.toFeature name :: features,
          .cons (describes_toFeature hname) hfeatures, ?_⟩
        rw [hok]
        rfl

theorem FirstNameless.le {other : Nat} (h : FirstNameless entries place)
    (h' : FirstNameless entries other) : place ≤ other := by
  obtain ⟨entry, hentry, hnameless⟩ := h'.1
  by_contra hlt
  refine h.2 entry (List.mem_of_getElem? (i := other) ?_) hnameless
  rw [List.getElem?_take_of_lt (Nat.lt_of_not_le hlt)]
  exact hentry

theorem FirstNameless.unique {other : Nat} (h : FirstNameless entries place)
    (h' : FirstNameless entries other) : place = other :=
  Nat.le_antisymm (h.le h') (h'.le h)

end CatalogEntry

/-! ## The catalog of a list of entries -/

namespace Catalog

/-- A feature is found under its name unless one that is kept before it takes the name. -/
theorem feature?_ofFeatures_append (before : List Feature) (feature : Feature)
    (after : List Feature) :
    (ofFeatures (before ++ feature :: after)).feature? feature.name =
      if (ofFeatures before).Takes feature then (ofFeatures before).feature? feature.name
      else some feature := by
  obtain ⟨rest, -, hfeatures⟩ := features_ofFeatures_append before feature after
  rw [feature?_eq_find?, hfeatures, List.find?_append, List.find?_append, ← feature?_eq_find?]
  by_cases htakes : (ofFeatures before).Takes feature
  · rw [if_pos htakes, if_pos htakes]
    obtain ⟨earlier, hearlier⟩ := Option.isSome_iff_exists.mp (isSome_feature?_name_iff.mpr htakes)
    rw [hearlier]
    rfl
  · rw [if_neg htakes, if_neg htakes]
    have hnone : (ofFeatures before).feature? feature.name = none := by
      rw [← Option.not_isSome_iff_eq_none, isSome_feature?_name_iff]
      exact htakes
    rw [hnone]
    simp [Feature.keys, Feature.key]

theorem message_nameless (place : Nat) :
    CatalogError.message ⟨.nameless place, none⟩ = "Invalid catalog entry: entry #" ++
      toString place ++ " has neither shortName nor provideFeature" := by
  have hlead : "Invalid catalog entry" ++ "" ++ ": " ++ "entry #" =
      "Invalid catalog entry: entry #" := by decide
  rw [← hlead, CatalogError.message, Problem.describe]
  simp only [CatalogError.details, String.append_assoc]
  rfl

section Reading

variable {bytes : List UInt8} {entries : List CatalogEntry} {entry : CatalogEntry}
  {features : List Feature} {name : String} {place : Nat}

theorem parse_of_toFeatures
    (hdecode : Json.Decoder.decode (.list CatalogEntry.decoder) (Text.glyphs bytes) =
      .ok entries) :
    parse bytes = ((CatalogEntry.toFeatures 0 entries).mapError fun error => ⟨error, none⟩).map
      ofFeatures := by
  rw [parse, hdecode]
  dsimp only
  cases CatalogEntry.toFeatures 0 entries <;> rfl

/-- Under the name of an entry its feature is found, or an earlier one that has the name. -/
theorem found_of_entry (hfeatures : List.Forall₂ CatalogEntry.Describes entries features)
    (hentry : entries[place]? = some entry) (hnamed : entry.Named name) :
    ∃ feature found, features[place]? = some feature ∧
      (ofFeatures features).feature? name = some found ∧
      if (ofFeatures (features.take place)).Takes feature then
        found ∈ (ofFeatures (features.take place)).features ∧ feature.key ∈ found.keys
      else found = feature := by
  obtain ⟨hplace, rfl⟩ := List.getElem?_eq_some_iff.mp hentry
  have hlt : place < features.length := hfeatures.length_eq ▸ hplace
  have hdescribes : entries[place].Describes features[place] := hfeatures.get hplace hlt
  obtain ⟨stated, hstated, hname⟩ := hdescribes.name
  obtain rfl := hnamed.unique hstated
  have hsame : (ofFeatures features).feature? name =
      (ofFeatures features).feature? features[place].name :=
    feature?_congr (by rw [hname, Name.normalize_trim])
  have hsplit : features.take place ++ features[place] :: features.drop (place + 1) = features := by
    rw [← List.drop_eq_getElem_cons hlt, List.take_append_drop]
  have hfound := feature?_ofFeatures_append (features.take place) features[place]
    (features.drop (place + 1))
  rw [hsplit, ← hsame] at hfound
  by_cases htakes : (ofFeatures (features.take place)).Takes features[place]
  · obtain ⟨found, hearlier⟩ := Option.isSome_iff_exists.mp (isSome_feature?_name_iff.mpr htakes)
    rw [if_pos htakes, hearlier] at hfound
    refine ⟨features[place], found, List.getElem?_eq_getElem hlt, hfound, ?_⟩
    rw [if_pos htakes]
    refine ⟨mem_of_feature? hearlier, ?_⟩
    rw [feature?_eq_find?] at hearlier
    have hkey := List.find?_some hearlier
    exact List.contains_iff_mem.mp hkey
  · rw [if_neg htakes] at hfound
    refine ⟨features[place], features[place], List.getElem?_eq_getElem hlt, hfound, ?_⟩
    rw [if_neg htakes]

end Reading

/-- A list of entries is read as a whole or not at all. It is not if some entry has no name, and
then the first of these is named. Otherwise every entry becomes a feature; those that are kept stand
in the order of the entries, and under the name of each entry its own feature is found, or one that
was kept before it and has the name. -/
theorem parse_entries (bytes : List UInt8) (entries : List CatalogEntry)
    (hdecode : Json.Decoder.decode (.list CatalogEntry.decoder) (Text.glyphs bytes) =
      .ok entries) :
    (∀ problem, parse bytes = .error problem ↔
      ∃ place, CatalogEntry.FirstNameless entries place ∧ problem = ⟨.nameless place, none⟩) ∧
    (∀ place, (CatalogError.nameless place).word = "Invalid" ∧
      CatalogError.message ⟨.nameless place, none⟩ = "Invalid catalog entry: entry #" ++
        toString place ++ " has neither shortName nor provideFeature") ∧
    ((∀ entry ∈ entries, ¬ entry.Nameless) → ∃ features,
      List.Forall₂ CatalogEntry.Describes entries features ∧
      parse bytes = .ok (ofFeatures features) ∧
      (ofFeatures features).features.Sublist features ∧
      ∀ place entry name, entries[place]? = some entry → entry.Named name →
        ∃ feature found, features[place]? = some feature ∧
          (ofFeatures features).feature? name = some found ∧
          if (ofFeatures (features.take place)).Takes feature then
            found ∈ (ofFeatures (features.take place)).features ∧ feature.key ∈ found.keys
          else found = feature) := by
  have hparse := parse_of_toFeatures hdecode
  refine ⟨?_, fun place => ⟨rfl, message_nameless place⟩, ?_⟩
  · intro problem
    rcases CatalogEntry.toFeatures_cases 0 entries with ⟨first, hfirst, herror⟩ | ⟨hall, _, -, hok⟩
    · rw [Nat.zero_add] at herror
      rw [hparse, herror]
      constructor
      · intro h
        exact ⟨first, hfirst, (Except.error.inj h).symm⟩
      · rintro ⟨place, hplace, rfl⟩
        rw [hplace.unique hfirst]
        rfl
    · rw [hparse, hok]
      constructor
      · intro h
        cases h
      · rintro ⟨place, ⟨⟨entry, hentry, hnameless⟩, -⟩, -⟩
        exact absurd hnameless (hall entry (List.mem_of_getElem? hentry))
  · intro hall
    rcases CatalogEntry.toFeatures_cases 0 entries with
      ⟨_, ⟨⟨entry, hentry, hnameless⟩, -⟩, -⟩ | ⟨-, features, hfeatures, hok⟩
    · exact absurd hnameless (hall entry (List.mem_of_getElem? hentry))
    · rw [hok] at hparse
      exact ⟨features, hfeatures, hparse, features_ofFeatures_sublist features,
        fun _ _ _ => found_of_entry hfeatures⟩

/-- The second entry has its name from what it provides, and the first provides that name too. -/
def sharedNames : List Json := [
  .object [("wlpInformation", .object [
    ("shortName", .text " A"), ("provideFeature", .array [.text "b"])])],
  .object [("wlpInformation", .object [
    ("shortName", .text " "), ("provideFeature", .array [.text "B"])])]]

def nameless : Json := .object [("wlpInformation", .object [("shortName", .text "")])]

/-- A feature is found under the shared name, and with a nameless entry the list is not read. -/
theorem parse_sharedNames :
    (∃ features found, parse (Text.bytesOf (Json.compact (.array sharedNames))) =
        .ok (ofFeatures features) ∧ (ofFeatures features).feature? "B" = some found) ∧
    parse (Text.bytesOf (Json.compact (.array (sharedNames.drop 1 ++ [nameless])))) =
      .error ⟨.nameless 1, none⟩ := by
  constructor
  · have hdecode : Json.Decoder.decode (.list CatalogEntry.decoder)
        (Text.glyphs (Text.bytesOf (Json.compact (.array sharedNames)))) =
          .ok [{ shortName := some " A", provides := ["b"] },
            { shortName := some " ", provides := ["B"] }] :=
      toOption_eq_some_iff.mp (by decide +kernel)
    obtain ⟨-, -, hread⟩ := parse_entries _ _ hdecode
    obtain ⟨features, -, hparse, -, hfound⟩ := hread (by decide +kernel)
    obtain ⟨second, found, -, hlookup, -⟩ :=
      hfound 1 _ "B" rfl (.provided (by decide +kernel) rfl)
    exact ⟨features, found, hparse, hlookup⟩
  · have hdecode : Json.Decoder.decode (.list CatalogEntry.decoder)
        (Text.glyphs (Text.bytesOf (Json.compact (.array (sharedNames.drop 1 ++ [nameless]))))) =
          .ok [{ shortName := some " ", provides := ["B"] }, { shortName := some "" }] :=
      toOption_eq_some_iff.mp (by decide +kernel)
    obtain ⟨hfails, -, -⟩ := parse_entries _ _ hdecode
    exact (hfails _).mpr ⟨1, by decide +kernel, rfl⟩

end Catalog

end FeatureCheck
