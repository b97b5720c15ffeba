import FeatureCheck.Proofs.Catalog.Lookup
import FeatureCheck.Proofs.Tables
import FeatureCheck.Text.Ascii

/-!
# Features that match a name

A catalog finds a name by its normal form. A feature by itself matches a name as it is written, up
to the case of ASCII letters. What matches has the normal form too (`goesBy_of_matchesName`), but
not the other way round: white space around a name and the case of other letters count in the one
comparison only. So the feature that is found is the first that matches just when it does match
(`feature?_eq_find?_matchesName`).
-/

namespace FeatureCheck

set_option autoImplicit false

namespace Text

variable {text : String}

/-- Nothing around the text is white space, and the case of its letters is a matter of ASCII. -/
structure IsBare (text : String) : Prop where
  ascii : isAscii text = true
  trim : trim text = text

theorem IsBare.normalize (h : IsBare text) :
    (Name.normalize text).toList = text.toList.map Char.toLower := by
  have hascii : ∀ c ∈ text.toList, c.toNat < 0x80 := by simpa [isAscii] using h.ascii
  rw [Name.normalize, h.trim, lowercase, String.toList_ofList, lowerChars, lowerFrom_ascii hascii]

end Text

namespace Name

variable {left right : String}

theorem normalize_of_equalsIgnoringCase (h : Text.equalsIgnoringCase left right = true) :
    normalize left = normalize right := by
  have hlowered : ∀ text : String, (normalize text).toList =
      Text.lowerChars (Text.trimChars (text.toList.map Char.toLower)) := by
    intro text
    rw [Text.trimChars_map_toLower, Text.lowerChars, ← List.map_nil, Text.lowerFrom_map_toLower,
      normalize, Text.lowercase, Text.trim, String.toList_ofList, String.toList_ofList,
      Text.lowerChars]
  rw [← String.toList_inj, hlowered left, hlowered right, Text.equalsIgnoringCase_eq_true.mp h]

theorem equalsIgnoringCase_of_normalize (hleft : Text.IsBare left) (hright : Text.IsBare right)
    (h : normalize left = normalize right) : Text.equalsIgnoringCase left right = true := by
  rw [Text.equalsIgnoringCase_eq_true, ← hleft.normalize, ← hright.normalize, h]

end Name

namespace Feature

variable {feature : Feature} {name : String}

/-- The short and the symbolic name, as they are written. -/
def names (feature : Feature) : List String :=
  feature.name :: feature.symbolicName.toList

/-- One of the names of the feature has the normal form of the name. -/
def goesBy (feature : Feature) (name : String) : Bool :=
  feature.names.any fun own => Name.normalize own = Name.normalize name

theorem goesBy_iff : feature.goesBy name = true ↔
    ∃ own ∈ feature.names, Name.normalize own = Name.normalize name := by
  simp [goesBy]

theorem matchesName_iff : feature.matchesName name = true ↔
    ∃ own ∈ feature.names, Text.equalsIgnoringCase own name = true := by
  cases hsymbolic : feature.symbolicName <;> simp [matchesName, names, hsymbolic]

theorem contains_keys (feature : Feature) (name : String) :
    feature.keys.contains (Name.normalize name) = feature.goesBy name := by
  rw [Bool.eq_iff_iff, goesBy_iff, List.contains_iff_mem]
  cases hsymbolic : feature.symbolicName <;>
    simp [keys, key, names, hsymbolic, @eq_comm _ (Name.normalize name)]

theorem goesBy_of_matchesName (h : feature.matchesName name = true) :
    feature.goesBy name = true := by
  obtain ⟨own, hown, hequal⟩ := matchesName_iff.mp h
  exact goesBy_iff.mpr ⟨own, hown, Name.normalize_of_equalsIgnoringCase hequal⟩

theorem matchesName_of_goesBy (hname : Text.IsBare name)
    (hnames : ∀ own ∈ feature.names, Text.IsBare own) (h : feature.goesBy name = true) :
    feature.matchesName name = true := by
  obtain ⟨own, hown, hequal⟩ := goesBy_iff.mp h
  exact matchesName_iff.mpr
    ⟨own, hown, Name.equalsIgnoringCase_of_normalize (hnames own hown) hname hequal⟩

end Feature

namespace Catalog

variable {catalog : Catalog} {feature : Feature} {name : String}

theorem feature?_eq_find?_goesBy (catalog : Catalog) (name : String) :
    catalog.feature? name = catalog.features.find? (·.goesBy name) := by
  rw [feature?_eq_find?]
  simp only [Feature.contains_keys]

theorem not_matchesName_of_feature?_eq_none (h : catalog.feature? name = none)
    (hfeature : feature ∈ catalog.features) : ¬ feature.matchesName name = true := by
  intro hmatches
  rw [feature?_eq_find?_goesBy, List.find?_eq_none] at h
  exact h feature hfeature (Feature.goesBy_of_matchesName hmatches)

/-- No feature before the one that is found matches, for it would have been found. -/
theorem find?_matchesName_of_feature? (h : catalog.feature? name = some feature)
    (hmatches : feature.matchesName name = true) :
    catalog.features.find? (·.matchesName name) = some feature := by
  rw [feature?_eq_find?_goesBy, List.find?_eq_some_iff_append] at h
  obtain ⟨-, before, after, hfeatures, hbefore⟩ := h
  rw [List.find?_eq_some_iff_append]
  refine ⟨hmatches, before, after, hfeatures, fun earlier hearlier => ?_⟩
  have hskipped := hbefore earlier hearlier
  rw [Bool.not_eq_true'] at hskipped ⊢
  rw [Bool.eq_false_iff]
  intro hfirst
  rw [Feature.goesBy_of_matchesName hfirst] at hskipped
  cases hskipped

/-- For every catalog and every name: what is found is the first feature with the normal form of the
name. Whatever matches the name has its normal form. What is found is the first that matches just
when it matches at all; so it is wherever nothing but ASCII is written and no name has white space
around it. -/
theorem feature?_eq_find?_matchesName (catalog : Catalog) (name : String) :
    catalog.feature? name = catalog.features.find? (·.goesBy name) ∧
      (∀ feature : Feature, feature.matchesName name = true → feature.goesBy name = true) ∧
      (catalog.feature? name = catalog.features.find? (·.matchesName name) ↔
        ∀ feature, catalog.feature? name = some feature → feature.matchesName name = true) ∧
      (Text.IsBare name →
        (∀ feature ∈ catalog.features, ∀ own ∈ feature.names, Text.IsBare own) →
        catalog.feature? name = catalog.features.find? (·.matchesName name)) := by
  have hagree : catalog.feature? name = catalog.features.find? (·.matchesName name) ↔
      ∀ feature, catalog.feature? name = some feature → feature.matchesName name = true := by
    constructor
    · intro heq feature hfound
      rw [heq] at hfound
      have hmatches := List.find?_some hfound
      exact hmatches
    · intro hmatches
      cases hfound : catalog.feature? name with
      | none =>
        symm
        rw [List.find?_eq_none]
        intro feature hfeature
        exact not_matchesName_of_feature?_eq_none hfound hfeature
      | some feature => exact (find?_matchesName_of_feature? hfound (hmatches feature hfound)).symm
  refine ⟨feature?_eq_find?_goesBy catalog name, fun _ => Feature.goesBy_of_matchesName, hagree, ?_⟩
  intro hname hnames
  rw [hagree]
  intro feature hfound
  have hgoes : feature.goesBy name = true := by
    rw [feature?_eq_find?_goesBy] at hfound
    have hgoes := List.find?_some hfound
    exact hgoes
  exact Feature.matchesName_of_goesBy hname (hnames feature (mem_of_feature? hfound)) hgoes

def accentedFeature : Feature :=
  .named "É-1.0" .isPublic

def servletFeature : Feature :=
  (Feature.named "servlet-6.0" .isPublic).withSymbolicName
    "com.ibm.websphere.appserver.servlet-6.0"

/-- Each notion finds the feature by its symbolic name, in whatever case that is written. -/
theorem feature?_eq_find?_matchesName_servlet :
    Text.IsBare "COM.IBM.websphere.appserver.Servlet-6.0" ∧
      (ofFeatures [servletFeature]).feature? "COM.IBM.websphere.appserver.Servlet-6.0" =
        some servletFeature ∧
      (ofFeatures [servletFeature]).features.find?
          (·.matchesName "COM.IBM.websphere.appserver.Servlet-6.0") = some servletFeature := by
  have hname : Text.IsBare "COM.IBM.websphere.appserver.Servlet-6.0" :=
    ⟨by decide +kernel, by decide +kernel⟩
  have hfeatures : (ofFeatures [servletFeature]).features = [servletFeature] := by decide +kernel
  have hnames : ∀ feature ∈ (ofFeatures [servletFeature]).features,
      ∀ own ∈ feature.names, Text.IsBare own := by
    intro feature hfeature own hown
    rw [hfeatures, List.mem_singleton] at hfeature
    subst hfeature
    have hwritten : servletFeature.names =
        ["servlet-6.0", "com.ibm.websphere.appserver.servlet-6.0"] := by decide +kernel
    rw [hwritten, List.mem_pair] at hown
    rcases hown with rfl | rfl
    · exact ⟨by decide +kernel, by decide +kernel⟩
    · exact ⟨by decide +kernel, by decide +kernel⟩
  obtain ⟨hgoes, -, -, hagree⟩ := feature?_eq_find?_matchesName (ofFeatures [servletFeature])
    "COM.IBM.websphere.appserver.Servlet-6.0"
  have hfound : (ofFeatures [servletFeature]).feature?
      "COM.IBM.websphere.appserver.Servlet-6.0" = some servletFeature := by
    rw [hgoes]
    decide +kernel
  exact ⟨hname, hfound, (hagree hname hnames).symm.trans hfound⟩

/-- What is found by a name in other letters, or with white space around it, does not match it. -/
theorem feature?_without_match :
    ((ofFeatures [accentedFeature]).feature? "é-1.0" = some accentedFeature ∧
      (ofFeatures [accentedFeature]).features.find? (·.matchesName "é-1.0") = none) ∧
    ((ofFeatures [servletFeature]).feature? " servlet-6.0" = some servletFeature ∧
      (ofFeatures [servletFeature]).features.find? (·.matchesName " servlet-6.0") = none) := by
  rw [feature?_eq_find?_goesBy, feature?_eq_find?_goesBy]
  refine ⟨⟨?_, ?_⟩, ?_, ?_⟩
  all_goals decide +kernel

end Catalog

end FeatureCheck
