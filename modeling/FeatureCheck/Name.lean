import FeatureCheck.Text.Ascii
import FeatureCheck.Text.Lowercase
import FeatureCheck.Text.Split

/-!
# Names of features and platforms

A versioned name is a base, a hyphen and a version: `servlet-6.0`, `jakartaee-10.0`. Names are
looked up by their normal form, trimmed and in lower case; everything else here keeps the case.
-/

namespace FeatureCheck.Name

set_option autoImplicit false

/-- Lead of the names of features that users write; these are never checked. -/
def userLead : String := "usr:"

/-- Namespace of the private features that stand behind a versionless public one. -/
def versionlessNamespace : String := "io.openliberty.internal.versionless."

/-- Base and version, divided by the last hyphen. -/
def splitVersion? (name : String) : Option (String × String) :=
  (Text.splitLast? '-' name.toList).map fun parts =>
    (String.ofList parts.1, String.ofList parts.2)

def isVersioned (name : String) : Bool :=
  name.toList.contains '-'

def isVersionless (name : String) : Bool :=
  !isVersioned name

def base (name : String) : String :=
  ((splitVersion? name).map Prod.fst).getD name

def version? (name : String) : Option String :=
  (splitVersion? name).map Prod.snd

def isUser (name : String) : Bool :=
  Text.startsIgnoringCase name userLead

/-- The name inside a namespace; a name outside it, or equal to it, stays whole. -/
def withoutNamespace (name space : String) : String :=
  match Text.dropLead? space.toList name.toList with
  | some (c :: rest) => String.ofList (c :: rest)
  | _ => name

/-- The form under which a name is looked up. -/
def normalize (name : String) : String :=
  Text.lowercase (Text.trim name)

theorem splitVersion?_eq_none_iff {name : String} :
    splitVersion? name = none ↔ '-' ∉ name.toList := by
  rw [splitVersion?, Option.map_eq_none_iff, Text.splitLast?_eq_none_iff]

theorem splitVersion?_eq_some_iff {name front back : String} :
    splitVersion? name = some (front, back) ↔
      name = front ++ "-" ++ back ∧ '-' ∉ back.toList := by
  have hname : name = front ++ "-" ++ back ↔ name.toList = front.toList ++ '-' :: back.toList := by
    rw [← String.toList_inj]
    simp
  rw [hname, ← Text.splitLast?_eq_some_iff, splitVersion?, Option.map_eq_some_iff]
  constructor
  · rintro ⟨parts, hsplit, hparts⟩
    obtain ⟨rfl, rfl⟩ := Prod.mk.inj hparts
    simpa using hsplit
  · intro hsplit
    exact ⟨_, hsplit, by simp⟩

theorem splitVersion?_eq (name : String) :
    splitVersion? name = (version? name).map fun version => (base name, version) := by
  rw [version?, base]
  cases splitVersion? name <;> rfl

/-- A name has a version just when it has a hyphen. -/
theorem isSome_version?_iff {name : String} :
    (version? name).isSome = true ↔ '-' ∈ name.toList := by
  rw [version?, Option.isSome_map, Option.isSome_iff_ne_none, ne_eq, splitVersion?_eq_none_iff,
    Decidable.not_not]

/-- Base and version are what stands around the last hyphen. -/
theorem version?_eq_some_iff {name version : String} : version? name = some version ↔
    name = base name ++ "-" ++ version ∧ '-' ∉ version.toList := by
  rw [← splitVersion?_eq_some_iff, splitVersion?_eq]
  simp

@[simp] theorem normalize_normalize (name : String) :
    normalize (normalize name) = normalize name := by
  simp only [normalize, Text.lowercase, Text.trim, String.toList_ofList]
  rw [Text.trimChars_eq_self (Text.trimmed_lowerChars (Text.trimmed_trimChars _)),
    Text.lowerChars_lowerChars]

@[simp] theorem normalize_trim (name : String) : normalize (Text.trim name) = normalize name := by
  simp [normalize]

/-- Just the blank names have an empty normal form. -/
theorem isEmpty_normalize (name : String) :
    (normalize name).isEmpty = (Text.trim name).isEmpty := by
  rw [Bool.eq_iff_iff, String.isEmpty_iff, String.isEmpty_iff, ← String.toList_eq_nil_iff,
    ← String.toList_eq_nil_iff, normalize, Text.lowercase, String.toList_ofList]
  exact Text.lowerFrom_eq_nil_iff

theorem mem_of_mem_base {name : String} {c : Char} (h : c ∈ (base name).toList) :
    c ∈ name.toList := by
  cases hsplit : splitVersion? name with
  | none => simpa [base, hsplit] using h
  | some parts =>
    obtain ⟨front, back⟩ := parts
    rw [(splitVersion?_eq_some_iff.mp hsplit).1, String.append_assoc, String.toList_append]
    exact List.mem_append_left _ (by simpa [base, hsplit] using h)

/-- The base of a key is in lower case. -/
theorem map_toLower_base_normalize (name : String) :
    (base (normalize name)).toList.map Char.toLower = (base (normalize name)).toList := by
  have hlower : ∀ c ∈ (base (normalize name)).toList, c.toLower = c := by
    intro c hc
    have hmem := mem_of_mem_base hc
    rw [normalize, Text.lowercase, String.toList_ofList] at hmem
    exact Text.toLower_of_mem_lowerFrom hmem
  rw [List.map_congr_left hlower, List.map_id']

end FeatureCheck.Name
