import FeatureCheck.Configuration
import FeatureCheck.Proofs.Configuration.Overlay
import FeatureCheck.Proofs.Json.Fields

/-!
# Settings one by one

Each setting is a member of a table. As long as there is one variable for it at most, and none for
its table as a whole or for a place in it, variables replace the setting by the value of its own one
or leave it as it is. Only what a table has as a list is lost with any variable that leads into the
table (`stated?_foldl`). So a loaded configuration has for each setting what its variable gives, or
else what the file states, or else the default: `Configuration.load_settings`.
-/

namespace FeatureCheck

set_option autoImplicit false

/-- What is a value of its own in a configuration; the tables of names are not. -/
inductive Setting where
  | requestDelaySeconds
  | maxCachedRuntimes
  | mirrorDir
  | installDir
  | installedCatalog
  | versionlessNamespace
  deriving DecidableEq, Repr

namespace Setting

def table : Setting → String
  | .requestDelaySeconds | .maxCachedRuntimes => "resolver"
  | .mirrorDir | .installDir | .installedCatalog => "sources"
  | .versionlessNamespace => "tables"

def key : Setting → String
  | .requestDelaySeconds => "request_delay_seconds"
  | .maxCachedRuntimes => "max_cached_runtimes"
  | .mirrorDir => "mirror_dir"
  | .installDir => "install_dir"
  | .installedCatalog => "installed_catalog"
  | .versionlessNamespace => "versionless_namespace"

/-- Where the setting stands if its table is written as a list. -/
def place : Setting → Nat
  | .requestDelaySeconds | .mirrorDir => 0
  | .maxCachedRuntimes | .installDir => 1
  | .installedCatalog | .versionlessNamespace => 2

def name (setting : Setting) : String :=
  setting.table ++ "." ++ setting.key

/-- The name of the variable for the setting, in lower case. -/
def variableName (setting : Setting) : String :=
  Environment.lead ++ setting.table ++ "__" ++ setting.key

/-- The setting of a configuration, as it would be stated. -/
def get (configuration : Configuration) : Setting → Json
  | .requestDelaySeconds => .number (.whole configuration.resolver.requestDelaySeconds)
  | .maxCachedRuntimes => .number (.whole configuration.resolver.maxCachedRuntimes)
  | .mirrorDir => .ofOption configuration.sources.mirrorDir
  | .installDir => .ofOption configuration.sources.installDir
  | .installedCatalog => .text configuration.sources.installedCatalog
  | .versionlessNamespace => .text configuration.tables.versionlessNamespace

/-- The setting is a path or a namespace. -/
def isText : Setting → Bool
  | .requestDelaySeconds | .maxCachedRuntimes => false
  | _ => true

/-- What a tree of settings states, if it does. -/
def stated? (setting : Setting) (settings : Json) : Option Json :=
  (settings.members.lookup setting.table).bind (·.part? setting.key setting.place)

/-- The text of the variable for the setting, if there is one. -/
def text? (setting : Setting) (environment : Environment.Variables) : Option String :=
  (environment.find? fun entry => Environment.key? entry.1 = some setting.name).map (·.2)

theorem ofKey_table (setting : Setting) : KeyPath.ofKey setting.table = [.name setting.table] := by
  cases setting <;> decide +kernel

theorem ofKey_name (setting : Setting) :
    KeyPath.ofKey setting.name = [.name setting.table, .name setting.key] := by
  cases setting <;> decide +kernel

theorem eq_name_iff {key : String} {setting : Setting} :
    key = setting.name ↔ KeyPath.ofKey key = [.name setting.table, .name setting.key] := by
  constructor
  · rintro rfl
    exact setting.ofKey_name
  · exact KeyPath.eq_of_ofKey

/-- The variable of a setting leads to it, in whatever case its name is written. -/
theorem key?_of_lowercase {name : String} {setting : Setting}
    (h : Text.lowercase name = setting.variableName) :
    Environment.key? name = some setting.name := by
  rw [Environment.key?, h]
  cases setting <;> decide +kernel

end Setting

namespace Environment

variable {text name : String} {environment : Variables} {settings : Json} {setting : Setting}
  {path : KeyPath}

theorem valueOf_cases (text : String) : valueOf text = .text text ∨
    (∃ value, valueOf text = .bool value) ∨ ∃ value, valueOf text = .number value := by
  unfold valueOf
  split
  · exact .inr (.inl ⟨_, rfl⟩)
  · split
    · exact .inr (.inl ⟨_, rfl⟩)
    · split
      · exact .inr (.inr ⟨_, rfl⟩)
      · split
        · exact .inr (.inr ⟨_, rfl⟩)
        · exact .inl rfl

theorem overlay_valueOf (text : String) (old : Json) :
    (valueOf text).overlay old = valueOf text := by
  rcases valueOf_cases text with h | ⟨value, h⟩ | ⟨value, h⟩ <;> rw [h] <;> rfl

/-- Puts the value of one variable over settings. -/
def lay (settings : Json) (entry : String × String) : Json :=
  (key? entry.1).elim settings fun key =>
    settings.change (valueOf entry.2).overlay (KeyPath.ofKey key)

theorem onto_layer (environment : Variables) (settings : Json) :
    (layer environment).onto settings = environment.foldl lay settings := by
  induction environment generalizing settings with
  | nil => rfl
  | cons entry environment ih =>
    rw [List.foldl_cons, ← ih]
    cases hkey : key? entry.1 <;> simp [layer, Layer.onto, lay, hkey]

/-- A path that starts with the table goes on to a member of it by name. -/
def LeadsToMember (table : String) : KeyPath → Prop
  | .name _ :: .name _ :: _ => True
  | .name first :: _ => first ≠ table
  | _ => True

instance (table : String) (path : KeyPath) : Decidable (LeadsToMember table path) := by
  unfold LeadsToMember
  split <;> infer_instance

theorem LeadsToMember.exists_name {table : String} (h : LeadsToMember table (.name table :: path)) :
    ∃ name further, path = .name name :: further := by
  cases path with
  | nil => exact absurd rfl h
  | cons step further =>
    cases step with
    | place index => exact absurd rfl h
    | name name => exact ⟨name, further, rfl⟩

/-- There is one variable for the setting at most, and none for its table as a whole or for a place
in it. -/
structure Leafwise (setting : Setting) (environment : Variables) : Prop where
  once : (environment.filterMap fun entry => key? entry.1).count setting.name ≤ 1
  member : ∀ entry ∈ environment, ∀ key ∈ key? entry.1,
    LeadsToMember setting.table (KeyPath.ofKey key)

theorem leafwise_iff : Leafwise setting environment ↔
    (environment.filterMap fun entry => key? entry.1).count setting.name ≤ 1 ∧
      ∀ entry ∈ environment, ∀ key ∈ key? entry.1,
        LeadsToMember setting.table (KeyPath.ofKey key) := by
  constructor
  · intro h
    exact ⟨h.once, h.member⟩
  · rintro ⟨honce, hmember⟩
    exact ⟨honce, hmember⟩

instance (setting : Setting) (environment : Variables) :
    Decidable (Leafwise setting environment) :=
  decidable_of_iff _ leafwise_iff.symm

theorem Leafwise.tail {entry : String × String} (h : Leafwise setting (entry :: environment)) :
    Leafwise setting environment where
  once := by
    have hsublist := (List.sublist_cons_self entry environment).filterMap fun other => key? other.1
    exact Nat.le_trans (hsublist.count_le setting.name) h.once
  member other hother := h.member other (List.mem_cons_of_mem entry hother)

def leadsInto (table : String) (entry : String × String) : Bool :=
  (key? entry.1).any fun key => (KeyPath.ofKey key).head? = some (.name table)

/-- Some variable leads into the table. -/
def leadInto (table : String) (environment : Variables) : Bool :=
  environment.any (leadsInto table)

theorem leadsInto_of_key? {entry : String × String} (h : key? entry.1 = some setting.name) :
    leadsInto setting.table entry = true := by
  simp [leadsInto, h, setting.ofKey_name]

/-- A variable that leads into a table changes a member of it; others leave the table as it is. -/
theorem lay_cases {entry : String × String} {table : String}
    (h : ∀ key ∈ key? entry.1, LeadsToMember table (KeyPath.ofKey key)) (settings : Json) :
    (leadsInto table entry = true ∧ ∃ key name further, key? entry.1 = some key ∧
        KeyPath.ofKey key = .name table :: .name name :: further ∧
        lay settings entry =
          settings.change (valueOf entry.2).overlay (.name table :: .name name :: further)) ∨
      leadsInto table entry = false ∧
        (lay settings entry).members.lookup table = settings.members.lookup table := by
  unfold lay leadsInto
  cases hkey : key? entry.1 with
  | none => exact .inr ⟨rfl, rfl⟩
  | some key =>
    obtain ⟨first, path, hpath⟩ := KeyPath.exists_name_of_ofKey key
    have hleads := h key hkey
    rw [Option.elim_some, Option.any_some, hpath, List.head?_cons]
    rw [hpath] at hleads
    by_cases hfirst : first = table
    · subst hfirst
      obtain ⟨name, further, rfl⟩ := hleads.exists_name
      exact .inl ⟨by simp, key, name, further, rfl, hpath, rfl⟩
    · refine .inr ⟨by simp [hfirst], ?_⟩
      rw [Json.lookup_change, if_neg (Ne.symm hfirst)]

end Environment

namespace Setting

open Environment

variable {setting : Setting} {settings : Json} {environment : Variables} {text : String}
  {path : KeyPath}

/-- What settings give for a setting under variables: a list in place of its table gives nothing
once a variable leads into the table. -/
def given? (setting : Setting) (settings : Json) (environment : Variables) : Option Json :=
  if leadInto setting.table environment &&
      (settings.members.lookup setting.table).any (·.isArray) then none
  else setting.stated? settings

/-- The members of the table, which may be missing. -/
def siblings (setting : Setting) (settings : Json) : List (String × Json) :=
  ((settings.members.lookup setting.table).getD .null).members

theorem given?_of_leadInto (h : leadInto setting.table environment = true) :
    setting.given? settings environment = (setting.siblings settings).lookup setting.key := by
  rw [given?, h, Bool.true_and, siblings, stated?]
  cases settings.members.lookup setting.table with
  | none => rfl
  | some value => cases value <;> rfl

theorem given?_change (f : Json → Json) (name : String) :
    setting.given? (settings.change f (.name setting.table :: .name name :: path)) environment =
      if setting.key = name then
        some (Json.change f path (((setting.siblings settings).lookup name).getD .null))
      else (setting.siblings settings).lookup setting.key := by
  have htable := Json.lookup_change f setting.table setting.table (.name name :: path) settings
  rw [if_pos rfl] at htable
  have hobject : ((settings.change f (.name setting.table :: .name name :: path)).members.lookup
      setting.table).any (·.isArray) = false := by
    rw [htable]
    rfl
  rw [given?, hobject, Bool.and_false, if_neg Bool.false_ne_true, stated?, htable, Option.bind_some]
  exact Json.lookup_updateMember (Json.change f path) name setting.key (setting.siblings settings)

/-- A value that is laid over settings becomes the setting, or gives it parts, or leaves it as it
is. -/
theorem given?_lay {entry : String × String} (h : Leafwise setting (entry :: environment))
    (settings : Json) :
    (key? entry.1 = some setting.name ∧
        setting.given? (lay settings entry) environment = some (valueOf entry.2)) ∨
      key? entry.1 ≠ some setting.name ∧
        ((∃ value, setting.given? (lay settings entry) environment = some value ∧
            value.isCompound = true) ∨
          setting.given? (lay settings entry) environment =
            setting.given? settings (entry :: environment)) := by
  rcases lay_cases (h.member entry List.mem_cons_self) settings with
    ⟨hinto, key, name, further, hkey, hpath, hlay⟩ | ⟨hinto, htable⟩
  · have hlead : leadInto setting.table (entry :: environment) = true := by
      simp [leadInto, hinto]
    rw [hlay, given?_change, given?_of_leadInto hlead, hkey, Ne, Option.some_inj, eq_name_iff,
      hpath]
    by_cases hname : setting.key = name
    · subst hname
      rw [if_pos rfl]
      cases further with
      | nil =>
        rw [Json.change, overlay_valueOf]
        exact .inl ⟨rfl, rfl⟩
      | cons step further =>
        have hparts := Json.isCompound_change (List.cons_ne_nil step further)
        exact .inr ⟨by simp, .inl ⟨_, rfl, hparts _ _⟩⟩
    · rw [if_neg hname]
      exact .inr ⟨by simp [Ne.symm hname], .inr rfl⟩
  · right
    constructor
    · intro hkey
      rw [leadsInto_of_key? hkey] at hinto
      cases hinto
    · right
      have hlead : leadInto setting.table (entry :: environment) =
          leadInto setting.table environment := by
        rw [leadInto, List.any_cons, hinto, Bool.false_or, leadInto]
      rw [given?, given?, stated?, stated?, htable, hlead]

theorem text?_cons {entry : String × String} : setting.text? (entry :: environment) =
    if key? entry.1 = some setting.name then some entry.2 else setting.text? environment := by
  by_cases hkey : key? entry.1 = some setting.name
  · rw [if_pos hkey, text?, List.find?_cons_of_pos (by simpa using hkey)]
    rfl
  · rw [if_neg hkey, text?, List.find?_cons_of_neg (by simpa using hkey)]
    rfl

/-- The variable of a setting comes once. -/
theorem text?_eq_none {entry : String × String}
    (h : Leafwise setting (entry :: environment)) (hkey : key? entry.1 = some setting.name) :
    setting.text? environment = none := by
  have honce := h.once
  simp only [List.filterMap_cons, hkey, List.count_cons_self] at honce
  have hnone : setting.name ∉ environment.filterMap fun other => key? other.1 :=
    List.count_eq_zero.mp (by omega)
  rw [text?, Option.map_eq_none_iff, List.find?_eq_none]
  intro other hother hsame
  exact hnone (List.mem_filterMap.mpr ⟨other, hother, by simpa using hsame⟩)

/-- What variables leave of a setting: the value of its own variable, or else what was given. -/
theorem stated?_foldl (h : Leafwise setting environment) (settings : Json) :
    (∃ value, setting.stated? (environment.foldl lay settings) = some value ∧
        value.isCompound = true) ∨
      setting.stated? (environment.foldl lay settings) =
        ((setting.text? environment).map valueOf).or (setting.given? settings environment) := by
  induction environment generalizing settings with
  | nil => exact .inr rfl
  | cons entry environment ih =>
    rw [List.foldl_cons, text?_cons]
    rcases ih h.tail (lay settings entry) with hparts | hlaid
    · exact .inl hparts
    · rw [hlaid]
      rcases given?_lay h settings with ⟨hkey, hgiven⟩ | ⟨hkey, ⟨value, hgiven, hparts⟩ | hgiven⟩
      · right
        rw [text?_eq_none h hkey, if_pos hkey, hgiven]
        rfl
      · rw [if_neg hkey, hgiven]
        cases setting.text? environment with
        | none => exact .inl ⟨value, rfl, hparts⟩
        | some text => exact .inr rfl
      · right
        rw [if_neg hkey, hgiven]

/-- The variable of the setting gives its text, in whatever case its name is written. -/
theorem text?_of_lowercase (h : Leafwise setting environment) {entry : String × String}
    (hentry : entry ∈ environment) (hname : Text.lowercase entry.1 = setting.variableName) :
    setting.text? environment = some entry.2 := by
  have hkey := key?_of_lowercase hname
  induction environment with
  | nil => cases hentry
  | cons first environment ih =>
    rw [text?_cons]
    rcases List.mem_cons.mp hentry with rfl | hlater
    · rw [if_pos hkey]
    · have hlast := ih h.tail hlater
      by_cases hfirst : key? first.1 = some setting.name
      · rw [text?_eq_none h hfirst] at hlast
        cases hlast
      · rw [if_neg hfirst, hlast]

/-! ## What is read from settings -/

open Json Decoder

theorem eq_of_text {value : Json} {result : String}
    (h : Decoder.text (draft value) = .ok result) : value = .text result := by
  cases value with
  | text written => rw [Except.ok.inj h]
  | _ => cases h

theorem eq_of_natural {value : Json} {result : Nat}
    (h : Decoder.natural (draft value) = .ok result) : value = .number (.whole result) := by
  cases value with
  | number written =>
    cases written with
    | whole whole =>
      cases whole with
      | ofNat natural =>
        rw [← Except.ok.inj h]
        rfl
      | negSucc _ => cases h
    | other _ => cases h
  | _ => cases h

theorem eq_of_optional_text {value : Json} {result : Option String}
    (h : Decoder.optional .text (draft value) = .ok result) : value = .ofOption result := by
  cases value with
  | null =>
    rw [← Except.ok.inj h]
    rfl
  | text written =>
    rw [← Except.ok.inj h]
    rfl
  | _ => cases h

theorem told_tables {configuration : Configuration}
    (h : Configuration.decoder (draft settings) = .ok configuration) :
    ResolverSettings.decoder.Told {} configuration.resolver (settings.members.lookup "resolver") ∧
      SourceSettings.decoder.Told {} configuration.sources (settings.members.lookup "sources") ∧
      CompatibilityTables.decoder.Told .standard configuration.tables
        (settings.members.lookup "tables") := by
  cases settings with
  | object members =>
    have hread : Decoder.record _ _ (draft (.object members)) = .ok configuration := h
    refine ⟨
      told_of_record (?_ : Owns _ _ 0 ResolverSettings.decoder Configuration.resolver) hread,
      told_of_record (?_ : Owns _ _ 1 SourceSettings.decoder Configuration.sources) hread,
      told_of_record (?_ : Owns _ _ 2 CompatibilityTables.decoder Configuration.tables) hread⟩
    all_goals exact owns_of rfl (fun _ _ => rfl) (by simp)
  | _ => cases h

theorem told_resolver {value : Json} {resolver : ResolverSettings}
    (h : ResolverSettings.decoder (draft value) = .ok resolver) :
    Decoder.natural.Told 120 resolver.requestDelaySeconds
        (value.part? "request_delay_seconds" 0) ∧
      Decoder.natural.Told 64 resolver.maxCachedRuntimes
        (value.part? "max_cached_runtimes" 1) := by
  have hread : Decoder.record _ _ (draft value) = .ok resolver := h
  refine ⟨
    told_of_record (?_ : Owns _ _ 0 .natural ResolverSettings.requestDelaySeconds) hread,
    told_of_record (?_ : Owns _ _ 1 .natural ResolverSettings.maxCachedRuntimes) hread⟩
  all_goals exact owns_of rfl (fun _ _ => rfl) (by simp)

theorem told_sources {value : Json} {sources : SourceSettings}
    (h : SourceSettings.decoder (draft value) = .ok sources) :
    (Decoder.optional .text).Told none sources.mirrorDir (value.part? "mirror_dir" 0) ∧
      (Decoder.optional .text).Told none sources.installDir (value.part? "install_dir" 1) ∧
      Decoder.text.Told "lib/features/generated-features.json" sources.installedCatalog
        (value.part? "installed_catalog" 2) := by
  have hread : Decoder.record _ _ (draft value) = .ok sources := h
  refine ⟨
    told_of_record (?_ : Owns _ _ 0 (.optional .text) SourceSettings.mirrorDir) hread,
    told_of_record (?_ : Owns _ _ 1 (.optional .text) SourceSettings.installDir) hread,
    told_of_record (?_ : Owns _ _ 2 .text SourceSettings.installedCatalog) hread⟩
  all_goals exact owns_of rfl (fun _ _ => rfl) (by simp)

theorem told_namespace {value : Json} {tables : CompatibilityTables}
    (h : CompatibilityTables.decoder (draft value) = .ok tables) :
    Decoder.text.Told Name.versionlessNamespace tables.versionlessNamespace
      (value.part? "versionless_namespace" 2) := by
  have hread : Decoder.record _ _ (draft value) = .ok tables := h
  refine told_of_record (?_ : Owns _ _ 2 .text CompatibilityTables.versionlessNamespace) hread
  exact owns_of rfl (fun _ _ => rfl) (by simp)

/-- A configuration has what its settings state, and its defaults for the others. -/
theorem get_eq {configuration : Configuration}
    (h : Configuration.decoder (draft settings) = .ok configuration) (setting : Setting) :
    setting.get configuration = (setting.stated? settings).getD (setting.get {}) := by
  obtain ⟨hresolver, hsources, htables⟩ := told_tables h
  cases setting with
  | requestDelaySeconds =>
    have htold := hresolver.bind fun _ _ hread => (told_resolver hread).1
    exact htold.eq_getD fun _ _ => eq_of_natural
  | maxCachedRuntimes =>
    have htold := hresolver.bind fun _ _ hread => (told_resolver hread).2
    exact htold.eq_getD fun _ _ => eq_of_natural
  | mirrorDir =>
    have htold := hsources.bind fun _ _ hread => (told_sources hread).1
    exact htold.eq_getD fun _ _ => eq_of_optional_text
  | installDir =>
    have htold := hsources.bind fun _ _ hread => (told_sources hread).2.1
    exact htold.eq_getD fun _ _ => eq_of_optional_text
  | installedCatalog =>
    have htold := hsources.bind fun _ _ hread => (told_sources hread).2.2
    exact htold.eq_getD fun _ _ => eq_of_text
  | versionlessNamespace =>
    have htold := htables.bind fun _ _ hread => told_namespace hread
    exact htold.eq_getD fun _ _ => eq_of_text

theorem isCompound_get (setting : Setting) (configuration : Configuration) :
    (setting.get configuration).isCompound = false := by
  cases setting with
  | mirrorDir =>
    cases hpath : configuration.sources.mirrorDir <;> simp [get, hpath, ofOption, isCompound]
  | installDir =>
    cases hpath : configuration.sources.installDir <;> simp [get, hpath, ofOption, isCompound]
  | _ => rfl

/-- Paths and namespaces are texts, as far as they are there. -/
theorem get_of_isText (h : setting.isText = true) (configuration : Configuration) :
    ∃ written, setting.get configuration = .ofOption written := by
  cases setting with
  | requestDelaySeconds => cases h
  | maxCachedRuntimes => cases h
  | mirrorDir => exact ⟨_, rfl⟩
  | installDir => exact ⟨_, rfl⟩
  | installedCatalog => exact ⟨some _, rfl⟩
  | versionlessNamespace => exact ⟨some _, rfl⟩

end Setting

end FeatureCheck
