import FeatureCheck.Problem
import FeatureCheck.Proofs.Configuration.Settings

/-!
# What a loaded configuration holds

Of members with one key a file keeps the last, so what it gives by itself is what is written in it
(`Setting.given?_alone`). Over that come the variables: `Configuration.load_settings`.
-/

namespace FeatureCheck

set_option autoImplicit false

namespace Json

variable {value : Json} {items : List Json} {members : List (String × Json)}

/-- No object in the value has two members with one key. -/
def IsSetting (value : Json) : Prop :=
  ∃ written : Json, value = written.asSetting

theorem distinct_cons (member : String × Json) (members : List (String × Json)) :
    distinct (member :: members) =
      if (distinct members).any fun other => other.1 = member.1 then distinct members
      else member :: distinct members :=
  rfl

theorem nodup_distinct (members : List (String × Json)) :
    ((distinct members).map Prod.fst).Nodup := by
  induction members with
  | nil => exact List.nodup_nil
  | cons member members ih =>
    rw [distinct_cons]
    split
    · exact ih
    · rename_i hfresh
      rw [List.map_cons, List.nodup_cons]
      refine ⟨?_, ih⟩
      intro hmem
      obtain ⟨other, hother, hkey⟩ := List.mem_map.mp hmem
      exact hfresh (List.any_eq_true.mpr ⟨other, hother, decide_eq_true hkey⟩)

theorem mem_of_mem_distinct {member : String × Json} (h : member ∈ distinct members) :
    member ∈ members := by
  induction members with
  | nil => exact h
  | cons first members ih =>
    rw [distinct_cons] at h
    split at h
    · exact List.mem_cons_of_mem first (ih h)
    · rcases List.mem_cons.mp h with rfl | hmem
      · exact List.mem_cons_self
      · exact List.mem_cons_of_mem first (ih hmem)

theorem exists_of_mem_asMembers {member : String × Json} (h : member ∈ asMembers members) :
    member.2.IsSetting := by
  induction members with
  | nil => cases h
  | cons first members ih =>
    obtain ⟨key, value⟩ := first
    rw [asMembers] at h
    rcases List.mem_cons.mp h with rfl | hmem
    · exact ⟨value, rfl⟩
    · exact ih hmem

/-- Keys differ in an object, and its values are settings again. -/
theorem IsSetting.object (h : (Json.object members).IsSetting) :
    (members.map Prod.fst).Nodup ∧ ∀ member ∈ members, member.2.IsSetting := by
  obtain ⟨written, hwritten⟩ := h
  cases written with
  | object others =>
    rw [asSetting, Json.object.injEq] at hwritten
    subst hwritten
    exact ⟨nodup_distinct _, fun member hmember =>
      exists_of_mem_asMembers (mem_of_mem_distinct hmember)⟩
  | _ => simp [asSetting] at hwritten

theorem overlay_of_not_isObject (h : ∀ members, value ≠ .object members) (old : Json) :
    value.overlay old = value := by
  cases value with
  | object members => exact absurd rfl (h members)
  | _ => rfl

/-- A value over nothing has the parts that it had, laid over nothing too if it is an object. -/
theorem part?_overlay_null (h : value.IsSetting) (name : String) (place : Nat) :
    (value.overlay .null).part? name place = value.part? name place ∨
      (value.overlay .null).part? name place =
        (value.part? name place).map fun part => part.overlay .null := by
  cases value with
  | object members =>
    right
    rw [overlay, part?, lookup_overlayMembers h.object.1, part?]
    exact Option.or_none
  | _ => exact .inl rfl

end Json

namespace Setting

open Environment

variable {settings : Json} {setting : Setting} {members : List (String × Json)}

/-- No key of a file leads into the table by a dot or a bracket. -/
def NamesTable (file : Json) (table : String) : Prop :=
  ∀ member ∈ file.members,
    (KeyPath.ofKey member.1).head? = some (.name table) → (KeyPath.ofKey member.1).tail = []

instance (file : Json) (table : String) : Decidable (NamesTable file table) := by
  unfold NamesTable
  infer_instance

theorem layered_eq_foldl (file : Json) (environment : Variables) :
    Configuration.layered file environment =
      environment.foldl lay (Configuration.layered file []) := by
  rw [Configuration.layered, onto_layer]
  rfl

theorem lookup_layered_alone (hfile : (Json.object members).IsSetting)
    (hwhole : NamesTable (.object members) setting.table) :
    (Configuration.layered (.object members) []).members.lookup setting.table =
      (members.lookup setting.table).map fun value => value.overlay .null := by
  have hpaths : ∀ member ∈ members, ∀ path,
      KeyPath.ofKey member.1 = .name setting.table :: path → path = [] := by
    intro member hmember path hpath
    have htail := hwhole member hmember
    rw [hpath] at htail
    exact htail rfl
  have hlaid := Layer.lookup_onto_ofObject setting.ofKey_table hfile.object.1 hpaths (.object [])
  rw [Json.members, List.lookup_nil, Option.or_none] at hlaid
  exact hlaid

/-- By itself a file states what is written in it, or a value with parts. -/
theorem stated?_alone (hfile : (Json.object members).IsSetting)
    (hwhole : NamesTable (.object members) setting.table) :
    (∃ value, setting.stated? (Configuration.layered (.object members) []) = some value ∧
        value.isCompound = true) ∨
      setting.stated? (Configuration.layered (.object members) []) =
        setting.stated? (.object members) := by
  unfold stated?
  rw [lookup_layered_alone hfile hwhole, Json.members]
  cases hlookup : members.lookup setting.table with
  | none => exact .inr rfl
  | some table =>
    have hsetting : table.IsSetting := by
      obtain ⟨before, after, hmembers, -⟩ := List.lookup_eq_some_iff.mp hlookup
      exact hfile.object.2 (setting.table, table) (by simp [hmembers])
    rw [Option.map_some, Option.bind_some, Option.bind_some]
    rcases Json.part?_overlay_null hsetting setting.key setting.place with hsame | hlaid
    · exact .inr hsame
    · rw [hlaid]
      cases hpart : table.part? setting.key setting.place with
      | none => exact .inr rfl
      | some part =>
        rw [Option.map_some]
        by_cases hobject : ∃ inner, part = .object inner
        · obtain ⟨inner, rfl⟩ := hobject
          exact .inl ⟨_, rfl, rfl⟩
        · right
          rw [Json.overlay_of_not_isObject fun inner heq => hobject ⟨inner, heq⟩]

/-- Under variables too it gives what is written in it, or a value with parts. -/
theorem given?_alone (hfile : (Json.object members).IsSetting)
    (hwhole : NamesTable (.object members) setting.table) (environment : Variables) :
    (∃ value, setting.given? (Configuration.layered (.object members) []) environment = some value ∧
        value.isCompound = true) ∨
      setting.given? (Configuration.layered (.object members) []) environment =
        setting.given? (.object members) environment := by
  have hlist : ((Configuration.layered (.object members) []).members.lookup setting.table).any
      (·.isArray) = (members.lookup setting.table).any (·.isArray) := by
    rw [lookup_layered_alone hfile hwhole]
    cases members.lookup setting.table with
    | none => rfl
    | some value => cases value <;> rfl
  unfold given?
  rw [hlist, Json.members]
  split
  · exact .inr rfl
  · exact stated?_alone hfile hwhole

end Setting

namespace Configuration

open Environment

variable {files : Files} {path : Option String} {environment : Variables} {file : Json}
  {configuration : Configuration} {setting : Setting}

theorem exists_of_fileSettings (h : fileSettings files path = .ok file) :
    ∃ members, file = .object members ∧ file.IsSetting := by
  unfold fileSettings at h
  split at h
  · split at h
    · rename_i format content _ _ settings hread
      obtain rfl := Except.ok.inj h
      rw [SettingsFormat.read?, Option.filter_eq_some_iff] at hread
      obtain ⟨hparsed, hobject⟩ := hread
      obtain ⟨written, -, hwritten⟩ := Option.map_eq_some_iff.mp hparsed
      cases settings with
      | object members => exact ⟨members, rfl, written, hwritten.symm⟩
      | _ => cases hobject
    · cases h
  · obtain rfl := Except.ok.inj h
    exact ⟨[], rfl, .object [], rfl⟩
  · cases h

theorem decoder_of_load (hfile : fileSettings files path = .ok file)
    (h : load files path environment = .ok configuration) :
    decoder (Json.draft (layered file environment)) = .ok configuration := by
  rw [load, hfile] at h
  change ofSettings (layered file environment) = .ok configuration at h
  unfold ofSettings at h
  cases hread : decoder (Json.draft (layered file environment)) with
  | error fault =>
    rw [hread] at h
    cases h
  | ok read =>
    rw [hread] at h
    rw [Except.ok.inj h]

theorem exists_file_of_load (h : load files path environment = .ok configuration) :
    ∃ file, fileSettings files path = .ok file := by
  cases hfile : fileSettings files path with
  | error problem =>
    rw [load, hfile] at h
    cases h
  | ok file => exact ⟨file, rfl⟩

/-- What is loaded is never a value with parts, so the variable or the file gave what it is. -/
theorem get_of_load (hfile : fileSettings files path = .ok file)
    (h : load files path environment = .ok configuration) (hleaf : Leafwise setting environment) :
    setting.get configuration =
      (((setting.text? environment).map valueOf).or
        (setting.given? (layered file []) environment)).getD (setting.get {}) := by
  have hget := Setting.get_eq (decoder_of_load hfile h) setting
  rw [Setting.layered_eq_foldl] at hget
  rcases Setting.stated?_foldl hleaf (layered file []) with ⟨value, hvalue, hparts⟩ | hstated
  · rw [hvalue, Option.getD_some] at hget
    rw [← hget, setting.isCompound_get] at hparts
    cases hparts
  · rw [hget, hstated]

theorem get_of_load_whole (hfile : fileSettings files path = .ok file)
    (h : load files path environment = .ok configuration) (hleaf : Leafwise setting environment)
    (hwhole : Setting.NamesTable file setting.table) :
    setting.get configuration =
      (((setting.text? environment).map valueOf).or (setting.given? file environment)).getD
        (setting.get {}) := by
  have hget := get_of_load hfile h hleaf
  obtain ⟨members, rfl, hsetting⟩ := exists_of_fileSettings hfile
  cases htext : setting.text? environment with
  | some text =>
    rw [htext] at hget
    exact hget
  | none =>
    rw [htext, Option.map_none, Option.none_or] at hget
    rw [Option.map_none, Option.none_or]
    rcases Setting.given?_alone hsetting hwhole environment with ⟨value, hvalue, hparts⟩ | hgiven
    · rw [hvalue, Option.getD_some] at hget
      rw [← hget, setting.isCompound_get] at hparts
      cases hparts
    · rw [hget, hgiven]

/-- A variable gives its setting, and the text of it as it stands if the setting is a text. -/
theorem get_of_lowercase (hfile : fileSettings files path = .ok file)
    (h : load files path environment = .ok configuration) (hleaf : Leafwise setting environment)
    {entry : String × String} (hentry : entry ∈ environment)
    (hname : Text.lowercase entry.1 = setting.variableName) :
    setting.get configuration = valueOf entry.2 ∧
      (setting.isText = true → setting.get configuration = .text entry.2) := by
  have hget := get_of_load hfile h hleaf
  rw [Setting.text?_of_lowercase hleaf hentry hname, Option.map_some, Option.some_or,
    Option.getD_some] at hget
  refine ⟨hget, fun htext => ?_⟩
  obtain ⟨written, hwritten⟩ := setting.get_of_isText htext configuration
  rcases valueOf_cases entry.2 with hvalue | ⟨value, hvalue⟩ | ⟨value, hvalue⟩
  · rw [hget, hvalue]
  · rw [hget, hvalue] at hwritten
    cases written <;> cases hwritten
  · rw [hget, hvalue] at hwritten
    cases written <;> cases hwritten

/-- What a file gives for a setting is the same under two environments, unless the file has the
table as a list and only one of them leads into it. -/
theorem given?_congr {settings : Json} {other : Variables}
    (h : leadInto setting.table other = leadInto setting.table environment ∨
      (settings.members.lookup setting.table).any (·.isArray) = false) :
    setting.given? settings other = setting.given? settings environment := by
  unfold Setting.given?
  rcases h with hlead | hlist
  · rw [hlead]
  · rw [hlist, Bool.and_false, Bool.and_false]

theorem layer_filter (environment : Variables) :
    layer (environment.filter fun entry => (key? entry.1).isSome) = layer environment := by
  rw [layer, layer, List.filterMap_filter]
  apply List.filterMap_congr
  intro entry _
  cases hkey : key? entry.1 <;> simp [hkey]

/-- Each setting of whatever is loaded is what its variable gives, or else what the file gives, or
else the default, as long as one variable at most is for it and none is for its table as a whole or
a place in it. A path or a namespace is the text of its variable as it stands. A file gives what is
written in it, unless one of its keys leads into the table. Variables for other settings make no
difference to a setting unless the file has the table as a list, and those without the lead make
none at all. -/
theorem load_settings (files : Files) (path : Option String) (environment : Variables)
    (configuration : Configuration) (h : load files path environment = .ok configuration) :
    ∃ file, fileSettings files path = .ok file ∧
      (∀ setting : Setting, Leafwise setting environment →
        setting.get configuration =
            (((setting.text? environment).map valueOf).or
              (setting.given? (layered file []) environment)).getD (setting.get {}) ∧
          (Setting.NamesTable file setting.table → setting.get configuration =
            (((setting.text? environment).map valueOf).or
              (setting.given? file environment)).getD (setting.get {})) ∧
          ∀ entry ∈ environment, Text.lowercase entry.1 = setting.variableName →
            setting.get configuration = valueOf entry.2 ∧
              (setting.isText = true → setting.get configuration = .text entry.2)) ∧
      (∀ other otherwise, load files path other = .ok otherwise →
        ∀ setting : Setting, Leafwise setting environment → Leafwise setting other →
          setting.text? other = setting.text? environment →
          (leadInto setting.table other = leadInto setting.table environment ∨
            ((layered file []).members.lookup setting.table).any (·.isArray) = false) →
          setting.get otherwise = setting.get configuration) ∧
      load files path (environment.filter fun entry => (key? entry.1).isSome) =
        .ok configuration := by
  obtain ⟨file, hfile⟩ := exists_file_of_load h
  refine ⟨file, hfile, ?_, ?_, ?_⟩
  · intro setting hleaf
    exact ⟨get_of_load hfile h hleaf, get_of_load_whole hfile h hleaf,
      fun _ hentry hname => get_of_lowercase hfile h hleaf hentry hname⟩
  · intro other otherwise hother setting hleaf hothers hsame hlist
    rw [get_of_load hfile hother hothers, get_of_load hfile h hleaf, hsame, given?_congr hlist]
  · have hlayered : layered file (environment.filter fun entry => (key? entry.1).isSome) =
        layered file environment := by
      rw [layered, layer_filter, layered]
    rw [load, hfile] at h ⊢
    change ofSettings (layered file _) = .ok configuration
    rw [hlayered]
    exact h

/-- There is one file. -/
def delayFile (content : String) : Files := fun path =>
  if path = "delay.yaml" then .ok (Text.bytesOf content) else .error .notFound

def loadDelay (content : String) (environment : Variables) :
    Except ConfigurationError Configuration :=
  load (delayFile content) (some "delay.yaml") environment

def statedDelay : String := "resolver:\n  request_delay_seconds: 5\n"

/-- The delay stands where a list has it. -/
def listedDelay : String := "resolver: [5]\n"

def cacheVariables : Variables :=
  [("FCOMPAT__RESOLVER__MAX_CACHED_RUNTIMES", "9"), ("HOME", "/root")]

def mirrorVariables : Variables :=
  ("FCOMPAT__SOURCES__MIRROR_DIR", "/m") :: cacheVariables

/-- The mirror and the number of runtimes are those of their variables; the delay, which only a list
has, is the default. -/
theorem load_settings_mirror : ∃ configuration file,
    loadDelay listedDelay mirrorVariables = .ok configuration ∧
      fileSettings (delayFile listedDelay) (some "delay.yaml") = .ok file ∧
      (∀ setting : Setting, Leafwise setting mirrorVariables ∧
        Setting.NamesTable file setting.table) ∧
      configuration.resolver = ⟨120, 9⟩ ∧ configuration.sources.mirrorDir = some "/m" ∧
      Setting.mirrorDir.get configuration = .text "/m" ∧
      Setting.maxCachedRuntimes.get configuration = valueOf "9" ∧
      Setting.requestDelaySeconds.get configuration =
        (Setting.requestDelaySeconds.given? file mirrorVariables).getD (.number (.whole 120)) ∧
      ∀ otherwise, loadDelay listedDelay cacheVariables = .ok otherwise →
        Setting.maxCachedRuntimes.get otherwise = Setting.maxCachedRuntimes.get configuration := by
  have hloads : (loadDelay listedDelay mirrorVariables).toOption.map
      (fun configuration => (configuration.resolver, configuration.sources.mirrorDir)) =
        some (⟨120, 9⟩, some "/m") := by
    decide +kernel
  obtain ⟨configuration, hconfiguration, hparts⟩ := Option.map_eq_some_iff.mp hloads
  obtain ⟨hresolver, hmirror⟩ := Prod.mk.inj hparts
  have hload := toOption_eq_some_iff.mp hconfiguration
  obtain ⟨file, hfile, hsettings, hothers, -⟩ := load_settings _ _ _ _ hload
  have hleaf : ∀ setting : Setting, Leafwise setting mirrorVariables ∧
      Leafwise setting cacheVariables := by
    intro setting
    cases setting <;> decide +kernel
  have hnames : ∀ file ∈ (fileSettings (delayFile listedDelay) (some "delay.yaml")).toOption,
      ∀ table ∈ ["resolver", "sources", "tables"], Setting.NamesTable file table := by
    decide +kernel
  have hwhole : ∀ setting : Setting, Setting.NamesTable file setting.table := by
    intro setting
    apply hnames file (toOption_eq_some_iff.mpr hfile)
    cases setting <;> decide
  refine ⟨configuration, file, hload, hfile, fun setting => ⟨(hleaf setting).1, hwhole setting⟩,
    hresolver, hmirror, ?_, ?_, ?_, ?_⟩
  · obtain ⟨-, -, hvariable⟩ := hsettings .mirrorDir (hleaf _).1
    exact (hvariable _ List.mem_cons_self (by decide +kernel)).2 rfl
  · obtain ⟨-, -, hvariable⟩ := hsettings .maxCachedRuntimes (hleaf _).1
    exact (hvariable _ (List.mem_cons_of_mem _ List.mem_cons_self) (by decide +kernel)).1
  · have hget := (hsettings .requestDelaySeconds (hleaf _).1).2.1 (hwhole _)
    have hnone : Setting.requestDelaySeconds.text? mirrorVariables = none := by decide +kernel
    rw [hnone, Option.map_none, Option.none_or] at hget
    exact hget
  · intro otherwise hother
    have hcache : Setting.maxCachedRuntimes.text? cacheVariables =
        Setting.maxCachedRuntimes.text? mirrorVariables := by decide +kernel
    have hlead : leadInto Setting.maxCachedRuntimes.table cacheVariables =
        leadInto Setting.maxCachedRuntimes.table mirrorVariables := by decide +kernel
    exact hothers cacheVariables otherwise hother .maxCachedRuntimes (hleaf _).1 (hleaf _).2 hcache
      (.inl hlead)

/-- A delay in a list is lost with a variable for the cache, as the number of runtimes is not. In
a table it is lost with a variable for the table or for a place in it. With a variable of its own it
is lost if another one spells its name with a dot. -/
theorem delay_lost :
    ((loadDelay listedDelay []).toOption.map (·.resolver) = some ⟨5, 64⟩ ∧
      (loadDelay listedDelay cacheVariables).toOption.map (·.resolver) = some ⟨120, 9⟩) ∧
    (loadDelay statedDelay (("FCOMPAT__RESOLVER", "x") :: cacheVariables)).toOption.map
      (·.resolver) = some ⟨120, 9⟩ ∧
    (loadDelay statedDelay [("FCOMPAT__RESOLVER[0]", "7")]).toOption.map (·.resolver) =
      some ⟨7, 64⟩ ∧
    (loadDelay "" [("FCOMPAT__RESOLVER__REQUEST_DELAY_SECONDS", "7"),
      ("FCOMPAT__RESOLVER.REQUEST_DELAY_SECONDS", "6")]).toOption.map (·.resolver) =
        some ⟨6, 64⟩ := by
  decide +kernel

end Configuration

end FeatureCheck
