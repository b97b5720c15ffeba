import FeatureCheck.Proofs.Catalog.Construction
import FeatureCheck.Proofs.Names
import FeatureCheck.Validation.Versionless
import Mathlib.Data.List.Perm.Basic

/-!
# What a versionless feature allows

A versionless feature allows the platforms of the features that it may stand for. `Candidate` has
the names of these, and `allowedPlatforms_candidates` says that they are all that counts: not the
order in which they are required, and one more of them never takes a platform away.
-/

namespace FeatureCheck

set_option autoImplicit false

/-! ## Candidates -/

namespace ToleratedRequirement

section Offers

variable (tables : CompatibilityTables) (requirement : ToleratedRequirement)

/-- The required name out of its namespace, without the white space around it. -/
def plainName : String :=
  Text.trim (Name.withoutNamespace requirement.feature tables.versionlessNamespace)

/-- The base of the required name, or the other name that the tables have for it. -/
def HasBase (base : String) : Prop :=
  base = Name.base (requirement.plainName tables) ∨
    tables.alternateFeatureName? (Text.lowercase (Name.base (requirement.plainName tables))) =
      some base

/-- The version of the required name, or one that is tolerated beside it. -/
def HasVersion (version : String) : Prop :=
  Name.version? (requirement.plainName tables) = some version ∨ version ∈ requirement.tolerates

end Offers

end ToleratedRequirement

namespace Feature

/-- A name of a feature that the given one may stand for. -/
inductive Candidate (tables : CompatibilityTables) (feature : Feature) : String → Prop
  | required {name : String} (hrequired : name ∈ feature.requires) :
      Candidate tables feature (Name.withoutNamespace name tables.versionlessNamespace)
  | whole {requirement : ToleratedRequirement} (hrequirement : requirement ∈ feature.tolerated) :
      Candidate tables feature (requirement.plainName tables)
  | version {requirement : ToleratedRequirement} {base version : String}
      (hrequirement : requirement ∈ feature.tolerated) (hbase : requirement.HasBase tables base)
      (hversion : requirement.HasVersion tables version) :
      Candidate tables feature (base ++ "-" ++ Text.trim version)

/-- All that the feature requires, and every version that it tolerates, is there in the other. -/
structure Widens (feature wider : Feature) : Prop where
  requires : feature.requires ⊆ wider.requires
  tolerated : ∀ requirement ∈ feature.tolerated, ∃ other ∈ wider.tolerated,
    other.feature = requirement.feature ∧ requirement.tolerates ⊆ other.tolerates

/-- The other feature lists the same requirements and tolerated versions in another order. -/
structure Reorders (feature other : Feature) : Prop where
  requires : feature.requires.Perm other.requires
  tolerated : ∃ tolerated, feature.tolerated.Perm tolerated ∧
    List.Forall₂ (fun earlier later : ToleratedRequirement =>
      earlier.feature = later.feature ∧ earlier.tolerates.Perm later.tolerates)
      tolerated other.tolerated

/-- The features are found alike and run on the same platforms, whatever they require. -/
structure Alike (feature other : Feature) : Prop where
  keys : feature.keys = other.keys
  isPublic : feature.isPublic = other.isPublic
  platforms : feature.platforms = other.platforms

variable {tables : CompatibilityTables} {feature wider other : Feature} {name : String}

theorem Candidate.widen (h : feature.Candidate tables name) (hwidens : feature.Widens wider) :
    wider.Candidate tables name := by
  cases h with
  | required hrequired => exact .required (hwidens.requires hrequired)
  | @whole requirement hrequirement =>
    obtain ⟨other, hother, hname, -⟩ := hwidens.tolerated requirement hrequirement
    rw [ToleratedRequirement.plainName, ← hname]
    exact .whole hother
  | @version requirement base version hrequirement hbase hversion =>
    obtain ⟨other, hother, hname, htolerates⟩ := hwidens.tolerated requirement hrequirement
    have hplain : other.plainName tables = requirement.plainName tables := by
      rw [ToleratedRequirement.plainName, hname, ToleratedRequirement.plainName]
    refine .version hother ?_ ?_
    · rw [ToleratedRequirement.HasBase, hplain]
      exact hbase
    · rw [ToleratedRequirement.HasVersion, hplain]
      exact Or.imp_right (fun hmem => htolerates hmem) hversion

theorem exists_mem_of_forall₂ {α β : Type} {r : α → β → Prop} {left : List α} {right : List β}
    (h : List.Forall₂ r left right) {a : α} (ha : a ∈ left) : ∃ b ∈ right, r a b := by
  induction h with
  | nil => cases ha
  | @cons head other _ rest hhead _ ih =>
    rcases List.mem_cons.mp ha with rfl | hmem
    · exact ⟨other, List.mem_cons_self, hhead⟩
    · obtain ⟨b, hb, hr⟩ := ih hmem
      exact ⟨b, List.mem_cons_of_mem other hb, hr⟩

theorem Reorders.symm (h : feature.Reorders other) : other.Reorders feature where
  requires := h.requires.symm
  tolerated := by
    obtain ⟨tolerated, hperm, hsame⟩ := h.tolerated
    obtain ⟨middle, hmiddle, hother⟩ := List.perm_comp_forall₂ hperm hsame
    exact ⟨middle, hother.symm, hmiddle.flip.imp fun _ _ heq => ⟨heq.1.symm, heq.2.symm⟩⟩

theorem Reorders.widens (h : feature.Reorders other) : feature.Widens other where
  requires := h.requires.subset
  tolerated requirement hrequirement := by
    obtain ⟨tolerated, hperm, hsame⟩ := h.tolerated
    obtain ⟨later, hlater, hname, htolerates⟩ :=
      exists_mem_of_forall₂ hsame (hperm.subset hrequirement)
    exact ⟨later, hlater, hname.symm, htolerates.subset⟩

end Feature

/-! ## What is looked up -/

namespace Catalog

open Feature

variable {catalog other : Catalog} {tables : CompatibilityTables} {feature changed : Feature}
  {requirement : ToleratedRequirement} {name platform key target : String}

/-- Targets are in lower case but for the versions that are tolerated, and these are trimmed. -/
theorem mem_toleratedTargets_iff : target ∈ toleratedTargets tables requirement ↔
    target = Text.lowercase (requirement.plainName tables) ∨
    ∃ base version, (base = Text.lowercase (Name.base (requirement.plainName tables)) ∨
        tables.alternateFeatureName?
          (Text.lowercase (Name.base (requirement.plainName tables))) = some base) ∧
      ((∃ own, Name.version? (requirement.plainName tables) = some own ∧
          Text.lowercase own = version) ∨ version ∈ requirement.tolerates) ∧
      base ++ "-" ++ Text.trim version = target := by
  have htarget : versionlessTarget tables requirement.feature =
      Text.lowercase (requirement.plainName tables) := rfl
  simp only [toleratedTargets, htarget, Name.base_lowercase, Name.version?_lowercase,
    List.mem_cons, List.mem_flatMap, List.mem_append, List.mem_map, Option.mem_toList,
    Option.map_eq_some_iff]
  refine or_congr_right ⟨?_, ?_⟩
  · rintro ⟨version, hversion, base, hbase, heq⟩
    exact ⟨base, version, hbase, hversion, heq⟩
  · rintro ⟨base, version, hbase, hversion, heq⟩
    exact ⟨version, hversion, base, hbase, heq⟩

theorem exists_base_iff :
    (∃ base, (base = Text.lowercase (Name.base (requirement.plainName tables)) ∨
      tables.alternateFeatureName?
        (Text.lowercase (Name.base (requirement.plainName tables))) = some base) ∧
      Text.lowercase base = key) ↔
    ∃ base, requirement.HasBase tables base ∧ Text.lowercase base = key := by
  simp only [ToleratedRequirement.HasBase, or_and_right, exists_or, exists_eq_left,
    Text.lowercase_lowercase]

theorem exists_version_iff :
    (∃ version, ((∃ own, Name.version? (requirement.plainName tables) = some own ∧
      Text.lowercase own = version) ∨ version ∈ requirement.tolerates) ∧
      Text.lowercase version = key) ↔
    ∃ version, requirement.HasVersion tables version ∧ Text.lowercase version = key := by
  simp only [ToleratedRequirement.HasVersion, or_and_right, exists_or]
  refine or_congr_left ⟨?_, ?_⟩
  · rintro ⟨-, ⟨own, hown, rfl⟩, hkey⟩
    exact ⟨own, hown, (Text.lowercase_lowercase own).symm.trans hkey⟩
  · rintro ⟨own, hown, hkey⟩
    exact ⟨_, ⟨own, hown, rfl⟩, (Text.lowercase_lowercase own).trans hkey⟩

theorem normalize_version_congr {base base' version version' : String}
    (hbase : Text.lowercase base = Text.lowercase base')
    (hversion : Text.lowercase version = Text.lowercase version') :
    Name.normalize (base ++ "-" ++ Text.trim version) =
      Name.normalize (base' ++ "-" ++ Text.trim version') := by
  refine Name.normalize_append_congr hbase ?_
  rw [← Text.trim_lowercase, hversion, Text.trim_lowercase]

/-- A requirement is looked up under the keys of the names that it offers. -/
theorem exists_toleratedTarget_iff :
    (∃ target ∈ toleratedTargets tables requirement, Name.normalize target = key) ↔
      Name.normalize (requirement.plainName tables) = key ∨
      ∃ base version, requirement.HasBase tables base ∧ requirement.HasVersion tables version ∧
        Name.normalize (base ++ "-" ++ Text.trim version) = key := by
  constructor
  · rintro ⟨target, htarget, hkey⟩
    rcases mem_toleratedTargets_iff.mp htarget with
      rfl | ⟨lowered, counted, hlowered, hcounted, rfl⟩
    · exact .inl ((Name.normalize_lowercase _).symm.trans hkey)
    · obtain ⟨base, hbase, hsame⟩ := exists_base_iff.mp ⟨lowered, hlowered, rfl⟩
      obtain ⟨version, hversion, hsame'⟩ := exists_version_iff.mp ⟨counted, hcounted, rfl⟩
      exact .inr ⟨base, version, hbase, hversion,
        (normalize_version_congr hsame hsame').trans hkey⟩
  · rintro (hwhole | ⟨base, version, hbase, hversion, hkey⟩)
    · exact ⟨_, mem_toleratedTargets_iff.mpr (.inl rfl), (Name.normalize_lowercase _).trans hwhole⟩
    · obtain ⟨lowered, hlowered, hsame⟩ := exists_base_iff.mpr ⟨base, hbase, rfl⟩
      obtain ⟨counted, hcounted, hsame'⟩ := exists_version_iff.mpr ⟨version, hversion, rfl⟩
      exact ⟨_, mem_toleratedTargets_iff.mpr (.inr ⟨lowered, counted, hlowered, hcounted, rfl⟩),
        (normalize_version_congr hsame hsame').trans hkey⟩

/-- The candidates are looked up under the keys of the targets. -/
theorem exists_target_iff :
    (∃ target ∈ allowedTargets tables feature, Name.normalize target = key) ↔
      ∃ candidate, feature.Candidate tables candidate ∧ Name.normalize candidate = key := by
  constructor
  · rintro ⟨target, htarget, hkey⟩
    rcases List.mem_append.mp htarget with hplain | htolerated
    · obtain ⟨required, hrequired, rfl⟩ := List.mem_map.mp hplain
      exact ⟨_, .required hrequired, (Name.normalize_normalize _).symm.trans hkey⟩
    · obtain ⟨requirement, hrequirement, htarget⟩ := List.mem_flatMap.mp htolerated
      rcases exists_toleratedTarget_iff.mp ⟨target, htarget, hkey⟩ with hwhole | ⟨base, version,
        hbase, hversion, hoffered⟩
      · exact ⟨_, .whole hrequirement, hwhole⟩
      · exact ⟨_, .version hrequirement hbase hversion, hoffered⟩
  · have hoffers : ∀ requirement ∈ feature.tolerated,
        (∃ target ∈ toleratedTargets tables requirement, Name.normalize target = key) →
          ∃ target ∈ allowedTargets tables feature, Name.normalize target = key := by
      rintro requirement hrequirement ⟨target, htarget, hkey⟩
      exact ⟨target, List.mem_append_right _
        (List.mem_flatMap.mpr ⟨requirement, hrequirement, htarget⟩), hkey⟩
    rintro ⟨candidate, hcandidate, hkey⟩
    cases hcandidate with
    | required hrequired =>
      exact ⟨_, List.mem_append_left _ (List.mem_map_of_mem hrequired),
        (Name.normalize_normalize _).trans hkey⟩
    | whole hrequirement =>
      exact hoffers _ hrequirement (exists_toleratedTarget_iff.mpr (.inl hkey))
    | version hrequirement hbase hversion =>
      exact hoffers _ hrequirement
        (exists_toleratedTarget_iff.mpr (.inr ⟨_, _, hbase, hversion, hkey⟩))

theorem mem_platformsOf_iff : platform ∈ catalog.platformsOf name ↔
    platform ∈ catalog.platforms ∧
      ∃ found, catalog.feature? name = some found ∧ platform ∈ found.platforms := by
  unfold platformsOf
  cases catalog.feature? name with
  | none => simp
  | some found => simp [and_comm]

/-- A feature allows the platforms of the catalog on which some candidate runs. -/
theorem mem_allowedPlatforms_iff (h : catalog.feature? name = some feature) :
    platform ∈ catalog.allowedPlatforms tables name ↔ platform ∈ catalog.platforms ∧
      ∃ candidate found, feature.Candidate tables candidate ∧
        catalog.feature? candidate = some found ∧ platform ∈ found.platforms := by
  rw [allowedPlatforms, h, Option.elim_some, NameSet.mem_unionAll]
  simp only [List.mem_map, exists_exists_and_eq_and, mem_platformsOf_iff]
  constructor
  · rintro ⟨target, htarget, hplatform, found, hfound, hruns⟩
    obtain ⟨candidate, hcandidate, hkey⟩ := exists_target_iff.mp ⟨target, htarget, rfl⟩
    exact ⟨hplatform, candidate, found, hcandidate, (feature?_congr hkey).trans hfound, hruns⟩
  · rintro ⟨hplatform, candidate, found, hcandidate, hfound, hruns⟩
    obtain ⟨target, htarget, hkey⟩ := exists_target_iff.mpr ⟨candidate, hcandidate, rfl⟩
    exact ⟨target, htarget, hplatform, found, (feature?_congr hkey).trans hfound, hruns⟩

theorem allowedPlatforms_of_unknown (h : catalog.feature? name = none) :
    catalog.allowedPlatforms tables name = ∅ := by
  rw [allowedPlatforms, h, Option.elim_none]

theorem allowedPlatforms_congr {other : String}
    (h : catalog.feature? name = catalog.feature? other) :
    catalog.allowedPlatforms tables name = catalog.allowedPlatforms tables other := by
  rw [allowedPlatforms, h, allowedPlatforms]

theorem mem_platforms_of_mem_allowedPlatforms
    (h : platform ∈ catalog.allowedPlatforms tables name) : platform ∈ catalog.platforms := by
  cases hfeature : catalog.feature? name with
  | none =>
    rw [allowedPlatforms_of_unknown hfeature] at h
    exact absurd h Std.ExtTreeSet.not_mem_empty
  | some feature => exact ((mem_allowedPlatforms_iff hfeature).mp h).1

/-! ## Catalogs that differ in what their features require -/

section Alike

variable {features others : List Feature}

theorem backedPlatforms_eq_of_alike (h : List.Forall₂ Alike features others) :
    backedPlatforms features = backedPlatforms others := by
  have hbacking : (features.filter (!·.isPublic)).map (·.platforms) =
      (others.filter (!·.isPublic)).map (·.platforms) := by
    induction h with
    | nil => rfl
    | @cons feature other _ _ hhead _ ih =>
      cases hpublic : other.isPublic with
      | true => simpa [hhead.isPublic, hpublic] using ih
      | false => simpa [hhead.isPublic, hpublic, hhead.platforms] using ih
  rw [backedPlatforms, hbacking, backedPlatforms]

theorem find?_rel_of_alike (h : List.Forall₂ Alike features others) :
    Option.Rel Alike (features.find? fun feature => feature.keys.contains key)
      (others.find? fun feature => feature.keys.contains key) := by
  induction h with
  | nil => exact .none
  | @cons feature other _ _ hhead _ ih =>
    rw [List.find?_cons, List.find?_cons, hhead.keys]
    split
    · exact .some hhead
    · exact ih

/-- In alike catalogs a wider feature allows at least as much. -/
theorem mem_allowedPlatforms_of_widens (h : List.Forall₂ Alike catalog.features other.features)
    (hfeature : catalog.feature? name = some feature)
    (hchanged : other.feature? name = some changed) (hwidens : feature.Widens changed)
    (hplatform : platform ∈ catalog.allowedPlatforms tables name) :
    platform ∈ other.allowedPlatforms tables name := by
  obtain ⟨hbacked, candidate, found, hcandidate, hfound, hruns⟩ :=
    (mem_allowedPlatforms_iff hfeature).mp hplatform
  have hplatforms : catalog.platforms = other.platforms := by
    rw [catalog.platforms_eq, other.platforms_eq, backedPlatforms_eq_of_alike h]
  have hrel : Option.Rel Alike (catalog.feature? candidate) (other.feature? candidate) := by
    rw [feature?_eq_find?, feature?_eq_find?]
    exact find?_rel_of_alike h
  rw [hfound] at hrel
  cases hother : other.feature? candidate with
  | none =>
    rw [hother] at hrel
    cases hrel
  | some last =>
    rw [hother] at hrel
    obtain ⟨halike⟩ := hrel
    refine (mem_allowedPlatforms_iff hchanged).mpr
      ⟨hplatforms ▸ hbacked, candidate, last, hcandidate.widen hwidens, hother, ?_⟩
    exact halike.platforms ▸ hruns

/-- In alike catalogs the order of what a feature requires does not count. -/
theorem allowedPlatforms_eq_of_reorders (h : List.Forall₂ Alike catalog.features other.features)
    (hfeature : catalog.feature? name = some feature)
    (hchanged : other.feature? name = some changed) (hreorders : feature.Reorders changed) :
    other.allowedPlatforms tables name = catalog.allowedPlatforms tables name := by
  have hback : List.Forall₂ Alike other.features catalog.features :=
    h.flip.imp fun _ _ halike =>
      ⟨halike.keys.symm, halike.isPublic.symm, halike.platforms.symm⟩
  refine Std.ExtTreeSet.ext_mem fun platform => ⟨fun hplatform => ?_, fun hplatform => ?_⟩
  · exact mem_allowedPlatforms_of_widens hback hchanged hfeature hreorders.symm.widens hplatform
  · exact mem_allowedPlatforms_of_widens h hfeature hchanged hreorders.widens hplatform

end Alike

/-- An unknown feature allows nothing. Another allows the platforms of private features on which a
feature found under one of its candidates runs; in whatever order it requires them, and at least
these if it requires or tolerates more. -/
theorem allowedPlatforms_candidates (catalog : Catalog) (tables : CompatibilityTables)
    (name : String) :
    (catalog.feature? name = none → catalog.allowedPlatforms tables name = ∅) ∧
    (∀ feature, catalog.feature? name = some feature → ∀ platform,
      platform ∈ catalog.allowedPlatforms tables name ↔
        (∃ backing ∈ catalog.features,
          backing.isPublic = false ∧ platform ∈ backing.platforms) ∧
        ∃ candidate found, feature.Candidate tables candidate ∧
          catalog.feature? candidate = some found ∧ platform ∈ found.platforms) ∧
    (∀ platform ∈ catalog.allowedPlatforms tables name, platform ∈ catalog.platforms) ∧
    ∀ (other : Catalog) (feature changed : Feature),
      List.Forall₂ Alike catalog.features other.features →
      catalog.feature? name = some feature → other.feature? name = some changed →
      (feature.Reorders changed →
        other.allowedPlatforms tables name = catalog.allowedPlatforms tables name) ∧
      (feature.Widens changed → ∀ platform ∈ catalog.allowedPlatforms tables name,
        platform ∈ other.allowedPlatforms tables name) := by
  refine ⟨allowedPlatforms_of_unknown, fun feature hfeature platform => ?_,
    fun _ => mem_platforms_of_mem_allowedPlatforms, ?_⟩
  · rw [mem_allowedPlatforms_iff hfeature, mem_platforms_iff]
  · intro other feature changed halike hfeature hchanged
    exact ⟨allowedPlatforms_eq_of_reorders halike hfeature hchanged,
      fun hwidens _ => mem_allowedPlatforms_of_widens halike hfeature hchanged hwidens⟩

/-- A versionless feature that stands for version 4.0 of its name and for those it tolerates. -/
def anyFaces (tolerates : List String) : Feature :=
  (Feature.named "faces" .isPublic).withTolerated
    { feature := "io.openliberty.internal.versionless.Faces-4.0 ", tolerates }

def versionedFaces : List Feature := [
  (Feature.named "jsf-2.3" .isPublic).withPlatforms ["javaee-8.0"],
  (Feature.named "faces-4.0" .isPublic).withPlatforms ["jakartaee-10.0"],
  (Feature.named "eeCompatible-1.0" .isPrivate).withPlatforms ["javaee-8.0", "jakartaee-10.0"]]

/-- To tolerate the version of an older name adds the platforms of that name. -/
theorem allowedPlatforms_anyFaces :
    let narrow : Catalog := .ofFeatures (anyFaces [] :: versionedFaces)
    let wide : Catalog := .ofFeatures (anyFaces ["2.3 "] :: versionedFaces)
    "javaee-8.0" ∉ narrow.allowedPlatforms .standard "Faces" ∧
    "javaee-8.0" ∈ wide.allowedPlatforms .standard "Faces" ∧
    ∀ platform ∈ narrow.allowedPlatforms .standard "Faces",
      platform ∈ wide.allowedPlatforms .standard "Faces" := by
  intro narrow wide
  have hnarrow : narrow.feature? "Faces" = some (anyFaces []) := by decide +kernel
  have hwide : wide.feature? "Faces" = some (anyFaces ["2.3 "]) := by decide +kernel
  refine ⟨by decide +kernel, ?_, ?_⟩
  · have hjsf : (anyFaces ["2.3 "]).Candidate .standard ("jsf" ++ "-" ++ Text.trim "2.3 ") :=
      .version List.mem_cons_self (.inr (by decide +kernel)) (.inr List.mem_cons_self)
    have hfound : wide.feature? ("jsf" ++ "-" ++ Text.trim "2.3 ") =
        some ((Feature.named "jsf-2.3" .isPublic).withPlatforms ["javaee-8.0"]) := by
      decide +kernel
    have hbacked : ∃ backing ∈ wide.features,
        backing.isPublic = false ∧ "javaee-8.0" ∈ backing.platforms := by decide +kernel
    exact ((allowedPlatforms_candidates wide .standard "Faces").2.1 _ hwide _).mpr
      ⟨hbacked, _, _, hjsf, hfound, by decide +kernel⟩
  · have hfeatures : narrow.features = anyFaces [] :: versionedFaces ∧
        wide.features = anyFaces ["2.3 "] :: versionedFaces := by decide +kernel
    have halike : List.Forall₂ Alike narrow.features wide.features := by
      rw [hfeatures.1, hfeatures.2]
      exact .cons ⟨rfl, rfl, rfl⟩ (List.forall₂_same.mpr fun _ _ => ⟨rfl, rfl, rfl⟩)
    have hwidens : (anyFaces []).Widens (anyFaces ["2.3 "]) :=
      ⟨by decide, by decide⟩
    exact ((allowedPlatforms_candidates narrow .standard "Faces").2.2.2 wide _ _ halike hnarrow
      hwide).2 hwidens

end Catalog

end FeatureCheck
