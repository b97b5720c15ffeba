import FeatureCheck.Engine
import FeatureCheck.Proofs.Names
import FeatureCheck.Proofs.Resolver.Soundness
import FeatureCheck.Proofs.Validation.AllowedPlatforms
import FeatureCheck.Proofs.Validation.VersionlessRules

/-!
# Listed platforms and accepted platforms

The platforms that are listed for a name, beside those with which a check of the name alone is
content. For a versionless feature a check goes by what its requirements allow, whatever name it is
declared by. The list goes by the text: a name with a hyphen, which can only be the symbolic name of
such a feature, lists the platforms that the feature has itself. `listsAccepted_iff` says when the
two are the same.
-/

namespace FeatureCheck

set_option autoImplicit false

/-! ## Names with a hyphen -/

namespace Text

theorem mem_dropWhile_of_mem {p : Char → Bool} {c : Char} {cs : List Char} (h : c ∈ cs)
    (hc : p c = false) : c ∈ cs.dropWhile p := by
  induction cs with
  | nil => simp at h
  | cons d cs ih =>
    cases hd : p d with
    | false => rwa [List.dropWhile_cons_of_neg (by simp [hd])]
    | true =>
      rw [List.dropWhile_cons_of_pos hd]
      rcases List.mem_cons.mp h with rfl | hmem
      · simp [hc] at hd
      · exact ih hmem

theorem mem_trimChars_of_mem {c : Char} {cs : List Char} (h : c ∈ cs) (hc : isSpace c = false) :
    c ∈ trimChars cs := by
  rw [trimChars, dropTail, List.mem_reverse]
  exact mem_dropWhile_of_mem (List.mem_reverse.mpr (mem_dropWhile_of_mem h hc)) hc

end Text

theorem Name.isVersioned_normalize {name : String} (h : isVersioned name) :
    isVersioned (normalize name) := by
  have hhyphen : '-' ∈ name.toList := by simpa [isVersioned] using h
  have htrimmed : '-' ∈ (Text.trim name).toList := by
    rw [Text.trim, String.toList_ofList]
    exact Text.mem_trimChars_of_mem hhyphen (by decide)
  have hlowered : '-' ∈ (normalize name).toList := Text.hyphen_mem_lowercase_iff.mpr htrimmed
  simpa [isVersioned] using hlowered

theorem Feature.not_isVersioned_key {feature : Feature} (h : feature.isVersionless) :
    ¬ Name.isVersioned feature.key := by
  have hnone : '-' ∉ feature.name.toList := by
    rw [isVersionless, version?, Option.isNone_iff_eq_none, ← Option.not_isSome_iff_eq_none,
      Name.isSome_version?_iff] at h
    exact h
  have hkey : '-' ∉ feature.key.toList := by
    rw [key, Name.normalize, feature.trim_name, Text.hyphen_mem_lowercase_iff]
    exact hnone
  simpa [Name.isVersioned] using hkey

/-! ## What a name lists -/

namespace Catalog

variable {catalog : Catalog} {tables : CompatibilityTables} {name platform : String}
  {feature : Feature}

theorem declaredPlatforms_alone (hplatform : platform ∈ catalog.platforms) {key : String} :
    key ∈ declaredPlatforms [platform] ↔ key = platform ∧ platform.isEmpty = false := by
  rw [mem_declaredPlatforms_iff]
  simp only [List.mem_singleton, exists_eq_left, normalize_of_mem_platforms hplatform]
  constructor
  · rintro ⟨hstated, rfl⟩
    exact ⟨rfl, hstated⟩
  · rintro ⟨rfl, hstated⟩
    exact ⟨hstated, rfl⟩

end Catalog

namespace Engine

section Commands

variable (engine : Engine) (state : ResolverState) (identity : RuntimeIdentity) (name : String)

/-- The catalog that a request for the identity is answered with. -/
def catalogFor : Catalog :=
  (state.resolve engine.setup engine.sources identity).1.shared.catalog

/-- The feature is accepted as a versionless one when the name alone is declared. -/
def Accepts (feature : Feature) : Prop :=
  feature ∈ (FeatureScan.of (engine.catalogFor state identity) engine.tables [name]).versionless

/-- A check of the name with the platform does not find that the platform is not allowed. -/
def Configures (platform : String) : Prop :=
  ∀ finding ∈ (engine.check state identity
    { features := [name], platforms := [platform] }).1.findings,
      finding.kind ≠ .noConfiguredPlatform

/-- The platforms that are listed for the name are those that a check of it accepts. -/
def ListsAccepted : Prop :=
  ∀ platform, platform ∈ (engine.platforms state identity name).1 ↔
    platform ∈ (engine.catalogFor state identity).platforms ∧
      engine.Configures state identity name platform

end Commands

variable {engine : Engine} {state : ResolverState} {identity : RuntimeIdentity}
  {name platform : String} {feature : Feature}

theorem Accepts.found (h : engine.Accepts state identity name feature) :
    (engine.catalogFor state identity).publicFeature? name = some feature ∧
      feature.isVersionless := by
  obtain ⟨other, hother, hfeature, hversionless⟩ := FeatureScan.mem_versionless_iff.mp h
  obtain ⟨written, hwritten, rfl⟩ := List.mem_map.mp (List.mem_filter.mp hother).1
  rw [List.mem_singleton] at hwritten
  subst hwritten
  exact ⟨(Catalog.publicFeature?_congr (Name.normalize_trim written)).symm.trans hfeature,
    hversionless⟩

/-- No other feature is accepted under the name. -/
theorem Accepts.eq {other : Feature} (h : engine.Accepts state identity name feature)
    (hother : engine.Accepts state identity name other) : other = feature :=
  Option.some.inj (hother.found.1.symm.trans h.found.1)

theorem Accepts.feature? (h : engine.Accepts state identity name feature) :
    (engine.catalogFor state identity).feature? name = some feature :=
  (Option.filter_eq_some_iff.mp h.found.1).1

theorem Accepts.mem (h : engine.Accepts state identity name feature) :
    feature ∈ (engine.catalogFor state identity).features :=
  Catalog.mem_of_publicFeature? h.found.1

/-- Of the name alone the check makes what its pass over versionless features does. -/
theorem Accepts.configures_iff_finding (h : engine.Accepts state identity name feature) :
    engine.Configures state identity name platform ↔
      ¬ ∃ finding, (engine.catalogFor state identity).versionlessFinding engine.tables
        (FeatureScan.of (engine.catalogFor state identity) engine.tables [name]).versioned
        (declaredPlatforms [platform]) feature = some finding ∧
          finding.kind = .noConfiguredPlatform := by
  have hfilled : (engine.catalogFor state identity).isEmpty = false := by
    rw [Catalog.isEmpty, List.isEmpty_eq_false_iff]
    exact List.ne_nil_of_mem h.mem
  have hexists := @exists_kind_validate_iff engine.tables _
    { features := [name], platforms := [platform] } hfilled .noConfiguredPlatform
  have hconfigures : engine.Configures state identity name platform ↔
      ¬ ∃ finding ∈ validate engine.tables (engine.catalogFor state identity)
        { features := [name], platforms := [platform] }, finding.kind = .noConfiguredPlatform := by
    rw [Configures, not_exists]
    simp only [not_and]
    rfl
  rw [hconfigures, hexists]
  refine not_congr ⟨?_, ?_⟩
  · rintro ⟨finding, hfinding, hkind⟩
    obtain ⟨other, hother, hfound⟩ := List.mem_filterMap.mp hfinding
    rw [h.eq hother] at hfound
    exact ⟨finding, hfound, hkind⟩
  · rintro ⟨finding, hfound, hkind⟩
    exact ⟨finding, List.mem_filterMap.mpr ⟨feature, h, hfound⟩, hkind⟩

theorem Accepts.configures_iff (h : engine.Accepts state identity name feature)
    (hplatform : platform ∈ (engine.catalogFor state identity).platforms) :
    engine.Configures state identity name platform ↔ platform.isEmpty ∨
      platform ∈ (engine.catalogFor state identity).allowedPlatforms engine.tables
        feature.name := by
  rw [h.configures_iff_finding, Catalog.exists_noConfigured_iff
    fun _ => FeatureScan.mem_features_of_mem_versioned]
  simp only [Catalog.declaredPlatforms_alone hplatform]
  cases hblank : platform.isEmpty with
  | true => simp
  | false => simp

/-! ## The two commands -/

theorem Accepts.platforms_of_unversioned (h : engine.Accepts state identity name feature)
    (hname : Name.isVersioned name = false) :
    (engine.platforms state identity name).1 =
      (engine.catalogFor state identity).allowedPlatforms engine.tables feature.name := by
  have hsame : (engine.catalogFor state identity).feature? name =
      (engine.catalogFor state identity).feature? feature.name :=
    h.feature?.trans (Catalog.feature?_name h.mem).symm
  rw [← Catalog.allowedPlatforms_congr hsame]
  exact if_neg (by simp [hname])

theorem Accepts.mem_platforms_of_versioned (h : engine.Accepts state identity name feature)
    (hname : Name.isVersioned name) :
    platform ∈ (engine.platforms state identity name).1 ↔
      platform ∈ (engine.catalogFor state identity).platforms ∧ platform ∈ feature.platforms := by
  have hlisted : (engine.platforms state identity name).1 =
      (engine.catalogFor state identity).platformsOf name := if_pos hname
  rw [hlisted, Catalog.platformsOf, h.feature?, Option.elim_some, Std.ExtTreeSet.mem_inter_iff,
    and_comm]

theorem Accepts.listsAccepted_iff_allowed (h : engine.Accepts state identity name feature) :
    engine.ListsAccepted state identity name ↔
      ∀ platform, platform ∈ (engine.platforms state identity name).1 ↔
        platform ∈ (engine.catalogFor state identity).platforms ∧ (platform.isEmpty ∨
          platform ∈ (engine.catalogFor state identity).allowedPlatforms engine.tables
            feature.name) := by
  refine forall_congr' fun platform => iff_congr Iff.rfl (and_congr_right fun hplatform => ?_)
  exact h.configures_iff hplatform

theorem Accepts.listsAccepted_of_unversioned (h : engine.Accepts state identity name feature)
    (hname : Name.isVersioned name = false) :
    engine.ListsAccepted state identity name ↔
      ("" ∈ (engine.catalogFor state identity).platforms →
        "" ∈ (engine.catalogFor state identity).allowedPlatforms engine.tables feature.name) := by
  rw [h.listsAccepted_iff_allowed, h.platforms_of_unversioned hname]
  constructor
  · intro hlists hblank
    exact (hlists "").mpr ⟨hblank, .inl rfl⟩
  · intro hblank platform
    constructor
    · exact fun hallowed => ⟨Catalog.mem_platforms_of_mem_allowedPlatforms hallowed, .inr hallowed⟩
    · rintro ⟨hplatform, hempty | hallowed⟩
      · rw [String.isEmpty_iff] at hempty
        subst hempty
        exact hblank hplatform
      · exact hallowed

theorem Accepts.listsAccepted_of_versioned (h : engine.Accepts state identity name feature)
    (hname : Name.isVersioned name) :
    engine.ListsAccepted state identity name ↔
      ∀ platform ∈ (engine.catalogFor state identity).platforms,
        (platform ∈ feature.platforms ↔ platform.isEmpty ∨
          platform ∈ (engine.catalogFor state identity).allowedPlatforms engine.tables
            feature.name) := by
  rw [h.listsAccepted_iff_allowed]
  refine forall_congr' fun platform => ?_
  rw [h.mem_platforms_of_versioned hname]
  exact and_congr_right_iff

/-- What a check accepts does not depend on how the feature is named, but what is listed does: for a
name without a hyphen it is what is allowed, so that the two differ at most in a blank platform, and
for a name with one, which is not the short name, it is what the feature runs on itself. -/
theorem listsAccepted_iff (engine : Engine) (state : ResolverState) (identity : RuntimeIdentity)
    {name : String} {feature : Feature} (h : engine.Accepts state identity name feature) :
    let catalog := engine.catalogFor state identity
    let allowed := catalog.allowedPlatforms engine.tables feature.name
    (∀ platform ∈ catalog.platforms, engine.Configures state identity name platform ↔
      platform.isEmpty ∨ platform ∈ allowed) ∧
    (Name.isVersioned name = false →
      (engine.platforms state identity name).1 = allowed ∧
      (engine.ListsAccepted state identity name ↔ ("" ∈ catalog.platforms → "" ∈ allowed))) ∧
    (Name.isVersioned name →
      Name.normalize name ≠ feature.key ∧
      (∀ platform, platform ∈ (engine.platforms state identity name).1 ↔
        platform ∈ catalog.platforms ∧ platform ∈ feature.platforms) ∧
      (engine.ListsAccepted state identity name ↔ ∀ platform ∈ catalog.platforms,
        (platform ∈ feature.platforms ↔ platform.isEmpty ∨ platform ∈ allowed))) := by
  refine ⟨fun platform => h.configures_iff, ?_, ?_⟩
  · intro hname
    exact ⟨h.platforms_of_unversioned hname, h.listsAccepted_of_unversioned hname⟩
  · intro hname
    refine ⟨?_, fun _ => h.mem_platforms_of_versioned hname, h.listsAccepted_of_versioned hname⟩
    intro hkey
    have hversioned := Name.isVersioned_normalize hname
    rw [hkey] at hversioned
    exact Feature.not_isVersioned_key h.found.2 hversioned

/-! ## A servlet by two names -/

/-- A feature that allows the platform of the version it requires, with a hyphen in its symbolic
name. -/
def hyphenatedServlet : Feature :=
  ((Feature.named "servlet" .isPublic).withSymbolicName
    "io.openliberty.versionless-servlet").withRequires ["servlet-6.0"]

def aliasedCatalog : Catalog := .ofFeatures [
  (Feature.named "compatible-10.0" .isPrivate).withPlatforms ["jakartaee-10.0"],
  (Feature.named "servlet-6.0" .isPublic).withPlatforms ["jakartaee-10.0"],
  hyphenatedServlet]

/-- The catalog has just been fetched. -/
def aliasedState : ResolverState :=
  { ResolverState.initial with
    cache := (∅ : Cache).insert ResolverState.release
      ⟨⟨1, ResolverState.release, .remote, ⟨0, aliasedCatalog⟩⟩, some 0⟩
    nextNumber := 2
    withGraph := [0] }

def aliasedEngine : Engine :=
  ⟨ResolverState.briefSetup, .bundledOnly, .standard⟩

theorem accepts_aliased : ∀ name ∈ ["Servlet", "IO.OpenLiberty.versionless-servlet"],
    aliasedEngine.Accepts aliasedState ResolverState.release name hyphenatedServlet := by
  unfold Accepts
  decide +kernel

theorem listsAccepted_aliased :
    aliasedEngine.Accepts aliasedState ResolverState.release "Servlet" hyphenatedServlet ∧
    aliasedEngine.ListsAccepted aliasedState ResolverState.release "Servlet" := by
  have haccepts := accepts_aliased "Servlet" (by decide)
  obtain ⟨-, hunversioned, -⟩ :=
    listsAccepted_iff aliasedEngine aliasedState ResolverState.release haccepts
  refine ⟨haccepts, (hunversioned (by decide)).2.mpr fun hblank => absurd hblank ?_⟩
  decide +kernel

/-- By its symbolic name the same feature is accepted with the platform, but nothing is listed. -/
theorem not_listsAccepted_aliased :
    aliasedEngine.Accepts aliasedState ResolverState.release "IO.OpenLiberty.versionless-servlet"
      hyphenatedServlet ∧
    (aliasedEngine.platforms aliasedState ResolverState.release "servlet").1.toList =
      ["jakartaee-10.0"] ∧
    (aliasedEngine.platforms aliasedState ResolverState.release
      "IO.OpenLiberty.versionless-servlet").1.toList = [] ∧
    "jakartaee-10.0" ∈ (aliasedEngine.catalogFor aliasedState ResolverState.release).platforms ∧
    aliasedEngine.Configures aliasedState ResolverState.release
      "IO.OpenLiberty.versionless-servlet" "jakartaee-10.0" ∧
    ¬ aliasedEngine.ListsAccepted aliasedState ResolverState.release
      "IO.OpenLiberty.versionless-servlet" := by
  have haccepts := accepts_aliased "IO.OpenLiberty.versionless-servlet" (by decide)
  have hempty : (aliasedEngine.platforms aliasedState ResolverState.release
      "IO.OpenLiberty.versionless-servlet").1.toList = [] := by decide +kernel
  have hplatform : "jakartaee-10.0" ∈
      (aliasedEngine.catalogFor aliasedState ResolverState.release).platforms := by decide +kernel
  have hconfigures : aliasedEngine.Configures aliasedState ResolverState.release
      "IO.OpenLiberty.versionless-servlet" "jakartaee-10.0" :=
    (haccepts.configures_iff hplatform).mpr (.inr (by decide +kernel))
  refine ⟨haccepts, by decide +kernel, hempty, hplatform, hconfigures, ?_⟩
  intro hlists
  have hlisted := (hlists _).mpr ⟨hplatform, hconfigures⟩
  rw [← Std.ExtTreeSet.mem_toList, hempty] at hlisted
  exact List.not_mem_nil hlisted

end Engine

end FeatureCheck
