import FeatureCheck.CommandLine.Run
import FeatureCheck.Proofs.Validation.Consistency

/-!
# The order of declarations

Whether declarations agree has nothing to do with their order: `agrees_perm`. So the order decides
what is found, but never whether there is an error, and not how a run ends.
-/

namespace FeatureCheck

set_option autoImplicit false

variable {tables : CompatibilityTables} {catalog : Catalog} {left right : Declarations}

namespace Catalog

theorem declaredFeatures_perm {declared others : List String} (h : declared.Perm others) :
    (catalog.declaredFeatures declared).Perm (catalog.declaredFeatures others) :=
  ((h.map _).filter _).filterMap _

theorem declaredVersioned_perm {declared others : List String} (h : declared.Perm others) :
    (catalog.declaredVersioned declared).Perm (catalog.declaredVersioned others) :=
  (declaredFeatures_perm h).filter _

theorem Resolves.perm {versioned others : List Feature} {declared : NameSet} {feature : Feature}
    (h : catalog.Resolves tables versioned declared feature) (hperm : versioned.Perm others) :
    catalog.Resolves tables others declared feature := by
  unfold Resolves at h ⊢
  split
  · rename_i hnone
    rw [if_pos hnone] at h
    obtain ⟨hsome, platform, hallowed, hone⟩ := h
    refine ⟨fun hnil => hsome ?_, platform, hallowed, ?_⟩
    · rw [hnil] at hperm
      exact hperm.eq_nil
    · intro other
      rw [← hone]
      exact forall_congr' fun v => by rw [hperm.mem_iff]
  · rename_i hsome
    rw [if_neg hsome] at h
    exact h

end Catalog

theorem declaredPlatforms_perm {declared others : List String} (h : declared.Perm others) :
    declaredPlatforms declared = declaredPlatforms others := by
  apply Std.ExtTreeSet.ext_mem
  intro key
  rw [declaredPlatforms, declaredPlatforms, NameSet.mem_ofList, NameSet.mem_ofList]
  exact ((h.map _).filter _).mem_iff

theorem Agrees.perm (h : Agrees tables catalog left) (hfeatures : left.features.Perm right.features)
    (hplatforms : left.platforms.Perm right.platforms) : Agrees tables catalog right where
  names := h.names.perm ((hfeatures.map _).filter _)
  platforms := h.platforms.perm ((hplatforms.map _).filter _)
  resolves feature hfeature hversion := by
    rw [← declaredPlatforms_perm hplatforms]
    have hdeclared := (Catalog.declaredFeatures_perm hfeatures).mem_iff.mpr hfeature
    exact (h.resolves feature hdeclared hversion).perm (Catalog.declaredVersioned_perm hfeatures)
  shares family := (h.shares family).perm (Catalog.declaredVersioned_perm hfeatures)

theorem agrees_perm (hfeatures : left.features.Perm right.features)
    (hplatforms : left.platforms.Perm right.platforms) :
    Agrees tables catalog left ↔ Agrees tables catalog right :=
  ⟨fun h => h.perm hfeatures hplatforms, fun h => h.perm hfeatures.symm hplatforms.symm⟩

/-! ## Reports -/

theorem Report.hasErrors_iff (report : Report) :
    report.hasErrors ↔ ∃ finding ∈ report.findings, finding.severity = .error := by
  simp [hasErrors, count, List.countP_pos_iff]

theorem exists_error_perm (catalog : Catalog) (hfeatures : left.features.Perm right.features)
    (hplatforms : left.platforms.Perm right.platforms) :
    (∃ finding ∈ validate .standard catalog left, finding.severity = .error) ↔
      ∃ finding ∈ validate .standard catalog right, finding.severity = .error := by
  cases hempty : catalog.isEmpty with
  | true => simp [validate, hempty]
  | false =>
    rw [exists_error_iff hempty, exists_error_iff hempty, ne_eq, ne_eq,
      errorFindings_eq_nil_iff CompatibilityTables.unambiguous_renamedFeatures
        CompatibilityTables.unambiguous_conflictingPlatforms,
      errorFindings_eq_nil_iff CompatibilityTables.unambiguous_renamedFeatures
        CompatibilityTables.unambiguous_conflictingPlatforms,
      agrees_perm hfeatures hplatforms]

theorem Engine.hasErrors_perm (engine : Engine) (state : ResolverState) (identity : RuntimeIdentity)
    (htables : engine.tables = .standard) (hfeatures : left.features.Perm right.features)
    (hplatforms : left.platforms.Perm right.platforms) :
    (engine.check state identity left).1.hasErrors =
      (engine.check state identity right).1.hasErrors := by
  rw [Bool.eq_iff_iff, Report.hasErrors_iff, Report.hasErrors_iff]
  dsimp only [Engine.check]
  rw [htables]
  exact exists_error_perm _ hfeatures hplatforms

/-! ## Runs -/

namespace CommandLine

/-- The configuration of a run, which is loaded after its logger has started. -/
def Invocation.loaded (invocation : Invocation) (surroundings : Surroundings) :
    Except ConfigurationError Configuration :=
  let started := (invocation.loggerSettings surroundings.day).start surroundings.logFilter false
    ⟨[], surroundings.files⟩
  invocation.configuration started.2.files.read surroundings.environment

theorem status_perform_perm (settings : Settings) (files : Files) (configuration : Configuration)
    (htables : configuration.tables = .standard) (hfeatures : left.features.Perm right.features)
    (hplatforms : left.platforms.Perm right.platforms) :
    ((Invocation.mk settings (.check left)).perform files configuration).status =
      ((Invocation.mk settings (.check right)).perform files configuration).status := by
  have herrors := (Engine.ofConfiguration files configuration).hasErrors_perm .initial
    (.of settings.runtime settings.runtimeVersion) htables hfeatures hplatforms
  dsimp only [Invocation.perform, Outcome.ofReport, Invocation.identity]
  rw [herrors]

theorem status_outcome_perm (settings : Settings) (files : Files)
    (environment : Environment.Variables)
    (htables : ∀ configuration,
      (Invocation.mk settings (.check left)).configuration files environment = .ok configuration →
        configuration.tables = .standard)
    (hfeatures : left.features.Perm right.features)
    (hplatforms : left.platforms.Perm right.platforms) :
    ((Invocation.mk settings (.check left)).outcome files environment).status =
      ((Invocation.mk settings (.check right)).outcome files environment).status := by
  have hsame : (Invocation.mk settings (.check right)).configuration files environment =
      (Invocation.mk settings (.check left)).configuration files environment := rfl
  dsimp only [Invocation.outcome]
  rw [hsame]
  cases hloaded : (Invocation.mk settings (.check left)).configuration files environment with
  | error error => rfl
  | ok configuration =>
    exact status_perform_perm settings files configuration (htables configuration hloaded)
      hfeatures hplatforms

theorem status_run_perm (settings : Settings) (surroundings : Surroundings)
    {arguments others : List String}
    (hleft : Invocation.parse arguments = .ok ⟨settings, .check left⟩)
    (hright : Invocation.parse others = .ok ⟨settings, .check right⟩)
    (htables : ∀ configuration,
      (Invocation.mk settings (.check left)).loaded surroundings = .ok configuration →
        configuration.tables = .standard)
    (hfeatures : left.features.Perm right.features)
    (hplatforms : left.platforms.Perm right.platforms) :
    (run arguments surroundings).1.status = (run others surroundings).1.status := by
  have hsame : (Invocation.mk settings (.check right)).loggerSettings surroundings.day =
      (Invocation.mk settings (.check left)).loggerSettings surroundings.day := rfl
  unfold run
  rw [hleft, hright]
  dsimp only [Invocation.loaded] at htables ⊢
  rw [hsame]
  generalize ((Invocation.mk settings (.check left)).loggerSettings surroundings.day).start
    surroundings.logFilter false ⟨[], surroundings.files⟩ = started at htables ⊢
  obtain ⟨logger, output⟩ := started
  cases logger with
  | error problem => rfl
  | ok logger =>
    exact status_outcome_perm settings _ _ htables hfeatures hplatforms

end CommandLine

open CommandLine in
/-- The order in which features and platforms are declared does not decide whether there is an
error. -/
theorem errors_of_perm (hfeatures : left.features.Perm right.features)
    (hplatforms : left.platforms.Perm right.platforms) :
    (∀ catalog,
      (∃ finding ∈ validate .standard catalog left, finding.severity = .error) ↔
        ∃ finding ∈ validate .standard catalog right, finding.severity = .error) ∧
    (∀ (engine : Engine) (state : ResolverState) (identity : RuntimeIdentity),
      engine.tables = .standard →
        (engine.check state identity left).1.hasErrors =
          (engine.check state identity right).1.hasErrors) ∧
    (∀ (settings : Settings) (surroundings : Surroundings) (arguments others : List String),
      Invocation.parse arguments = .ok ⟨settings, .check left⟩ →
      Invocation.parse others = .ok ⟨settings, .check right⟩ →
      (∀ configuration,
        (Invocation.mk settings (.check left)).loaded surroundings = .ok configuration →
          configuration.tables = .standard) →
      (run arguments surroundings).1.status = (run others surroundings).1.status) :=
  ⟨fun catalog => exists_error_perm catalog hfeatures hplatforms,
    fun engine state identity htables =>
      engine.hasErrors_perm state identity htables hfeatures hplatforms,
    fun settings surroundings _ _ hleft hright htables =>
      status_run_perm settings surroundings hleft hright htables hfeatures hplatforms⟩

/-! ## Two orders -/

def laterVersionFirst : Declarations :=
  { features := ["servlet-6.0", "servlet-5.0", "servlet", "Servlet"] }

def earlierVersionFirst : Declarations :=
  { features := ["servlet-5.0", "servlet-6.0", "Servlet", "servlet"] }

def featureArguments (declarations : Declarations) : List String :=
  "check" :: declarations.features.flatMap (["--feature", ·])

open CommandLine in
/-- There are errors in both orders, although not as many and about other names. -/
theorem errors_of_perm_servletCatalog :
    laterVersionFirst.features.Perm earlierVersionFirst.features ∧
    (∃ finding ∈ validate .standard servletCatalog laterVersionFirst, finding.severity = .error) ∧
    (∃ finding ∈ validate .standard servletCatalog earlierVersionFirst,
      finding.severity = .error) ∧
    ((validate .standard servletCatalog laterVersionFirst).map (·.subject),
        (validate .standard servletCatalog earlierVersionFirst).map (·.subject)) =
      (["servlet", "Servlet"], ["servlet", "servlet", "servlet"]) ∧
    (run (featureArguments laterVersionFirst) ⟨.empty, [], none, "today", "now"⟩).1.status =
      (run (featureArguments earlierVersionFirst) ⟨.empty, [], none, "today", "now"⟩).1.status := by
  have hfeatures : laterVersionFirst.features.Perm earlierVersionFirst.features := by decide
  have hplatforms : laterVersionFirst.platforms.Perm earlierVersionFirst.platforms := by decide
  obtain ⟨herror, -, hrun⟩ := errors_of_perm hfeatures hplatforms
  have hfirst : ∃ finding ∈ validate .standard servletCatalog laterVersionFirst,
      finding.severity = .error := by
    decide +kernel
  refine ⟨hfeatures, hfirst, (herror servletCatalog).mp hfirst, by decide +kernel, ?_⟩
  apply hrun ⟨none, .ol, defaultVersion, none, none, false, 0, none⟩ _ _ _ rfl rfl
  intro configuration hloaded
  have hstandard : ((Invocation.mk ⟨none, .ol, defaultVersion, none, none, false, 0, none⟩
      (.check laterVersionFirst)).loaded ⟨.empty, [], none, "today", "now"⟩).toOption.all
        (·.tables = .standard) = true := by
    decide +kernel
  rw [hloaded] at hstandard
  simpa [Except.toOption] using hstandard

end FeatureCheck
