import FeatureCheck.Proofs.Catalog.Requirements
import FeatureCheck.Proofs.Validation.MissingFeatures

/-!
# Features that are declared for an element

Whether a config element is enabled goes by the short names of the features that enable it. A
feature that is declared by its short name counts, in whatever spelling; one that is declared by its
symbolic name has been accepted and yet counts for nothing (`enabler_counts_iff`), so its own
elements are reported (`enabler_ignored`).
-/

namespace FeatureCheck

set_option autoImplicit false

variable {catalog : Catalog} {tables : CompatibilityTables} {declarations : Declarations}
  {declared : List String} {name element key : String} {feature : Feature}

namespace Catalog

theorem lists_or_mem_allEnabledBy_iff (hfeature : feature ∈ catalog.features)
    (hlisted : ∃ other ∈ catalog.features, other.Lists (Name.normalize element)) :
    feature.Lists (Name.normalize element) ∨ feature.name ∈ catalog.graph.allEnabledBy element ↔
      catalog.Enables (Name.normalize element) feature := by
  rw [mem_allEnabledBy_iff hfeature hlisted]
  exact or_iff_right_of_imp .lists

theorem misses_iff_allEnabledBy : catalog.Misses declared (Name.normalize element) ↔
    (∃ feature ∈ catalog.features, feature.Lists (Name.normalize element)) ∧
      ∀ name ∈ declared, ∀ feature ∈ catalog.features, Name.normalize name = feature.key →
        feature.name ∉ catalog.graph.allEnabledBy element := by
  rw [Misses]
  refine and_congr_right fun hlisted => ?_
  constructor
  · intro hnone name hname feature hfeature hkey hmem
    have henables := (mem_allEnabledBy_iff hfeature hlisted).mp hmem
    exact hnone ⟨name, hname, feature, hfeature, henables, hkey⟩
  · rintro hall ⟨name, hname, feature, hfeature, henables, hkey⟩
    have hmem := (mem_allEnabledBy_iff hfeature hlisted).mpr henables
    exact hall name hname feature hfeature hkey hmem

/-- A name that finds a feature but is not its short name is no feature's short name. -/
theorem key_ne_of_alias (hfound : catalog.feature? name = some feature)
    (halias : Name.normalize name ≠ feature.key) {other : Feature}
    (hother : other ∈ catalog.features) : Name.normalize name ≠ other.key := by
  intro hkey
  rw [feature?_of_key_eq hother hkey] at hfound
  rw [Option.some.inj hfound] at hkey
  exact halias hkey

theorem misses_filter_iff {unknown : String}
    (hunknown : ∀ feature ∈ catalog.features, unknown ≠ feature.key) :
    catalog.Misses (declared.filter (Name.normalize · ≠ unknown)) key ↔
      catalog.Misses declared key := by
  refine and_congr_right fun _ => not_congr ?_
  constructor
  · rintro ⟨name, hname, hexists⟩
    exact ⟨name, (List.mem_filter.mp hname).1, hexists⟩
  · rintro ⟨name, hname, feature, hfeature, henables, hkey⟩
    refine ⟨name, List.mem_filter.mpr ⟨hname, ?_⟩, feature, hfeature, henables, hkey⟩
    rw [hkey]
    exact decide_eq_true (hunknown feature hfeature).symm

end Catalog

/-- An element is reported just when some feature lists it and none of its closure is declared by
its short name. Declaring a feature by another name makes no difference. -/
theorem enabler_counts_iff (tables : CompatibilityTables) (catalog : Catalog)
    (declarations : Declarations) (element : String) :
    (ReportsMissing tables catalog declarations element ↔
      (∃ used ∈ declarations.configElements, Name.normalize used = Name.normalize element) ∧
      (∃ feature ∈ catalog.features, feature.Lists (Name.normalize element)) ∧
      ∀ name ∈ declarations.features, ∀ feature ∈ catalog.features,
        Name.normalize name = feature.key →
          feature.name ∉ catalog.graph.allEnabledBy element) ∧
    (∀ name ∈ declarations.features, ∀ feature, catalog.publicFeature? name = some feature →
      feature.Lists (Name.normalize element) ∨
        feature.name ∈ catalog.graph.allEnabledBy element →
      Name.normalize name = feature.key → ¬ ReportsMissing tables catalog declarations element) ∧
    (∀ name feature, catalog.publicFeature? name = some feature →
      Name.normalize name ≠ feature.key →
      (ReportsMissing tables catalog { declarations with
          features := declarations.features.filter (Name.normalize · ≠ Name.normalize name) }
          element ↔
        ReportsMissing tables catalog declarations element)) := by
  refine ⟨?_, ?_, ?_⟩
  · rw [reportsMissing_iff, Catalog.misses_iff_allEnabledBy]
  · intro name hname feature hfound hcloses hkey hreports
    obtain ⟨-, hlisted, hnone⟩ := reportsMissing_iff.mp hreports
    have hfeature := Catalog.mem_of_publicFeature? hfound
    have henables := (Catalog.lists_or_mem_allEnabledBy_iff hfeature hlisted).mp hcloses
    exact hnone ⟨name, hname, feature, hfeature, henables, hkey⟩
  · intro name feature hfound halias
    have hnot := fun other => @Catalog.key_ne_of_alias catalog name feature
      (Option.filter_eq_some_iff.mp hfound).1 halias other
    rw [reportsMissing_iff, reportsMissing_iff, Catalog.misses_filter_iff hnot]

def sessionServlet : Feature :=
  ((Feature.named "servlet-6.0" .isPublic).withSymbolicName
    "com.ibm.websphere.appserver.servlet-6.0").withConfigElements ["httpSession"]

/-- It requires the other feature by its symbolic name. -/
def sessionProfile : Feature :=
  (Feature.named "webProfile-10.0" .isPublic).withRequires
    ["com.ibm.websphere.appserver.servlet-6.0"]

def sessionCatalog : Catalog := .ofFeatures [sessionServlet, sessionProfile]

theorem sessionServlet_lists : sessionServlet.Lists (Name.normalize "httpSession") :=
  ⟨"httpSession", List.mem_singleton_self _, rfl⟩

/-- By its short name a feature counts also for what it enables through another one. -/
theorem enabler_counts_sessionCatalog :
    sessionCatalog.publicFeature? " WEBPROFILE-10.0" = some sessionProfile ∧
    sessionProfile.name ∈ sessionCatalog.graph.allEnabledBy "httpSession" ∧
    ¬ ReportsMissing .standard sessionCatalog
      { features := [" WEBPROFILE-10.0"], configElements := ["httpSession"] } "httpSession" := by
  have hfound : sessionCatalog.publicFeature? " WEBPROFILE-10.0" = some sessionProfile := by
    decide +kernel
  have hrequired : sessionCatalog.feature? "com.ibm.websphere.appserver.servlet-6.0" =
      some sessionServlet := by decide +kernel
  have henables : sessionCatalog.Enables (Name.normalize "httpSession") sessionProfile :=
    .requires (List.mem_singleton_self _) hrequired (.lists sessionServlet_lists)
  have hmem : sessionProfile.name ∈ sessionCatalog.graph.allEnabledBy "httpSession" :=
    (Catalog.mem_allEnabledBy_iff (by decide +kernel)
      ⟨sessionServlet, by decide +kernel, sessionServlet_lists⟩).mpr henables
  have hcounts := (enabler_counts_iff .standard sessionCatalog
    { features := [" WEBPROFILE-10.0"], configElements := ["httpSession"] } "httpSession").2.1
  exact ⟨hfound, hmem, hcounts _ (List.mem_singleton_self _) _ hfound (.inr hmem)
    (by decide +kernel)⟩

/-- A feature is declared by its symbolic name, and its element is reported. -/
theorem enabler_ignored :
    sessionCatalog.publicFeature? "com.ibm.websphere.appserver.servlet-6.0" =
        some sessionServlet ∧
    sessionServlet.Lists (Name.normalize "httpSession") ∧
    ReportsMissing .standard sessionCatalog
      { features := ["com.ibm.websphere.appserver.servlet-6.0"], configElements := ["httpSession"] }
      "httpSession" := by
  refine ⟨by decide +kernel, sessionServlet_lists, reportsMissing_iff.mpr ⟨?_, ?_, ?_⟩⟩
  · exact ⟨"httpSession", List.mem_singleton_self _, rfl⟩
  · exact ⟨sessionServlet, by decide +kernel, sessionServlet_lists⟩
  · rintro ⟨name, hname, feature, hfeature, -, hkey⟩
    have hnone : ∀ feature ∈ sessionCatalog.features,
        Name.normalize "com.ibm.websphere.appserver.servlet-6.0" ≠ feature.key := by
      decide +kernel
    rw [List.mem_singleton.mp hname] at hkey
    exact hnone feature hfeature hkey

end FeatureCheck
