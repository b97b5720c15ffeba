import FeatureCheck.Proofs.Catalog.Requirements
import FeatureCheck.Proofs.Validation.MissingFeatures

/-!
# Requirements in a namespace

A versionless feature requires features of an internal namespace. Where the catalog has such a
feature under its plain name only, the platforms of the versionless feature are still collected from
it. The graph does not take the namespace off: it has a bare node there, from which nothing is
enabled. So the feature that is meant is enabled just when other requirements lead to it
(`namespaced_requirement_iff`), and otherwise its elements are reported
(`namespaced_requirement_unfollowed`).
-/

namespace FeatureCheck

set_option autoImplicit false

open Relation

/-- A feature requires another one under a name in the namespace, which the catalog does not have. -/
structure StandsFor (catalog : Catalog) (tables : CompatibilityTables) (feature : Feature)
    (required : String) (found : Feature) : Prop where
  feature_mem : feature ∈ catalog.features
  required_mem : required ∈ feature.requirements
  found : catalog.feature? (Name.withoutNamespace required tables.versionlessNamespace) =
    some found
  unlisted : catalog.feature? required = none

variable {catalog : Catalog} {tables : CompatibilityTables} {declarations : Declarations}
  {feature found : Feature} {required element key : String}

namespace Catalog

theorem versionlessTarget_mem_allowedTargets (h : required ∈ feature.requirements) :
    versionlessTarget tables required ∈ allowedTargets tables feature := by
  rcases List.mem_append.mp h with hplain | htolerated
  · exact List.mem_append_left _ (List.mem_map_of_mem hplain)
  · obtain ⟨requirement, hrequirement, rfl⟩ := List.mem_map.mp htolerated
    refine List.mem_append_right _ (List.mem_flatMap.mpr ⟨requirement, hrequirement, ?_⟩)
    exact List.mem_cons_self

theorem allEnables_eq_empty (h : catalog.feature? required = none) :
    catalog.graph.allEnables required = ∅ := by
  rw [Std.ExtTreeSet.eq_empty_iff_forall_not_mem, graph_eq_ofChanges]
  intro name hname
  obtain ⟨node, -, hpath, -⟩ :=
    (EnablementGraph.mem_allEnables_iff catalog.changes required).mp hname
  obtain ⟨next, hedge, -⟩ := TransGen.head'_iff.mp hpath
  obtain ⟨feature, hfeature, hkey, -⟩ := enables_changes_iff.mp hedge
  exact key_ne_of_feature?_eq_none h hfeature hkey

end Catalog

namespace StandsFor

theorem found_mem (h : StandsFor catalog tables feature required found) :
    found ∈ catalog.features :=
  Catalog.mem_of_feature? h.found

theorem mem_allowedPlatforms (h : StandsFor catalog tables feature required found)
    {platform : String} (hplatform : platform ∈ catalog.platformsOf found.name) :
    platform ∈ catalog.allowedPlatforms tables feature.name := by
  rw [Catalog.allowedPlatforms, Catalog.feature?_name h.feature_mem, Option.elim_some,
    NameSet.mem_unionAll]
  refine ⟨_, List.mem_map_of_mem (Catalog.versionlessTarget_mem_allowedTargets h.required_mem), ?_⟩
  rw [Catalog.platformsOf, Catalog.feature?_name h.found_mem] at hplatform
  rwa [Catalog.platformsOf, Catalog.versionlessTarget, Catalog.feature?_normalize, h.found]

theorem exists_bare_node (h : StandsFor catalog tables feature required found) :
    ∃ node ∈ catalog.graph.allEnables feature.name,
      Name.normalize node = Name.normalize required := by
  have htarget : catalog.requirementTarget required = required := by
    rw [Catalog.requirementTarget, h.unlisted, Option.elim_none]
  have hedge : GraphChange.Enables catalog.changes feature.key (Name.normalize required) :=
    Catalog.enables_changes_iff.mpr
      ⟨feature, h.feature_mem, rfl, required, h.required_mem, by rw [htarget]⟩
  have hne : Name.normalize required ≠ feature.key :=
    (Catalog.key_ne_of_feature?_eq_none h.unlisted h.feature_mem).symm
  obtain ⟨node, hspelling⟩ := Option.isSome_iff_exists.mp hedge.mentions.2
  refine ⟨node, ?_, GraphChange.normalize_of_spelling? hspelling⟩
  rw [Catalog.graph_eq_ofChanges, EnablementGraph.mem_allEnables_iff]
  exact ⟨Name.normalize required, hne, .single hedge, hspelling⟩

end StandsFor

/-- Along a requirement in the namespace platforms are collected, but nothing is enabled: whether
the feature that is meant is in the closure, and whether its elements are reported, is up to the
requirements that the catalog finds as they read. -/
theorem namespaced_requirement_iff (tables : CompatibilityTables) (catalog : Catalog)
    (declarations : Declarations) (feature found : Feature) (required : String)
    (h : StandsFor catalog tables feature required found) :
    (∀ platform ∈ catalog.platformsOf found.name,
      platform ∈ catalog.allowedPlatforms tables feature.name) ∧
    ((∃ node ∈ catalog.graph.allEnables feature.name,
        Name.normalize node = Name.normalize required) ∧
      catalog.graph.allEnables required = ∅) ∧
    (found.name ∈ catalog.graph.allEnables feature.name ↔
      found ≠ feature ∧ TransGen catalog.Requires feature found) ∧
    (∀ element, found.Lists (Name.normalize element) →
      (∃ name ∈ declarations.features, Name.normalize name = feature.key) →
      found = feature ∨ found.name ∈ catalog.graph.allEnables feature.name →
      ¬ ReportsMissing tables catalog declarations element) ∧
    (∀ element ∈ declarations.configElements, found.Lists (Name.normalize element) →
      declarations.features ≠ [] →
      (∀ name ∈ declarations.features, Name.normalize name = feature.key) →
      (ReportsMissing tables catalog declarations element ↔
        ∀ other, ReflTransGen catalog.Requires feature other →
          ¬ other.Lists (Name.normalize element))) := by
  refine ⟨fun _ => h.mem_allowedPlatforms,
    ⟨h.exists_bare_node, Catalog.allEnables_eq_empty h.unlisted⟩,
    Catalog.mem_allEnables_iff h.feature_mem h.found_mem, ?_, ?_⟩
  · intro element hlists hdeclared hreached hreports
    obtain ⟨name, hname, hkey⟩ := hdeclared
    have hpath : ReflTransGen catalog.Requires feature found := by
      rcases hreached with rfl | hmem
      · exact .refl
      · exact ((Catalog.mem_allEnables_iff h.feature_mem h.found_mem).mp hmem).2.to_reflTransGen
    have henables := Catalog.enables_iff.mpr ⟨found, hpath, hlists⟩
    exact (reportsMissing_iff.mp hreports).2.2
      ⟨name, hname, feature, h.feature_mem, henables, hkey⟩
  · intro element helement hlists hsome honly
    obtain ⟨name, hname⟩ := List.exists_mem_of_ne_nil _ hsome
    rw [reportsMissing_iff]
    constructor
    · rintro ⟨-, -, hnone⟩ other hpath hother
      have henables := Catalog.enables_iff.mpr ⟨other, hpath, hother⟩
      exact hnone ⟨name, hname, feature, h.feature_mem, henables, honly name hname⟩
    · intro hnone
      refine ⟨⟨element, helement, rfl⟩, ⟨found, h.found_mem, hlists⟩, ?_⟩
      rintro ⟨name, hname, source, hsource, henables, hkey⟩
      have heq : source = feature :=
        Catalog.eq_of_key_eq hsource h.feature_mem (hkey.symm.trans (honly name hname))
      rw [heq] at henables
      obtain ⟨other, hpath, hother⟩ := Catalog.enables_iff.mp henables
      exact hnone other hpath hother

/-- A versionless feature, which requires what is given beside a servlet of the namespace. -/
def versionlessServlet (others : List String) : Feature :=
  (Feature.named "servlet" .isPublic).withRequires
    ("io.openliberty.internal.versionless.servlet-6.0" :: others)

def plainServlet : Feature :=
  ((Feature.named "servlet-6.0" .isPublic).withPlatforms ["jakartaee-10.0"]).withConfigElements
    ["httpSession"]

def jakartaPlatform : Feature :=
  (Feature.named "compatible-10.0" .isPrivate).withPlatforms ["jakartaee-10.0"]

def servletDeclarations : Declarations :=
  { features := ["servlet"], platforms := ["jakartaee-10.0"], configElements := ["httpSession"] }

theorem plainServlet_lists : plainServlet.Lists (Name.normalize "httpSession") :=
  ⟨"httpSession", List.mem_singleton_self _, rfl⟩

def bridgedCatalog : Catalog := .ofFeatures [jakartaPlatform, plainServlet,
  versionlessServlet ["webProfile-10.0"],
  (Feature.named "webProfile-10.0" .isPublic).withRequires ["servlet-6.0"]]

/-- The servlet is required by way of another feature as well. -/
theorem namespaced_requirement_bridged :
    StandsFor bridgedCatalog .standard (versionlessServlet ["webProfile-10.0"])
      "io.openliberty.internal.versionless.servlet-6.0" plainServlet ∧
    plainServlet.name ∈
      bridgedCatalog.graph.allEnables (versionlessServlet ["webProfile-10.0"]).name ∧
    ¬ ReportsMissing .standard bridgedCatalog servletDeclarations "httpSession" := by
  have hstands : StandsFor bridgedCatalog .standard (versionlessServlet ["webProfile-10.0"])
      "io.openliberty.internal.versionless.servlet-6.0" plainServlet :=
    ⟨by decide +kernel, by decide +kernel, by decide +kernel, by decide +kernel⟩
  obtain ⟨-, -, hclosure, hunreported, -⟩ := namespaced_requirement_iff .standard bridgedCatalog
    servletDeclarations _ _ _ hstands
  have hprofile : bridgedCatalog.Requires (versionlessServlet ["webProfile-10.0"])
      ((Feature.named "webProfile-10.0" .isPublic).withRequires ["servlet-6.0"]) :=
    ⟨"webProfile-10.0", by decide +kernel, by decide +kernel⟩
  have hservlet : bridgedCatalog.Requires
      ((Feature.named "webProfile-10.0" .isPublic).withRequires ["servlet-6.0"]) plainServlet :=
    ⟨"servlet-6.0", by decide +kernel, by decide +kernel⟩
  have hmem := hclosure.mpr ⟨by decide +kernel, .head hprofile (.single hservlet)⟩
  refine ⟨hstands, hmem, hunreported "httpSession" plainServlet_lists ?_ (.inr hmem)⟩
  exact ⟨"servlet", by decide +kernel, by decide +kernel⟩

def namespacedCatalog : Catalog :=
  .ofFeatures [jakartaPlatform, plainServlet, versionlessServlet []]

/-- The platform of the servlet is allowed, yet the servlet is not enabled and its element is
reported. -/
theorem namespaced_requirement_unfollowed :
    StandsFor namespacedCatalog .standard (versionlessServlet [])
      "io.openliberty.internal.versionless.servlet-6.0" plainServlet ∧
    plainServlet ≠ versionlessServlet [] ∧
    plainServlet.name ∉ namespacedCatalog.graph.allEnables (versionlessServlet []).name ∧
    plainServlet.Lists (Name.normalize "httpSession") ∧
    ReportsMissing .standard namespacedCatalog servletDeclarations "httpSession" := by
  have hmem : versionlessServlet [] ∈ namespacedCatalog.features := by decide +kernel
  have hstuck : ∀ other, ¬ namespacedCatalog.Requires (versionlessServlet []) other := by
    rintro other ⟨required, hrequired, hfound⟩
    have hnone : namespacedCatalog.feature? "io.openliberty.internal.versionless.servlet-6.0" =
        none := by decide +kernel
    rw [List.mem_singleton.mp hrequired, hnone] at hfound
    simp at hfound
  refine ⟨⟨hmem, by decide +kernel, by decide +kernel, by decide +kernel⟩, by decide +kernel, ?_,
    plainServlet_lists, reportsMissing_iff.mpr ⟨?_, ?_, ?_⟩⟩
  · rw [Catalog.mem_allEnables_iff hmem (by decide +kernel)]
    rintro ⟨-, hpath⟩
    obtain ⟨next, hnext, -⟩ := TransGen.head'_iff.mp hpath
    exact hstuck next hnext
  · exact ⟨"httpSession", List.mem_singleton_self _, rfl⟩
  · exact ⟨plainServlet, by decide +kernel, plainServlet_lists⟩
  · rintro ⟨name, hname, source, hsource, henables, hkey⟩
    have hsame : source.key = (versionlessServlet []).key := by
      rw [← hkey, List.mem_singleton.mp hname]
      decide +kernel
    rw [Catalog.eq_of_key_eq hsource hmem hsame] at henables
    obtain ⟨other, hpath, hother⟩ := Catalog.enables_iff.mp henables
    rcases ReflTransGen.cases_head hpath with rfl | ⟨next, hnext, -⟩
    · obtain ⟨listed, hlisted, -⟩ := hother
      exact absurd hlisted (List.not_mem_nil)
    · exact hstuck next hnext

end FeatureCheck
