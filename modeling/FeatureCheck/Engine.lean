import FeatureCheck.Configuration
import FeatureCheck.Resolver.Resolve
import FeatureCheck.Validation

/-!
# The engine

Resolves the catalog of a runtime and checks declarations against it.
-/

namespace FeatureCheck

set_option autoImplicit false

namespace Sources

def ofSettings (files : Files) (settings : SourceSettings) : Sources :=
  { bundledOnly with
    remote := fun identity =>
      ⟨settings.mirrorDir.elim (noRemote identity) fun root =>
        fetchMirrored files root identity, 0⟩
    installed := ⟨readInstalled files settings.installDir settings.installedCatalog, 0⟩ }

end Sources

structure Engine where
  setup : ResolverSetup
  sources : Sources
  tables : CompatibilityTables

namespace Engine

def ofConfiguration (files : Files) (configuration : Configuration) : Engine where
  setup := ⟨1000 * configuration.resolver.requestDelaySeconds, Catalog.parse⟩
  sources := .ofSettings files configuration.sources
  tables := configuration.tables

/-- Checks declarations; the graph of a catalog that is not empty is made for it. -/
def check (engine : Engine) (state : ResolverState) (identity : RuntimeIdentity)
    (declarations : Declarations) : Report × ResolverState :=
  let (snapshot, state) := state.resolve engine.setup engine.sources identity
  let catalog := snapshot.shared.catalog
  let findings := validate engine.tables catalog declarations
  let state := if catalog.isEmpty then state else state.makeGraph snapshot.shared
  (⟨identity, snapshot.source, findings⟩, state)

/-- The platforms of a feature: its own if the name has a version, otherwise those on which one of
its versions runs. -/
def platforms (engine : Engine) (state : ResolverState) (identity : RuntimeIdentity)
    (feature : String) : NameSet × ResolverState :=
  let (snapshot, state) := state.resolve engine.setup engine.sources identity
  let catalog := snapshot.shared.catalog
  (if Name.isVersioned feature then catalog.platformsOf feature
    else catalog.allowedPlatforms engine.tables feature, state)

end Engine

end FeatureCheck
