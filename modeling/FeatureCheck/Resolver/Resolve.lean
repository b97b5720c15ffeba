import FeatureCheck.Resolver.Step

/-!
# One request at a time

What a request is answered with when no other is under way. The clock moves on while a source
takes its time.
-/

namespace FeatureCheck.ResolverState

set_option autoImplicit false

def defaultCatalog (setup : ResolverSetup) (sources : Sources) (state : ResolverState) :
    SharedCatalog × ResolverState :=
  match state.default with
  | .loaded shared => (shared, state)
  | .unasked | .asked =>
      let state := (state.note .default none).pass sources.default.latency
      state.loadDefault setup sources.default.answer

def fallBack (setup : ResolverSetup) (sources : Sources) (state : ResolverState)
    (identity : RuntimeIdentity) : CacheEntry × ResolverState :=
  let state := (state.note .installed (some identity)).pass sources.installed.latency
  match (sources.installed.answer.toOption.bind id).bind setup.usable? with
  | some catalog =>
      let (snapshot, state) := state.publish identity .installed catalog
      (⟨snapshot, none⟩, state)
  | none =>
      let (shared, state) := state.defaultCatalog setup sources
      let (snapshot, state) := state.snapDefault identity shared
      (⟨snapshot, none⟩, state)

def refresh (setup : ResolverSetup) (sources : Sources) (state : ResolverState)
    (identity : RuntimeIdentity) : CacheEntry × ResolverState :=
  if identity.isBeta then state.fallBack setup sources identity
  else
    let previous := state.entry? identity
    let remote := sources.remote identity
    let state := (state.note .remote (some identity)).pass remote.latency
    match remote.answer.toOption.bind setup.usable? with
    | some catalog =>
        let (snapshot, published) := state.publish identity .remote catalog
        (⟨snapshot, some state.clock⟩, published)
    | none =>
        match kept? previous with
        | some entry => (entry, state)
        | none => state.fallBack setup sources identity

def resolve (setup : ResolverSetup) (sources : Sources) (state : ResolverState)
    (identity : RuntimeIdentity) : Snapshot × ResolverState :=
  match state.freshEntry? setup identity with
  | some entry => (entry.snapshot, state)
  | none =>
      let (entry, state) := state.refresh setup sources identity
      (entry.snapshot, { state with cache := state.cache.insert identity entry })

end FeatureCheck.ResolverState
