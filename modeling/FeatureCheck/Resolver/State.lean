import FeatureCheck.Report
import FeatureCheck.Resolver.Sources
import Std.Data.ExtTreeMap

/-!
# Resolver states

A resolver keeps one entry for each identity and the default catalog once it is loaded. Several
requests may be under way; the phase of a request says how far it has come. Snapshots and catalogs
are numbered as they are made, so that one can tell whether two of them are the same.

How many entries and refresh locks are kept is bounded by `maxCachedRuntimes`. That bound is left
out here: which entry goes when there are too many is the choice of the cache. Runs in which entries
are dropped are in `FeatureCheck.Proofs.Resolver.Independence`.
-/

namespace FeatureCheck

set_option autoImplicit false

/-- A catalog that snapshots share. -/
structure SharedCatalog where
  number : Nat
  catalog : Catalog

structure Snapshot where
  number : Nat
  identity : RuntimeIdentity
  source : CatalogSource
  shared : SharedCatalog

structure CacheEntry where
  snapshot : Snapshot
  /-- When the remote source last answered with a catalog; fallbacks have no time. -/
  fetchedAt : Option Nat

namespace CacheEntry

def isFresh (entry : CacheEntry) (delay now : Nat) : Bool :=
  entry.fetchedAt.any fun fetched => now - fetched < delay

end CacheEntry

abbrev Cache := Std.ExtTreeMap RuntimeIdentity CacheEntry

inductive Phase where
  /-- About to look for a fresh entry. -/
  | arriving
  /-- Waits until no other request for the identity is refreshing. -/
  | waiting
  /-- Alone, and about to look for a fresh entry again. -/
  | entering
  /-- The remote source is asked; the entry is the one found before. -/
  | fetching (previous : Option CacheEntry)
  | generating
  | defaulting
  /-- The outcome is about to be kept. -/
  | storing (entry : CacheEntry)
  | done (snapshot : Snapshot)

/-- No other request for the identity may refresh meanwhile. -/
def Phase.isRefreshing : Phase → Bool
  | .arriving | .waiting | .done _ => false
  | .entering | .fetching _ | .generating | .defaulting | .storing _ => true

structure Request where
  identity : RuntimeIdentity
  phase : Phase

inductive DefaultCatalog where
  | unasked
  | asked
  | loaded (shared : SharedCatalog)

inductive SourceKind where
  | remote
  | installed
  | default
  deriving DecidableEq, Repr

structure Call where
  source : SourceKind
  identity : Option RuntimeIdentity
  time : Nat
  deriving DecidableEq, Repr

/-- What does not change while a resolver runs. -/
structure ResolverSetup where
  /-- Milliseconds between two remote fetches for one identity. -/
  delay : Nat
  parse : Bytes → Except (Problem CatalogError) Catalog

structure ResolverState where
  clock : Nat
  cache : Cache
  default : DefaultCatalog
  requests : List Request
  /-- The number of the next snapshot or catalog. -/
  nextNumber : Nat
  withGraph : List Nat
  /-- The calls so far, latest first. -/
  calls : List Call

namespace ResolverState

def initial : ResolverState :=
  ⟨0, ∅, .unasked, [], 0, [], []⟩

def entry? (state : ResolverState) (identity : RuntimeIdentity) : Option CacheEntry :=
  state.cache[identity]?

def freshEntry? (setup : ResolverSetup) (state : ResolverState) (identity : RuntimeIdentity) :
    Option CacheEntry :=
  (state.entry? identity).filter fun entry => entry.isFresh setup.delay state.clock

/-- Some request for the identity is refreshing. -/
def isBusy (state : ResolverState) (identity : RuntimeIdentity) : Bool :=
  state.requests.any fun request =>
    request.identity = identity && request.phase.isRefreshing

def setPhase (state : ResolverState) (index : Nat) (phase : Phase) : ResolverState :=
  { state with
    requests := state.requests.modify index fun request => { request with phase := phase } }

def note (state : ResolverState) (source : SourceKind) (identity : Option RuntimeIdentity) :
    ResolverState :=
  { state with calls := ⟨source, identity, state.clock⟩ :: state.calls }

def callCount (state : ResolverState) (source : SourceKind) : Nat :=
  state.calls.countP fun call => call.source = source

def hasGraph (state : ResolverState) (shared : SharedCatalog) : Bool :=
  state.withGraph.contains shared.number

/-- Has the graph of a catalog made. -/
def makeGraph (state : ResolverState) (shared : SharedCatalog) : ResolverState :=
  if state.hasGraph shared then state
  else { state with withGraph := shared.number :: state.withGraph }

def share (state : ResolverState) (catalog : Catalog) : SharedCatalog × ResolverState :=
  (⟨state.nextNumber, catalog⟩, { state with nextNumber := state.nextNumber + 1 })

def snap (state : ResolverState) (identity : RuntimeIdentity) (source : CatalogSource)
    (shared : SharedCatalog) : Snapshot × ResolverState :=
  (⟨state.nextNumber, identity, source, shared⟩,
    { state with nextNumber := state.nextNumber + 1 })

/-- Makes a snapshot of a new catalog, with its graph. -/
def publish (state : ResolverState) (identity : RuntimeIdentity) (source : CatalogSource)
    (catalog : Catalog) : Snapshot × ResolverState :=
  let (shared, state) := state.share catalog
  (state.makeGraph shared).snap identity source shared

def cachedIdentities (state : ResolverState) : List RuntimeIdentity :=
  state.cache.keys

def source? (state : ResolverState) (identity : RuntimeIdentity) : Option CatalogSource :=
  (state.entry? identity).map (·.snapshot.source)

end ResolverState

end FeatureCheck
