import FeatureCheck.Proofs.Catalog.Construction
import FeatureCheck.Proofs.Resolver.Calls
import FeatureCheck.Proofs.Resolver.DefaultCatalog

/-!
# What a refresh gives

A refresh goes from one source to the next until one gives a catalog. `Refreshed` has a rule for
each source at which it can end, with the sources that are asked on the way. A refresh while no
other request is under way ends so: `refresh_refreshed`.
-/

namespace FeatureCheck

set_option autoImplicit false

/-- What the sources answer to a refresh, and when the remote source does. The default source may
have answered before. -/
structure Outcomes where
  remote : RemoteAnswer
  time : Nat
  installed : InstalledAnswer
  default : RemoteAnswer

def Sources.outcomes (sources : Sources) (identity : RuntimeIdentity) (time : Nat)
    (default : RemoteAnswer) : Outcomes :=
  ⟨(sources.remote identity).answer, time, sources.installed.answer, default⟩

namespace Outcomes

variable (setup : ResolverSetup) (outcomes : Outcomes)

def bytes? : SourceKind → Option Bytes
  | .remote => outcomes.remote.toOption
  | .installed => outcomes.installed.toOption.bind id
  | .default => outcomes.default.toOption

/-- The bytes of the source arrive and are those of a catalog that has features. -/
def Gives (source : SourceKind) (catalog : Catalog) : Prop :=
  ∃ bytes, outcomes.bytes? source = some bytes ∧ setup.parse bytes = .ok catalog ∧
    catalog.features ≠ []

def Fails (source : SourceKind) : Prop :=
  ∀ catalog, ¬ outcomes.Gives setup source catalog

end Outcomes

structure CacheEntry.Holds (entry : CacheEntry) (identity : RuntimeIdentity)
    (source : CatalogSource) (catalog : Catalog) (fetchedAt : Option Nat) : Prop where
  identity : entry.snapshot.identity = identity
  source : entry.snapshot.source = source
  catalog : entry.snapshot.shared.catalog = catalog
  fetchedAt : entry.fetchedAt = fetchedAt

section Rules

variable (setup : ResolverSetup) (outcomes : Outcomes) (identity : RuntimeIdentity)
  (previous : Option CacheEntry)

/-- No remote catalog is there, new or old; and the sources that are asked to find this out. -/
inductive RemoteLacks : List SourceKind → Prop
  | skipped (hbeta : identity.isBeta = true) : RemoteLacks []
  | failed (hrelease : identity.isBeta = false) (hfails : outcomes.Fails setup .remote)
      (hnone : ∀ entry, previous = some entry → entry.snapshot.source ≠ .remote) :
      RemoteLacks [.remote]

/-- The entry that a refresh ends with, and the sources that it asks in turn. The default catalog
is shared, so its source need not be asked again. -/
inductive Refreshed (default : DefaultCatalog) : CacheEntry → List SourceKind → Prop
  | fetched {entry : CacheEntry} {catalog : Catalog} (hrelease : identity.isBeta = false)
      (hgives : outcomes.Gives setup .remote catalog)
      (hentry : entry.Holds identity .remote catalog (some outcomes.time)) :
      Refreshed default entry [.remote]
  | kept {entry : CacheEntry} (hrelease : identity.isBeta = false)
      (hfails : outcomes.Fails setup .remote) (hprevious : previous = some entry)
      (hremote : entry.snapshot.source = .remote) : Refreshed default entry [.remote]
  | installed {entry : CacheEntry} {catalog : Catalog} {asked : List SourceKind}
      (hlacks : RemoteLacks setup outcomes identity previous asked)
      (hgives : outcomes.Gives setup .installed catalog)
      (hentry : entry.Holds identity .installed catalog none) :
      Refreshed default entry (asked ++ [.installed])
  | default {entry : CacheEntry} {catalog : Catalog} {asked last : List SourceKind}
      (hlacks : RemoteLacks setup outcomes identity previous asked)
      (hfails : outcomes.Fails setup .installed) (hlast : last <+: [.default])
      (hgives : outcomes.Gives setup .default catalog)
      (hentry : entry.Holds identity .default catalog none)
      (hshared : default = .loaded entry.snapshot.shared) :
      Refreshed default entry (asked ++ [.installed] ++ last)
  | empty {entry : CacheEntry} {asked last : List SourceKind}
      (hlacks : RemoteLacks setup outcomes identity previous asked)
      (hfails : outcomes.Fails setup .installed) (hlast : last <+: [.default])
      (hunusable : outcomes.Fails setup .default)
      (hentry : entry.Holds identity .empty .empty none)
      (hshared : default = .loaded entry.snapshot.shared) :
      Refreshed default entry (asked ++ [.installed] ++ last)

end Rules

/-! ## Usable answers -/

variable {setup : ResolverSetup} {outcomes : Outcomes} {identity : RuntimeIdentity}
  {previous : Option CacheEntry}

theorem ResolverSetup.usable?_eq_some_iff {bytes : Bytes} {catalog : Catalog} :
    setup.usable? bytes = some catalog ↔
      setup.parse bytes = .ok catalog ∧ catalog.features ≠ [] := by
  rw [usable?, Option.filter_eq_some_iff, toOption_eq_some_iff]
  refine and_congr_right fun _ => ?_
  simp [Catalog.isEmpty]

namespace Outcomes

variable {source : SourceKind} {catalog : Catalog}

theorem gives_iff : outcomes.Gives setup source catalog ↔
    (outcomes.bytes? source).bind setup.usable? = some catalog := by
  rw [Option.bind_eq_some_iff]
  exact exists_congr fun bytes => and_congr_right fun _ =>
    ResolverSetup.usable?_eq_some_iff.symm

theorem fails_iff : outcomes.Fails setup source ↔
    (outcomes.bytes? source).bind setup.usable? = none := by
  rw [Option.eq_none_iff_forall_ne_some]
  exact forall_congr' fun catalog => not_congr gives_iff

/-- The default catalog has the features that its source gives, if it gives any. -/
theorem defaultCatalog_cases (setup : ResolverSetup) (outcomes : Outcomes) :
    outcomes.Gives setup .default (setup.defaultCatalog outcomes.default) ∨
      outcomes.Fails setup .default ∧ setup.defaultCatalog outcomes.default = .empty := by
  cases hloaded : outcomes.default.toOption.bind fun bytes => (setup.parse bytes).toOption with
  | none =>
    right
    constructor
    · rintro catalog ⟨bytes, hbytes, hparse, -⟩
      rw [show outcomes.default.toOption = some bytes from hbytes, Option.bind_some, hparse]
        at hloaded
      cases hloaded
    · rw [ResolverSetup.defaultCatalog, hloaded]
      rfl
  | some catalog =>
    obtain ⟨bytes, hbytes, hread⟩ := Option.bind_eq_some_iff.mp hloaded
    have hparse : setup.parse bytes = .ok catalog := toOption_eq_some_iff.mp hread
    have hcatalog : setup.defaultCatalog outcomes.default = catalog := by
      rw [ResolverSetup.defaultCatalog, hloaded]
      rfl
    rw [hcatalog]
    by_cases hempty : catalog.features = []
    · right
      refine ⟨?_, Catalog.eq_of_features_eq hempty⟩
      rintro other ⟨bytes', hbytes', hparse', hfilled⟩
      obtain rfl := Option.some.inj (hbytes.symm.trans hbytes')
      obtain rfl := Except.ok.inj (hparse.symm.trans hparse')
      exact hfilled hempty
    · exact .inl ⟨bytes, hbytes, hparse, hempty⟩

end Outcomes

/-- A catalog that is loaded makes the last entry. -/
theorem refreshed_of_loaded {asked last : List SourceKind} {entry : CacheEntry}
    {shared : SharedCatalog} (hlacks : RemoteLacks setup outcomes identity previous asked)
    (hfails : outcomes.Fails setup .installed) (hlast : last <+: [.default])
    (hcatalog : shared.catalog = setup.defaultCatalog outcomes.default)
    (hentry : entry.snapshot.shared = shared)
    (hholds : entry.Holds identity (if shared.catalog.isEmpty then .empty else .default)
      shared.catalog none) :
    Refreshed setup outcomes identity previous (.loaded shared) entry
      (asked ++ [.installed] ++ last) := by
  rcases outcomes.defaultCatalog_cases setup with hgives | ⟨hunusable, hempty⟩
  · rw [← hcatalog] at hgives
    have hfilled : shared.catalog.isEmpty = false := by
      obtain ⟨-, -, -, hfilled⟩ := hgives
      simpa [Catalog.isEmpty] using hfilled
    rw [hfilled] at hholds
    exact .default hlacks hfails hlast hgives hholds (by rw [hentry])
  · rw [hcatalog, hempty] at hholds
    exact .empty hlacks hfails hlast hunusable hholds (by rw [hentry])

/-! ## A refresh by itself -/

namespace ResolverState

variable {sources : Sources} {start state next : ResolverState} {asked : List SourceKind}
  {time : Nat} {answer : RemoteAnswer}

/-- Since the earlier state these sources have been called in turn. -/
def CalledSince (start state : ResolverState) (asked : List SourceKind) : Prop :=
  ∃ made, state.calls = made ++ start.calls ∧ made.reverse.map (·.source) = asked

theorem CalledSince.refl (state : ResolverState) : CalledSince state state [] :=
  ⟨[], rfl, rfl⟩

theorem CalledSince.of_calls_eq (h : CalledSince start state asked)
    (heq : next.calls = state.calls) : CalledSince start next asked := by
  obtain ⟨made, hmade, hasked⟩ := h
  exact ⟨made, heq.trans hmade, hasked⟩

theorem CalledSince.note (h : CalledSince start state asked) (source : SourceKind)
    (whose : Option RuntimeIdentity) :
    CalledSince start (state.note source whose) (asked ++ [source]) := by
  obtain ⟨made, hmade, rfl⟩ := h
  refine ⟨⟨source, whose, state.clock⟩ :: made, ?_, ?_⟩
  · rw [ResolverState.note, hmade, List.cons_append]
  · rw [List.reverse_cons, List.map_append, List.map_singleton]

theorem CalledSince.sources_eq (h : CalledSince start state asked) :
    (state.madeSince start).reverse.map (·.source) = asked := by
  obtain ⟨made, hmade, hasked⟩ := h
  rw [madeSince_eq_of_append hmade, hasked]

theorem holds_publish (identity : RuntimeIdentity) (source : CatalogSource) (catalog : Catalog)
    (fetchedAt : Option Nat) :
    (CacheEntry.mk (state.publish identity source catalog).1 fetchedAt).Holds identity source
      catalog fetchedAt :=
  ⟨rfl, rfl, rfl, rfl⟩

theorem holds_snapDefault (identity : RuntimeIdentity) (shared : SharedCatalog) :
    (CacheEntry.mk (state.snapDefault identity shared).1 none).Holds identity
      (if shared.catalog.isEmpty then .empty else .default) shared.catalog none :=
  ⟨rfl, rfl, rfl, rfl⟩

theorem forall_source_ne_of_kept? (h : kept? previous = none) :
    ∀ entry, previous = some entry → entry.snapshot.source ≠ .remote := by
  intro entry hentry hremote
  rw [kept?_eq_some_iff.mpr ⟨hentry, hremote⟩] at h
  cases h

/-- The default catalog is what is loaded, and its source is asked once at most. -/
theorem defaultCatalog_loaded (hasked : CalledSince start state asked)
    (hdefaults : state.DefaultsTo (setup.defaultCatalog answer))
    (hanswer : (∀ shared, state.default ≠ .loaded shared) → sources.default.answer = answer) :
    let taken := state.defaultCatalog setup sources
    taken.2.default = .loaded taken.1 ∧ taken.1.catalog = setup.defaultCatalog answer ∧
      ∃ last, last <+: [.default] ∧ CalledSince start taken.2 (asked ++ last) := by
  unfold defaultCatalog
  split
  · rename_i shared hloaded
    refine ⟨hloaded, hdefaults shared hloaded, [], List.nil_prefix, ?_⟩
    rwa [List.append_nil]
  all_goals
    rename_i hunloaded
    have hsame : sources.default.answer = answer := by
      refine hanswer fun shared hloaded => ?_
      rw [hunloaded] at hloaded
      cases hloaded
    refine ⟨default_loadDefault _, hsame ▸ catalog_loadDefault _ _, [.default], List.prefix_rfl, ?_⟩
    exact (hasked.note .default none).of_calls_eq (calls_loadDefault _)

theorem fallBack_refreshed
    (hlacks : RemoteLacks setup (sources.outcomes identity time answer) identity previous asked)
    (hasked : CalledSince start state asked)
    (hdefaults : state.DefaultsTo (setup.defaultCatalog answer))
    (hanswer : (∀ shared, state.default ≠ .loaded shared) → sources.default.answer = answer) :
    let fallen := state.fallBack setup sources identity
    ∃ calls, CalledSince start fallen.2 calls ∧
      Refreshed setup (sources.outcomes identity time answer) identity previous fallen.2.default
        fallen.1 calls := by
  have hnoted : CalledSince start
      ((state.note .installed (some identity)).pass sources.installed.latency)
      (asked ++ [.installed]) :=
    (hasked.note .installed (some identity)).of_calls_eq rfl
  dsimp only [fallBack]
  split
  · rename_i catalog hgives
    exact ⟨_, hnoted.of_calls_eq (calls_publish identity .installed catalog),
      .installed hlacks (Outcomes.gives_iff.mpr hgives) (holds_publish _ _ _ _)⟩
  · rename_i hfails
    obtain ⟨hloaded, hcatalog, last, hlast, hcalled⟩ :=
      defaultCatalog_loaded hnoted (hdefaults.of_eq rfl) hanswer
    refine ⟨_, hcalled.of_calls_eq rfl, ?_⟩
    have hdefault : ∀ shared : SharedCatalog, ∀ state : ResolverState,
        (state.snapDefault identity shared).2.default = state.default := fun _ _ => rfl
    rw [hdefault, hloaded]
    exact refreshed_of_loaded hlacks (Outcomes.fails_iff.mpr hfails) hlast hcatalog rfl
      (holds_snapDefault _ _)

theorem refresh_refreshed (hdefaults : state.DefaultsTo (setup.defaultCatalog answer))
    (hanswer : (∀ shared, state.default ≠ .loaded shared) → sources.default.answer = answer) :
    let refreshed := state.refresh setup sources identity
    let time := state.clock + (sources.remote identity).latency
    ∃ calls, CalledSince state refreshed.2 calls ∧
      Refreshed setup (sources.outcomes identity time answer) identity (state.entry? identity)
        refreshed.2.default refreshed.1 calls := by
  dsimp only [refresh]
  split
  · rename_i hbeta
    exact fallBack_refreshed (.skipped hbeta) (.refl state) hdefaults hanswer
  · rename_i hrelease
    rw [Bool.not_eq_true] at hrelease
    have hnoted : CalledSince state
        ((state.note .remote (some identity)).pass (sources.remote identity).latency) [.remote] :=
      ((CalledSince.refl state).note .remote (some identity)).of_calls_eq rfl
    split
    · rename_i catalog hgives
      exact ⟨_, hnoted.of_calls_eq (calls_publish identity .remote catalog),
        .fetched hrelease (Outcomes.gives_iff.mpr hgives) (holds_publish _ _ _ _)⟩
    · rename_i hfails
      split
      · rename_i entry hkept
        obtain ⟨hprevious, hremote⟩ := kept?_eq_some_iff.mp hkept
        exact ⟨_, hnoted, .kept hrelease (Outcomes.fails_iff.mpr hfails) hprevious hremote⟩
      · rename_i hnone
        exact fallBack_refreshed (.failed hrelease (Outcomes.fails_iff.mpr hfails)
          (forall_source_ne_of_kept? hnone)) hnoted (hdefaults.of_eq rfl) hanswer

end ResolverState

end FeatureCheck
