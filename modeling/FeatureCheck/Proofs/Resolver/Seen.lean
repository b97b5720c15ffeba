import FeatureCheck.Proofs.Resolver.DefaultCatalog

/-!
# What is seen of an identity

The time, the catalog kept for an identity, the remote calls for it, and how long the default
catalog takes. A request for the identity changes this by what was seen before. Of other identities
it changes no more than the time and how long the default catalog takes: `resolve_spec`.
-/

namespace FeatureCheck

set_option autoImplicit false

/-- Sources by identity and time. The default source always answers the same, however long it
takes. -/
structure Providers where
  remote : RuntimeIdentity → Nat → Delayed RemoteAnswer
  installed : Nat → Delayed InstalledAnswer
  default : RemoteAnswer
  defaultLatency : Nat → Nat

namespace Providers

variable (providers : Providers) (identity : RuntimeIdentity) (time : Nat)

/-- When a refresh that begins at the time asks the installed runtime. -/
def installedTime : Nat :=
  if identity.isBeta then time else time + (providers.remote identity time).latency

/-- When it asks the default source. -/
def defaultTime : Nat :=
  let time := providers.installedTime identity time
  time + (providers.installed time).latency

/-- The sources of a refresh that begins at the time. -/
def sources : Sources where
  remote other := providers.remote other time
  installed := providers.installed (providers.installedTime identity time)
  default := ⟨providers.default, providers.defaultLatency (providers.defaultTime identity time)⟩

theorem sources_of_installedTime {now : Nat} (h : now = providers.installedTime identity time) :
    let sources := providers.sources identity time
    sources.installed = providers.installed now ∧ sources.default =
      ⟨providers.default, providers.defaultLatency (now + sources.installed.latency)⟩ := by
  subst h
  exact ⟨rfl, rfl⟩

end Providers

/-- A catalog that is kept, and when it was fetched. -/
structure KeptCatalog where
  source : CatalogSource
  catalog : Catalog
  fetchedAt : Option Nat

def KeptCatalog.isFresh (kept : KeptCatalog) (delay now : Nat) : Bool :=
  kept.fetchedAt.any fun fetched => now - fetched < delay

def KeptCatalog.content (kept : KeptCatalog) : CatalogSource × Catalog :=
  (kept.source, kept.catalog)

def Snapshot.content (snapshot : Snapshot) : CatalogSource × Catalog :=
  (snapshot.source, snapshot.shared.catalog)

def CacheEntry.kept (entry : CacheEntry) : KeptCatalog :=
  ⟨entry.snapshot.source, entry.snapshot.shared.catalog, entry.fetchedAt⟩

structure Seen where
  clock : Nat
  kept : Option KeptCatalog
  remoteCalls : List Call
  /-- How long the default catalog takes from a time on; once it is loaded, no time. -/
  defaultWait : Nat → Nat

namespace Seen

variable (setup : ResolverSetup) (providers : Providers) (identity : RuntimeIdentity) (seen : Seen)

/-- After a refresh without a remote catalog. -/
def fallBack : Seen :=
  let installed := providers.installed seen.clock
  let time := seen.clock + installed.latency
  match (installed.answer.toOption.bind id).bind setup.usable? with
  | some catalog => { seen with clock := time, kept := some ⟨.installed, catalog, none⟩ }
  | none =>
      let catalog := setup.defaultCatalog providers.default
      { seen with
        clock := time + seen.defaultWait time
        kept := some ⟨if catalog.isEmpty then .empty else .default, catalog, none⟩
        defaultWait := fun _ => 0 }

/-- After a refresh. -/
def refreshed : Seen :=
  if identity.isBeta then seen.fallBack setup providers
  else
    let remote := providers.remote identity seen.clock
    let asked := { seen with
      clock := seen.clock + remote.latency
      remoteCalls := ⟨.remote, some identity, seen.clock⟩ :: seen.remoteCalls }
    match remote.answer.toOption.bind setup.usable? with
    | some catalog => { asked with kept := some ⟨.remote, catalog, some asked.clock⟩ }
    | none =>
        if seen.kept.any (·.source = .remote) then asked else asked.fallBack setup providers

/-- After a request. -/
def resolved : Seen :=
  if seen.kept.any (·.isFresh setup.delay seen.clock) then seen
  else seen.refreshed setup providers identity

end Seen

namespace ResolverState

def remoteCalls (state : ResolverState) (identity : RuntimeIdentity) : List Call :=
  state.calls.filter fun call => call.source = .remote && call.identity = some identity

def defaultWait (providers : Providers) (state : ResolverState) (time : Nat) : Nat :=
  match state.default with
  | .loaded _ => 0
  | .unasked | .asked => providers.defaultLatency time

def seen (providers : Providers) (state : ResolverState) (identity : RuntimeIdentity) : Seen :=
  ⟨state.clock, (state.entry? identity).map (·.kept), state.remoteCalls identity,
    state.defaultWait providers⟩

def withEntry (state : ResolverState) (identity : RuntimeIdentity) (entry : CacheEntry) :
    ResolverState :=
  { state with cache := state.cache.insert identity entry }

variable {setup : ResolverSetup} {providers : Providers} {sources : Sources}
  {state middle next : ResolverState} {identity other : RuntimeIdentity}

/-! ## What a request leaves alone -/

/-- The default catalog is left as it is unless its source is called. -/
def CallsToDefault (state next : ResolverState) : Prop :=
  next.default = state.default ∧ next.callCount .default = state.callCount .default ∨
    state.callCount .default < next.callCount .default

theorem CallsToDefault.trans (h : CallsToDefault state middle) (h' : CallsToDefault middle next) :
    CallsToDefault state next := by
  rcases h with ⟨hsame, hcalls⟩ | hcalls
  · rcases h' with ⟨hsame', hcalls'⟩ | hcalls'
    · exact .inl ⟨hsame'.trans hsame, hcalls'.trans hcalls⟩
    · exact .inr (by omega)
  · right
    rcases h' with ⟨-, hcalls'⟩ | hcalls' <;> omega

/-- The entries are left, and no remote source is called. -/
structure Quiet (state next : ResolverState) : Prop where
  clock : state.clock ≤ next.clock
  cache : next.cache = state.cache
  remoteCalls : ∀ identity, next.remoteCalls identity = state.remoteCalls identity
  default : CallsToDefault state next

theorem Quiet.refl (state : ResolverState) : Quiet state state :=
  ⟨Nat.le_refl _, rfl, fun _ => rfl, .inl ⟨rfl, rfl⟩⟩

theorem Quiet.trans (h : Quiet state middle) (h' : Quiet middle next) : Quiet state next where
  clock := Nat.le_trans h.clock h'.clock
  cache := h'.cache.trans h.cache
  remoteCalls identity := (h'.remoteCalls identity).trans (h.remoteCalls identity)
  default := h.default.trans h'.default

/-- The entries of other identities are left, and the remote source is not called for them. -/
structure SparesOthers (identity : RuntimeIdentity) (state next : ResolverState) : Prop where
  clock : state.clock ≤ next.clock
  entries : ∀ other ≠ identity, next.entry? other = state.entry? other
  remoteCalls : ∀ other ≠ identity, next.remoteCalls other = state.remoteCalls other
  default : CallsToDefault state next

theorem SparesOthers.quiet (h : SparesOthers identity state middle) (h' : Quiet middle next) :
    SparesOthers identity state next where
  clock := Nat.le_trans h.clock h'.clock
  entries other hother := by rw [← h.entries other hother, entry?, h'.cache, entry?]
  remoteCalls other hother := (h'.remoteCalls other).trans (h.remoteCalls other hother)
  default := h.default.trans h'.default

theorem SparesOthers.refl (identity : RuntimeIdentity) (state : ResolverState) :
    SparesOthers identity state state :=
  ⟨Nat.le_refl _, fun _ _ => rfl, fun _ _ => rfl, .inl ⟨rfl, rfl⟩⟩

theorem SparesOthers.withEntry (h : SparesOthers identity state next) (entry : CacheEntry) :
    SparesOthers identity state (next.withEntry identity entry) where
  clock := h.clock
  entries other hother := by
    rw [← h.entries other hother]
    exact getElem?_insert_cache.trans (if_neg hother)
  remoteCalls := h.remoteCalls
  default := h.default

theorem sparesOthers_note_remote :
    SparesOthers identity state (state.note .remote (some identity)) where
  clock := Nat.le_refl _
  entries _ _ := rfl
  remoteCalls other hother := by simp [remoteCalls, note, Ne.symm hother]
  default := .inl ⟨rfl, by simp [callCount, note]⟩

theorem quiet_pass (milliseconds : Nat) : Quiet state (state.pass milliseconds) :=
  ⟨Nat.le_add_right _ _, rfl, fun _ => rfl, .inl ⟨rfl, rfl⟩⟩

theorem quiet_note_installed (asked : Option RuntimeIdentity) :
    Quiet state (state.note .installed asked) where
  clock := Nat.le_refl _
  cache := rfl
  remoteCalls identity := by simp [remoteCalls, note]
  default := .inl ⟨rfl, by simp [callCount, note]⟩

theorem quiet_publish (identity : RuntimeIdentity) (source : CatalogSource) (catalog : Catalog) :
    Quiet state (state.publish identity source catalog).2 where
  clock := by rw [clock_publish]
  cache := by simp [publish, share, snap]
  remoteCalls other := by rw [remoteCalls, calls_publish, remoteCalls]
  default := .inl ⟨default_publish .., by rw [callCount, calls_publish, callCount]⟩

theorem quiet_snapDefault (identity : RuntimeIdentity) (shared : SharedCatalog) :
    Quiet state (state.snapDefault identity shared).2 :=
  ⟨Nat.le_refl _, rfl, fun _ => rfl, .inl ⟨rfl, rfl⟩⟩

theorem clock_loadDefault (answer : RemoteAnswer) :
    (state.loadDefault setup answer).2.clock = state.clock := by
  unfold loadDefault
  split <;> simp [share]

theorem quiet_askDefault (latency : Nat) (answer : RemoteAnswer) :
    Quiet state (((state.note .default none).pass latency).loadDefault setup answer).2 where
  clock := by
    rw [clock_loadDefault]
    exact Nat.le_add_right _ _
  cache := cache_loadDefault answer
  remoteCalls identity := by
    rw [remoteCalls, calls_loadDefault]
    simp [remoteCalls, note, pass]
  default := by
    right
    rw [callCount, callCount, calls_loadDefault]
    simp [note, pass]

theorem defaultWait_of_eq (h : next.default = state.default) :
    next.defaultWait providers = state.defaultWait providers := by
  funext time
  rw [defaultWait, h, defaultWait]

theorem defaultWait_of_loaded {shared : SharedCatalog} (h : state.default = .loaded shared) :
    state.defaultWait providers = fun _ => 0 := by
  funext time
  rw [defaultWait, h]

/-! ## Requests -/

/-- What is seen once an entry is kept. -/
theorem Quiet.seen_withEntry (h : Quiet state next) (entry : CacheEntry) :
    (next.withEntry identity entry).seen providers identity =
      { state.seen providers identity with
        clock := next.clock
        kept := some entry.kept
        defaultWait := next.defaultWait providers } := by
  rw [seen, entry?, withEntry, getElem?_insert_cache, if_pos rfl, seen, ← h.remoteCalls]
  rfl

theorem kept_publish (identity : RuntimeIdentity) (source : CatalogSource) (catalog : Catalog)
    (fetchedAt : Option Nat) :
    (CacheEntry.mk (state.publish identity source catalog).1 fetchedAt).kept =
      ⟨source, catalog, fetchedAt⟩ := by
  simp [CacheEntry.kept, publish, share, snap]

theorem defaultCatalog_spec (hdefaults : state.DefaultsTo (setup.defaultCatalog providers.default))
    (hsource : sources.default = ⟨providers.default, providers.defaultLatency state.clock⟩) :
    let taken := state.defaultCatalog setup sources
    taken.1.catalog = setup.defaultCatalog providers.default ∧
      taken.2.clock = state.clock + state.defaultWait providers state.clock ∧
      taken.2.default = .loaded taken.1 ∧ Quiet state taken.2 := by
  unfold defaultCatalog
  split
  · rename_i shared hloaded
    refine ⟨hdefaults shared hloaded, ?_, hloaded, .refl state⟩
    rw [defaultWait_of_loaded hloaded]
    rfl
  all_goals
    rename_i hunloaded
    rw [hsource]
    refine ⟨catalog_loadDefault _ _, ?_, default_loadDefault _, quiet_askDefault _ _⟩
    rw [clock_loadDefault, defaultWait, hunloaded]
    rfl

theorem fallBack_spec (hdefaults : state.DefaultsTo (setup.defaultCatalog providers.default))
    (hinstalled : sources.installed = providers.installed state.clock)
    (hsource : sources.default = ⟨providers.default,
      providers.defaultLatency (state.clock + sources.installed.latency)⟩) :
    let fallen := state.fallBack setup sources identity
    (fallen.2.withEntry identity fallen.1).seen providers identity =
        (state.seen providers identity).fallBack setup providers ∧
      fallen.2.DefaultsTo (setup.defaultCatalog providers.default) ∧ Quiet state fallen.2 := by
  have hasked : Quiet state
      ((state.note .installed (some identity)).pass sources.installed.latency) :=
    (quiet_note_installed _).trans (quiet_pass _)
  have hclock : (state.seen providers identity).clock = state.clock := rfl
  unfold fallBack Seen.fallBack
  dsimp only
  rw [hclock, ← hinstalled]
  generalize hstate : (state.note .installed (some identity)).pass sources.installed.latency = asked
    at hasked ⊢
  have htime : asked.clock = state.clock + sources.installed.latency := by
    rw [← hstate]
    rfl
  have hdefault : asked.default = state.default := by
    rw [← hstate]
    rfl
  cases (sources.installed.answer.toOption.bind id).bind setup.usable? with
  | some catalog =>
    have hquiet := hasked.trans (quiet_publish identity .installed catalog)
    refine ⟨?_, (hdefaults.of_eq hdefault).publish identity .installed catalog, hquiet⟩
    rw [hquiet.seen_withEntry, clock_publish, htime, kept_publish,
      defaultWait_of_eq ((default_publish ..).trans hdefault)]
    rfl
  | none =>
    obtain ⟨hcatalog, hlater, hloaded, hquiet⟩ :=
      @defaultCatalog_spec setup providers sources asked (hdefaults.of_eq hdefault)
        (htime ▸ hsource)
    generalize asked.defaultCatalog setup sources = taken at *
    have hends := (hasked.trans hquiet).trans (quiet_snapDefault identity taken.1)
    have hkept : (taken.2.snapDefault identity taken.1).2.default = .loaded taken.1 := hloaded
    refine ⟨?_, hcatalog ▸ .of_loaded hkept, hends⟩
    have hwait : (state.seen providers identity).defaultWait = asked.defaultWait providers :=
      (defaultWait_of_eq hdefault).symm
    rw [hends.seen_withEntry, defaultWait_of_loaded hkept, hwait, ← htime, ← hlater, ← hcatalog]
    rfl

theorem isSome_kept? (previous : Option CacheEntry) :
    (kept? previous).isSome = (previous.map (·.kept)).any (·.source = .remote) := by
  cases previous with
  | none => rfl
  | some entry =>
    rw [kept?, Option.isSome_filter]
    rfl

/-- The remote source has been asked and has taken its time. -/
def askRemote (providers : Providers) (state : ResolverState) (identity : RuntimeIdentity) :
    ResolverState :=
  (state.note .remote (some identity)).pass (providers.remote identity state.clock).latency

theorem seen_askRemote : (state.askRemote providers identity).seen providers identity =
    { state.seen providers identity with
      clock := (state.askRemote providers identity).clock
      remoteCalls := ⟨.remote, some identity, state.clock⟩ :: state.remoteCalls identity } := by
  simp only [seen, remoteCalls, askRemote, pass, note, decide_true, Bool.and_true,
    List.filter_cons_of_pos]
  rfl

theorem sparesOthers_askRemote :
    SparesOthers identity state (state.askRemote providers identity) :=
  sparesOthers_note_remote.quiet (quiet_pass _)

theorem refresh_spec (hdefaults : state.DefaultsTo (setup.defaultCatalog providers.default)) :
    let refreshed := state.refresh setup (providers.sources identity state.clock) identity
    (refreshed.2.withEntry identity refreshed.1).seen providers identity =
        (state.seen providers identity).refreshed setup providers identity ∧
      refreshed.2.DefaultsTo (setup.defaultCatalog providers.default) ∧
      SparesOthers identity state refreshed.2 := by
  have hclock : (state.seen providers identity).clock = state.clock := rfl
  have hkept : (state.seen providers identity).kept = (state.entry? identity).map (·.kept) := rfl
  unfold refresh Seen.refreshed
  dsimp only
  rw [hclock, hkept, ← isSome_kept?]
  cases hbeta : identity.isBeta with
  | true =>
    obtain ⟨hinstalled, hdefault⟩ :=
      providers.sources_of_installedTime identity state.clock (if_pos hbeta).symm
    obtain ⟨hseen, hnext, hquiet⟩ :=
      @fallBack_spec setup providers _ state identity hdefaults hinstalled hdefault
    exact ⟨hseen, hnext, (SparesOthers.refl identity state).quiet hquiet⟩
  | false =>
    have hasked : (state.note .remote (some identity)).pass
        ((providers.sources identity state.clock).remote identity).latency =
          state.askRemote providers identity := rfl
    have hanswer : ((providers.sources identity state.clock).remote identity).answer =
        (providers.remote identity state.clock).answer := rfl
    have htime : state.clock + (providers.remote identity state.clock).latency =
        (state.askRemote providers identity).clock := rfl
    have hdefault : (state.askRemote providers identity).DefaultsTo
        (setup.defaultCatalog providers.default) := hdefaults
    have hspares := @sparesOthers_askRemote providers state identity
    have hwait : (state.askRemote providers identity).defaultWait providers =
        state.defaultWait providers := defaultWait_of_eq rfl
    rw [if_neg Bool.false_ne_true, if_neg Bool.false_ne_true, hasked, hanswer, htime]
    cases (providers.remote identity state.clock).answer.toOption.bind setup.usable? with
    | some catalog =>
      have hpublish := @quiet_publish (state.askRemote providers identity) identity .remote catalog
      refine ⟨?_, hdefault.publish identity .remote catalog, hspares.quiet hpublish⟩
      rw [hpublish.seen_withEntry, clock_publish, kept_publish,
        defaultWait_of_eq (default_publish ..), hwait, seen_askRemote]
      rfl
    | none =>
      cases hprevious : kept? (state.entry? identity) with
      | some entry =>
        obtain ⟨hentry, -⟩ := kept?_eq_some_iff.mp hprevious
        refine ⟨?_, hdefault, hspares⟩
        rw [(Quiet.refl _).seen_withEntry, hwait, seen_askRemote, seen, hentry]
        rfl
      | none =>
        obtain ⟨hinstalled, hsource⟩ := providers.sources_of_installedTime identity state.clock
          (htime.symm.trans (if_neg (ne_true_of_eq_false hbeta)).symm)
        obtain ⟨hfallen, hnext, hquiet⟩ := @fallBack_spec setup providers _
          (state.askRemote providers identity) identity hdefault hinstalled hsource
        refine ⟨hfallen.trans ?_, hnext, hspares.quiet hquiet⟩
        rw [seen_askRemote]
        rfl

theorem isFresh_kept (entry : CacheEntry) (delay now : Nat) :
    entry.kept.isFresh delay now = entry.isFresh delay now := rfl

/-- Fresh entries are seen to be fresh. -/
theorem any_isFresh_seen :
    (state.seen providers identity).kept.any
        (·.isFresh setup.delay (state.seen providers identity).clock) =
      (state.freshEntry? setup identity).isSome := by
  rw [seen, freshEntry?]
  cases state.entry? identity with
  | none => rfl
  | some entry =>
    rw [Option.map_some, Option.any_some, isFresh_kept, Option.filter_some]
    cases entry.isFresh setup.delay state.clock <;> rfl

/-- A request changes what is seen of its own identity by what is seen of it, and is answered with
what is kept then. -/
theorem resolve_spec (hdefaults : state.DefaultsTo (setup.defaultCatalog providers.default)) :
    let resolved := state.resolve setup (providers.sources identity state.clock) identity
    resolved.2.seen providers identity =
        (state.seen providers identity).resolved setup providers identity ∧
      (resolved.2.seen providers identity).kept.map (·.content) = some resolved.1.content ∧
      resolved.2.DefaultsTo (setup.defaultCatalog providers.default) ∧
      SparesOthers identity state resolved.2 := by
  have hany := @any_isFresh_seen setup providers state identity
  unfold resolve Seen.resolved
  rw [hany]
  cases hfresh : state.freshEntry? setup identity with
  | some entry =>
    have hentry := (Option.filter_eq_some_iff.mp hfresh).1
    refine ⟨rfl, ?_, hdefaults, .refl identity state⟩
    simp [seen, hentry, CacheEntry.kept, KeptCatalog.content, Snapshot.content]
  | none =>
    obtain ⟨hseen, hnext, hspares⟩ := @refresh_spec setup providers state identity hdefaults
    refine ⟨hseen, ?_, hnext, hspares.withEntry _⟩
    simp [seen, entry?, CacheEntry.kept, KeptCatalog.content, Snapshot.content]

end ResolverState

end FeatureCheck
