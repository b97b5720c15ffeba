import FeatureCheck.Engine
import FeatureCheck.Proofs.Resolver.Schedules

/-!
# What entries and snapshots say

In every state of a run, what is kept or returned for an identity is about this identity, says where
its catalog comes from, and has its graph: `Sound`. The updates keep a state sound, hence the steps
do (`Sound.step`), and so does a request that is alone (`Sound.resolve`). A report is unchecked just
when the catalog is empty: `sound_of_run`.
-/

namespace FeatureCheck

set_option autoImplicit false

/-- What holds of a snapshot that is made for an identity. -/
structure Snapshot.Sound (state : ResolverState) (identity : RuntimeIdentity)
    (snapshot : Snapshot) : Prop where
  identity_eq : snapshot.identity = identity
  empty_iff : snapshot.source = .empty ↔ snapshot.shared.catalog.isEmpty = true
  not_remote : identity.isBeta = true → snapshot.source ≠ .remote
  hasGraph : snapshot.shared.catalog.isEmpty = false → state.hasGraph snapshot.shared = true
  number_lt : snapshot.number < state.nextNumber

/-- What holds of an entry that is made for an identity. -/
structure CacheEntry.Sound (state : ResolverState) (identity : RuntimeIdentity)
    (entry : CacheEntry) : Prop where
  snapshot : entry.snapshot.Sound state identity
  fetchedAt_iff : entry.fetchedAt.isSome = true ↔ entry.snapshot.source = .remote
  fetchedAt_le : ∀ time, entry.fetchedAt = some time → time ≤ state.clock

/-- What a request carries with it in a phase is sound. -/
def Phase.Sound (state : ResolverState) (identity : RuntimeIdentity) : Phase → Prop
  | .fetching previous => identity.isBeta = false ∧
      ∀ entry, previous = some entry → entry.Sound state identity
  | .storing entry => entry.Sound state identity
  | .done snapshot => snapshot.Sound state identity
  | .arriving | .waiting | .entering | .generating | .defaulting => True

namespace ResolverState

variable {setup : ResolverSetup} {state middle next : ResolverState}
  {identity : RuntimeIdentity} {phase phase' : Phase} {event : ResolverEvent}
  {events : List ResolverEvent} {index : Nat} {catalog : Catalog} {source : CatalogSource}

structure Sound (state : ResolverState) : Prop where
  cached : ∀ identity entry, state.entry? identity = some entry → entry.Sound state identity
  phases : ∀ request ∈ state.requests, request.phase.Sound state request.identity
  default : ∀ shared, state.default = .loaded shared → shared.catalog.isEmpty = false →
    state.hasGraph shared = true
  calls : ∀ call ∈ state.calls, call.source = .remote →
    ∃ identity, call.identity = some identity ∧ identity.isBeta = false

end ResolverState

open ResolverState

/-! ## Growth -/

theorem Snapshot.Sound.grow {state next : ResolverState} {identity : RuntimeIdentity}
    {snapshot : Snapshot} (h : snapshot.Sound state identity) (hgrows : Grows state next) :
    snapshot.Sound next identity :=
  ⟨h.identity_eq, h.empty_iff, h.not_remote, fun hfilled => hgrows.hasGraph _ (h.hasGraph hfilled),
    Nat.lt_of_lt_of_le h.number_lt hgrows.nextNumber_le⟩

theorem CacheEntry.Sound.grow {state next : ResolverState} {identity : RuntimeIdentity}
    {entry : CacheEntry} (h : entry.Sound state identity) (hgrows : Grows state next) :
    entry.Sound next identity :=
  ⟨h.snapshot.grow hgrows, h.fetchedAt_iff,
    fun time htime => Nat.le_trans (h.fetchedAt_le time htime) hgrows.clock_le⟩

theorem Phase.Sound.grow {state next : ResolverState} {identity : RuntimeIdentity} {phase : Phase}
    (h : phase.Sound state identity) (hgrows : Grows state next) : phase.Sound next identity := by
  cases phase with
  | fetching previous => exact ⟨h.1, fun entry hentry => (h.2 entry hentry).grow hgrows⟩
  | storing entry => exact CacheEntry.Sound.grow h hgrows
  | done snapshot => exact Snapshot.Sound.grow h hgrows
  | arriving | waiting | entering | generating | defaulting => trivial

namespace ResolverState

variable {setup : ResolverSetup} {state middle next : ResolverState}
  {identity : RuntimeIdentity} {phase phase' : Phase} {event : ResolverEvent}
  {events : List ResolverEvent} {index : Nat} {catalog : Catalog} {source : CatalogSource}

/-- A state stays sound when it grows and what is new in it is sound. -/
theorem Sound.grow (h : state.Sound) (hgrows : Grows state next)
    (hcached : ∀ identity entry, next.entry? identity = some entry →
      state.entry? identity = some entry ∨ entry.Sound next identity)
    (hphases : ∀ request ∈ next.requests, request ∈ state.requests ∨
      request.phase.Sound next request.identity)
    (hdefault : ∀ shared, next.default = .loaded shared → state.default = .loaded shared ∨
      (shared.catalog.isEmpty = false → next.hasGraph shared = true))
    (hcalls : ∀ call ∈ next.calls, call ∈ state.calls ∨ (call.source = .remote →
      ∃ identity, call.identity = some identity ∧ identity.isBeta = false)) :
    next.Sound where
  cached identity entry hentry :=
    (hcached identity entry hentry).elim (fun hold => (h.cached identity entry hold).grow hgrows) id
  phases request hrequest :=
    (hphases request hrequest).elim (fun hold => (h.phases request hold).grow hgrows) id
  default shared hshared :=
    (hdefault shared hshared).elim
      (fun hold hfilled => hgrows.hasGraph shared (h.default shared hold hfilled)) id
  calls call hcall :=
    (hcalls call hcall).elim (h.calls call) id

theorem sound_initial : initial.Sound where
  cached identity entry hentry := by simp [initial, entry?] at hentry
  phases request hrequest := by simp [initial] at hrequest
  default shared hshared := by simp [initial] at hshared
  calls call hcall := by simp [initial] at hcall

/-! ## Updates -/

theorem Sound.note (h : state.Sound) {kind : SourceKind} {asked : Option RuntimeIdentity}
    (hremote : kind = .remote → ∃ identity, asked = some identity ∧ identity.isBeta = false) :
    (state.note kind asked).Sound := by
  refine h.grow (grows_note kind asked) (fun _ _ h => .inl h) (fun _ h => .inl h)
    (fun _ h => .inl h) ?_
  intro call hcall
  rcases List.mem_cons.mp hcall with rfl | hold
  · exact .inr hremote
  · exact .inl hold

theorem Sound.pass (h : state.Sound) (milliseconds : Nat) : (state.pass milliseconds).Sound :=
  h.grow (grows_pass milliseconds) (fun _ _ h => .inl h) (fun _ h => .inl h) (fun _ h => .inl h)
    (fun _ h => .inl h)

theorem Sound.makeGraph (h : state.Sound) (shared : SharedCatalog) :
    (state.makeGraph shared).Sound := by
  refine h.grow (grows_makeGraph shared) ?_ ?_ ?_ ?_
  · intro identity entry hentry
    unfold entry? at hentry
    rw [cache_makeGraph] at hentry
    exact .inl hentry
  · intro request hrequest
    rw [requests_makeGraph] at hrequest
    exact .inl hrequest
  · intro other hother
    rw [default_makeGraph] at hother
    exact .inl hother
  · intro call hcall
    rw [calls_makeGraph] at hcall
    exact .inl hcall

theorem Sound.share (h : state.Sound) (catalog : Catalog) : (state.share catalog).2.Sound :=
  h.grow (grows_share catalog) (fun _ _ h => .inl h) (fun _ h => .inl h) (fun _ h => .inl h)
    (fun _ h => .inl h)

theorem Sound.snap (h : state.Sound) (identity : RuntimeIdentity) (source : CatalogSource)
    (shared : SharedCatalog) : (state.snap identity source shared).2.Sound :=
  h.grow (grows_snap source shared) (fun _ _ h => .inl h) (fun _ h => .inl h) (fun _ h => .inl h)
    (fun _ h => .inl h)

theorem Sound.publish (h : state.Sound) (identity : RuntimeIdentity) (source : CatalogSource)
    (catalog : Catalog) : (state.publish identity source catalog).2.Sound :=
  ((h.share catalog).makeGraph _).snap identity source _

theorem Sound.snapDefault (h : state.Sound) (identity : RuntimeIdentity) (shared : SharedCatalog) :
    (state.snapDefault identity shared).2.Sound :=
  h.snap identity _ shared

theorem Sound.setDefault (h : state.Sound) {default : DefaultCatalog}
    (hdefault : ∀ shared, default = .loaded shared → shared.catalog.isEmpty = false →
      state.hasGraph shared = true) :
    Sound { state with default := default } :=
  h.grow ((Grows.refl state).setDefault default) (fun _ _ h => .inl h) (fun _ h => .inl h)
    (fun shared h => .inr (hdefault shared h)) (fun _ h => .inl h)

theorem hasGraph_makeGraph (shared : SharedCatalog) :
    (state.makeGraph shared).hasGraph shared = true := by
  unfold ResolverState.makeGraph
  split
  · assumption
  · simp [hasGraph]

/-- What is loaded as the default has its graph, unless it is empty. -/
theorem hasGraph_loadDefault (setup : ResolverSetup) (state : ResolverState) (answer : RemoteAnswer)
    (hfilled : (state.loadDefault setup answer).1.catalog.isEmpty = false) :
    (state.loadDefault setup answer).2.hasGraph (state.loadDefault setup answer).1 = true := by
  unfold loadDefault at hfilled ⊢
  split at hfilled
  · exact hasGraph_makeGraph _
  · cases hfilled

theorem Sound.loadDefault (h : state.Sound) (answer : RemoteAnswer) :
    (state.loadDefault setup answer).2.Sound := by
  have hgraph := hasGraph_loadDefault setup state answer
  unfold ResolverState.loadDefault at hgraph ⊢
  split at hgraph
  · refine ((h.share _).makeGraph _).setDefault ?_
    intro shared hshared
    obtain rfl := DefaultCatalog.loaded.inj hshared
    exact hgraph
  · refine (h.share .empty).setDefault ?_
    intro shared hshared
    obtain rfl := DefaultCatalog.loaded.inj hshared
    exact hgraph

theorem Sound.insert (h : state.Sound) {entry : CacheEntry} (hentry : entry.Sound state identity) :
    Sound { state with cache := state.cache.insert identity entry } := by
  have hgrows : Grows state { state with cache := state.cache.insert identity entry } :=
    grows_insert identity entry
  refine h.grow hgrows ?_ (fun _ h => .inl h) (fun _ h => .inl h) (fun _ h => .inl h)
  intro other found hfound
  unfold entry? at hfound
  rw [getElem?_insert_cache] at hfound
  split at hfound
  · rename_i heq
    obtain rfl := Option.some.inj hfound
    exact .inr (heq ▸ hentry.grow hgrows)
  · exact .inl hfound

theorem Sound.setPhase (h : state.Sound) {request : Request}
    (hrequest : state.requests[index]? = some request)
    (hphase : phase.Sound state request.identity) : (state.setPhase index phase).Sound := by
  refine h.grow ((Grows.refl state).setPhase index phase) (fun _ _ h => .inl h) ?_
    (fun _ h => .inl h) (fun _ h => .inl h)
  intro other hother
  -- requests are told apart by their places, not by what they are
  obtain ⟨place, hplace⟩ := List.mem_iff_getElem?.mp hother
  rw [getElem?_requests_setPhase, Option.map_eq_some_iff] at hplace
  obtain ⟨old, hold, rfl⟩ := hplace
  split
  · rename_i heq
    subst heq
    obtain rfl := Option.some.inj (hold.symm.trans hrequest)
    exact .inr (hphase.grow ((Grows.refl state).setPhase index phase))
  · exact .inl (List.mem_of_getElem? hold)

/-! ## Snapshots that are made -/

theorem sound_publish (hfilled : catalog.isEmpty = false) (hempty : source ≠ .empty)
    (hbeta : identity.isBeta = true → source ≠ .remote) :
    (state.publish identity source catalog).1.Sound (state.publish identity source catalog).2
      identity where
  identity_eq := rfl
  empty_iff := by
    constructor
    · exact fun h => absurd h hempty
    · intro h
      have hcatalog : catalog.isEmpty = true := h
      simp [hcatalog] at hfilled
  not_remote := hbeta
  hasGraph _ := hasGraph_makeGraph _
  number_lt := Nat.lt_succ_self _

theorem source_snapDefault_ne_remote {shared : SharedCatalog} :
    (state.snapDefault identity shared).1.source ≠ .remote := by
  simp only [snapDefault, snap]
  split <;> simp

theorem sound_snapDefault {shared : SharedCatalog}
    (hgraph : shared.catalog.isEmpty = false → state.hasGraph shared = true) :
    (state.snapDefault identity shared).1.Sound (state.snapDefault identity shared).2
      identity where
  identity_eq := rfl
  empty_iff := by
    simp only [snapDefault, snap]
    split <;> simp_all
  not_remote _ := source_snapDefault_ne_remote
  hasGraph := hgraph
  number_lt := Nat.lt_succ_self _

/-- An entry without a fetch; its snapshot is not from the remote source. -/
theorem sound_fallback {snapshot : Snapshot} (h : snapshot.Sound state identity)
    (hsource : snapshot.source ≠ .remote) : CacheEntry.Sound state identity ⟨snapshot, none⟩ :=
  ⟨h, by simpa using hsource, fun _ htime => by cases htime⟩

/-- An entry of a catalog that was fetched just now. -/
theorem sound_fetched (hfilled : catalog.isEmpty = false) (hbeta : identity.isBeta = false) :
    CacheEntry.Sound (state.publish identity .remote catalog).2 identity
      ⟨(state.publish identity .remote catalog).1, some state.clock⟩ where
  snapshot := sound_publish hfilled (by simp) (fun h => by simp [hbeta] at h)
  fetchedAt_iff := by simp [publish, snap]
  fetchedAt_le time htime := by
    obtain rfl := Option.some.inj htime
    exact (grows_publish _ _).clock_le

theorem sound_generated (hfilled : catalog.isEmpty = false) :
    CacheEntry.Sound (state.publish identity .installed catalog).2 identity
      ⟨(state.publish identity .installed catalog).1, none⟩ :=
  sound_fallback (sound_publish hfilled (by simp) (by simp)) (by simp [publish, snap])

theorem sound_defaulted {shared : SharedCatalog}
    (hgraph : shared.catalog.isEmpty = false → state.hasGraph shared = true) :
    CacheEntry.Sound (state.snapDefault identity shared).2 identity
      ⟨(state.snapDefault identity shared).1, none⟩ :=
  sound_fallback (sound_snapDefault hgraph) source_snapDefault_ne_remote

/-! ## Steps -/

theorem Sound.entry_of_fresh (h : state.Sound) {entry : CacheEntry}
    (hfresh : state.freshEntry? setup identity = some entry) : entry.Sound state identity :=
  h.cached identity entry (Option.filter_eq_some_iff.mp hfresh).1

theorem Moves.sound (h : Moves setup state identity phase phase' middle) (hstate : state.Sound)
    (hphase : phase.Sound state identity) : middle.Sound ∧ phase'.Sound middle identity := by
  cases h with
  | serve hfresh => exact ⟨hstate, (hstate.entry_of_fresh hfresh).snapshot⟩
  | serveInside hfresh => exact ⟨hstate, (hstate.entry_of_fresh hfresh).snapshot⟩
  | wait | enter | lack => exact ⟨hstate, trivial⟩
  | skipRemote | giveUp => exact ⟨hstate.note (by simp), trivial⟩
  | fetch hstale hbeta =>
    refine ⟨hstate.note (fun _ => ⟨identity, rfl, hbeta⟩), hbeta, ?_⟩
    exact fun entry hentry => (hstate.cached identity entry hentry).grow (grows_note _ _)
  | receive hfilled => exact ⟨hstate.publish _ _ _, sound_fetched hfilled hphase.1⟩
  | keep hremote => exact ⟨hstate, hphase.2 _ rfl⟩
  | receiveInstalled hfilled => exact ⟨hstate.publish _ _ _, sound_generated hfilled⟩
  | takeDefault hloaded =>
    exact ⟨hstate.snapDefault _ _, sound_defaulted (hstate.default _ hloaded)⟩
  | store =>
    exact ⟨hstate.insert hphase, hphase.snapshot.grow (grows_insert _ _)⟩

theorem Sound.step (h : state.Sound) (hstep : Happens setup state event next) : next.Sound := by
  cases hstep with
  | arrive identity =>
    refine h.grow (grows_arrive identity) (fun _ _ h => .inl h) ?_ (fun _ h => .inl h)
      (fun _ h => .inl h)
    intro request hrequest
    rcases List.mem_append.mp hrequest with hold | hnew
    · exact .inl hold
    · obtain rfl := List.mem_singleton.mp hnew
      exact .inr trivial
  | move hevent hrequest hmoves =>
    obtain ⟨hmiddle, hphase⟩ :=
      hmoves.sound h (h.phases _ (List.mem_of_getElem? hrequest))
    exact hmiddle.setPhase (hmoves.keeps.requests ▸ hrequest) hphase
  | askDefault => exact (h.note (by simp)).setDefault (fun _ hshared => by cases hshared)
  | loadDefault => exact h.loadDefault _
  | pass milliseconds => exact h.pass milliseconds
  | evict =>
    refine h.grow grows_evict ?_ (fun _ h => .inl h) (fun _ h => .inl h) (fun _ h => .inl h)
    intro identity entry hentry
    simp [ResolverState.evict, entry?] at hentry

theorem Sound.run {final : ResolverState} (h : state.Sound)
    (hrun : state.run setup events = some final) : final.Sound :=
  run_induction hrun (fun _ hsound hstep => hsound.step hstep) h

/-! ## Schedules -/

theorem grows_dropRequests : Grows state { state with requests := [] } :=
  ⟨Nat.le_refl _, Nat.le_refl _, fun _ h => h, List.suffix_refl _⟩

theorem Sound.dropRequests (h : state.Sound) : Sound { state with requests := [] } :=
  h.grow grows_dropRequests (fun _ _ h => .inl h) (fun _ h => by cases h) (fun _ h => .inl h)
    (fun _ h => .inl h)

theorem Sound.resolveAll (h : state.Sound) (setup : ResolverSetup) (sources : Sources)
    (requests : List (Nat × RuntimeIdentity)) (evictAfter : Option Nat) :
    (Timeline.resolveAll setup sources state requests evictAfter).2.Sound ∧
      ∀ snapshot, some snapshot ∈ (Timeline.resolveAll setup sources state requests evictAfter).1 →
        snapshot.Sound (Timeline.resolveAll setup sources state requests evictAfter).2
          snapshot.identity := by
  obtain ⟨final, ⟨events, hrun⟩, hfinal, hanswers⟩ :=
    Timeline.leads_resolveAll setup sources state requests evictAfter
  have hsound : final.Sound := h.dropRequests.run hrun
  rw [hfinal]
  refine ⟨hsound.dropRequests, fun snapshot hmem => ?_⟩
  obtain ⟨request, hrequest, hdone⟩ := hanswers snapshot hmem
  have hsnapshot : snapshot.Sound final request.identity := by
    simpa [Phase.Sound, hdone] using hsound.phases request hrequest
  exact hsnapshot.identity_eq ▸ hsnapshot.grow grows_dropRequests

/-! ## One request at a time -/

theorem Sound.defaultCatalog (h : state.Sound) (setup : ResolverSetup) (sources : Sources) :
    (state.defaultCatalog setup sources).2.Sound ∧
      ((state.defaultCatalog setup sources).1.catalog.isEmpty = false →
        (state.defaultCatalog setup sources).2.hasGraph
          (state.defaultCatalog setup sources).1 = true) := by
  unfold ResolverState.defaultCatalog
  split
  · rename_i shared hloaded
    exact ⟨h, h.default shared hloaded⟩
  all_goals
    exact ⟨((h.note (by simp)).pass _).loadDefault _, hasGraph_loadDefault _ _ _⟩

theorem Sound.fallBack (h : state.Sound) (setup : ResolverSetup) (sources : Sources)
    (identity : RuntimeIdentity) :
    (state.fallBack setup sources identity).2.Sound ∧
      (state.fallBack setup sources identity).1.Sound
        (state.fallBack setup sources identity).2 identity := by
  have hasked : ((state.note .installed (some identity)).pass sources.installed.latency).Sound :=
    (h.note (by simp)).pass _
  dsimp only [ResolverState.fallBack]
  generalize (state.note .installed (some identity)).pass sources.installed.latency = asked
    at hasked ⊢
  split
  · rename_i catalog hanswer
    obtain ⟨bytes, -, husable⟩ := Option.bind_eq_some_iff.mp hanswer
    exact ⟨hasked.publish identity .installed catalog,
      sound_generated (ResolverSetup.isEmpty_of_usable? husable)⟩
  · obtain ⟨hloaded, hgraph⟩ := hasked.defaultCatalog setup sources
    exact ⟨hloaded.snapDefault identity (asked.defaultCatalog setup sources).1,
      sound_defaulted hgraph⟩

theorem Sound.refresh (h : state.Sound) (setup : ResolverSetup) (sources : Sources)
    (identity : RuntimeIdentity) :
    (state.refresh setup sources identity).2.Sound ∧
      (state.refresh setup sources identity).1.Sound
        (state.refresh setup sources identity).2 identity := by
  unfold ResolverState.refresh
  split
  · exact h.fallBack setup sources identity
  · rename_i hbeta
    have hbeta : identity.isBeta = false := by simpa using hbeta
    have hasked : ((state.note .remote (some identity)).pass
        (sources.remote identity).latency).Sound :=
      (h.note (fun _ => ⟨identity, rfl, hbeta⟩)).pass _
    dsimp only
    split
    · rename_i catalog hanswer
      obtain ⟨bytes, -, husable⟩ := Option.bind_eq_some_iff.mp hanswer
      exact ⟨hasked.publish identity .remote catalog,
        sound_fetched (ResolverSetup.isEmpty_of_usable? husable) hbeta⟩
    · split
      · rename_i entry hkept
        have hentry : state.entry? identity = some entry := (kept?_eq_some_iff.mp hkept).1
        exact ⟨hasked, (h.cached identity entry hentry).grow
          ((grows_note _ _).trans (grows_pass _))⟩
      · exact hasked.fallBack setup sources identity

theorem Sound.resolve (h : state.Sound) (setup : ResolverSetup) (sources : Sources)
    (identity : RuntimeIdentity) :
    (state.resolve setup sources identity).2.Sound ∧
      (state.resolve setup sources identity).1.Sound
        (state.resolve setup sources identity).2 identity := by
  unfold ResolverState.resolve
  split
  · rename_i entry hfresh
    exact ⟨h, (h.entry_of_fresh hfresh).snapshot⟩
  · obtain ⟨hnext, hentry⟩ := h.refresh setup sources identity
    exact ⟨hnext.insert hentry, hentry.snapshot.grow (grows_insert _ _)⟩

end ResolverState

/-! ## Reports -/

/-- The report on declarations that are checked against a snapshot. -/
def Engine.reportOn (engine : Engine) (identity : RuntimeIdentity) (snapshot : Snapshot)
    (declarations : Declarations) : Report :=
  ⟨identity, snapshot.source, validate engine.tables snapshot.shared.catalog declarations⟩

theorem Engine.check_eq_reportOn (engine : Engine) (state : ResolverState)
    (identity : RuntimeIdentity) (declarations : Declarations) :
    (engine.check state identity declarations).1 =
      engine.reportOn identity (state.resolve engine.setup engine.sources identity).1
        declarations :=
  rfl

/-- A report says that nothing was checked just when its catalog is empty, and then it has no
findings. -/
structure Report.Reflects (report : Report) (catalog : Catalog) : Prop where
  isUnchecked_iff : report.isUnchecked = true ↔ catalog.isEmpty = true
  findings_eq_nil : report.isUnchecked = true → report.findings = []

theorem Engine.reflects_reportOn (engine : Engine) {state : ResolverState}
    {identity : RuntimeIdentity} {snapshot : Snapshot} (h : snapshot.Sound state identity)
    (declarations : Declarations) :
    (engine.reportOn identity snapshot declarations).Reflects snapshot.shared.catalog := by
  have hiff : (engine.reportOn identity snapshot declarations).isUnchecked = true ↔
      snapshot.shared.catalog.isEmpty = true :=
    decide_eq_true_iff.trans h.empty_iff
  refine ⟨hiff, fun hunchecked => ?_⟩
  simp [reportOn, validate, hiff.mp hunchecked]

namespace ResolverState

/-- Whatever requests, answers, failures and evictions there have been: what is kept and what is
returned is sound, betas have never been asked for at the remote source, and reports say whether
there was a catalog. -/
theorem sound_of_run {setup : ResolverSetup} {events : List ResolverEvent} {state : ResolverState}
    (h : initial.run setup events = some state) :
    (∀ identity entry, state.entry? identity = some entry → entry.Sound state identity) ∧
    (∀ request ∈ state.requests, ∀ snapshot, request.phase = .done snapshot →
      snapshot.Sound state request.identity ∧
      ∀ (engine : Engine) (declarations : Declarations),
        (engine.reportOn request.identity snapshot declarations).Reflects
          snapshot.shared.catalog) ∧
    (∀ call ∈ state.calls, call.source = .remote →
      ∃ identity, call.identity = some identity ∧ identity.isBeta = false) ∧
    (∀ (engine : Engine) (requests : List (Nat × RuntimeIdentity)) (evictAfter : Option Nat),
      let resolved := Timeline.resolveAll engine.setup engine.sources state requests evictAfter
      resolved.2.Sound ∧ ∀ snapshot, some snapshot ∈ resolved.1 →
        snapshot.Sound resolved.2 snapshot.identity) ∧
    ∀ (engine : Engine) (identity : RuntimeIdentity) (declarations : Declarations),
      let resolved := state.resolve engine.setup engine.sources identity
      resolved.2.Sound ∧ resolved.1.Sound resolved.2 identity ∧
        (engine.check state identity declarations).1.Reflects resolved.1.shared.catalog := by
  have hsound : state.Sound := sound_initial.run h
  refine ⟨hsound.cached, ?_, hsound.calls, ?_, ?_⟩
  · intro request hrequest snapshot hdone
    have hsnapshot : snapshot.Sound state request.identity := by
      simpa [Phase.Sound, hdone] using hsound.phases request hrequest
    exact ⟨hsnapshot, fun engine => engine.reflects_reportOn hsnapshot⟩
  · intro engine
    exact hsound.resolveAll engine.setup engine.sources
  · intro engine identity declarations
    obtain ⟨hnext, hsnapshot⟩ := hsound.resolve engine.setup engine.sources identity
    rw [engine.check_eq_reportOn]
    exact ⟨hnext, hsnapshot, engine.reflects_reportOn hsnapshot declarations⟩

/-! ## A release and a beta -/

/-- What a source of catalogs sends. -/
def sentCatalog : Bytes :=
  Text.bytesOf (CatalogEntry.publish [{ shortName := some "servlet-6.0" }])

def unreachable : RemoteAnswer :=
  .error ⟨.remote "unreachable", none⟩

/-- Entries stay fresh for 100 milliseconds. -/
def briefSetup : ResolverSetup := ⟨100, Catalog.parse⟩

def release : RuntimeIdentity := ⟨.ol, "25.0.0.3"⟩

def beta : RuntimeIdentity := ⟨.wlp, "25.0.0.4-beta"⟩

/-- A release is fetched and a beta has only an unreadable default, with an eviction between. -/
def mixedRun : List ResolverEvent := [
  .arrive release, .proceed 0, .proceed 0, .proceed 0,
  .arrive beta, .proceed 1, .proceed 1, .proceed 1, .evict,
  .remoteAnswers 0 (.ok sentCatalog), .installedAnswers 1 (.ok none),
  .pass 5, .proceed 1, .defaultAnswers (.ok []), .proceed 1, .proceed 0, .proceed 1]

theorem sound_of_run_mixedRun : ∃ state, initial.run briefSetup mixedRun = some state ∧
    (state.source? release, state.source? beta) = (some .remote, some .empty) ∧
    (∀ identity entry, state.entry? identity = some entry → entry.Sound state identity) ∧
    ∀ identity declarations,
      ((Engine.mk briefSetup .bundledOnly .standard).check state identity declarations).1.Reflects
        (state.resolve briefSetup .bundledOnly identity).1.shared.catalog := by
  have hsome : (initial.run briefSetup mixedRun).any (fun state =>
      (state.source? release, state.source? beta) = (some .remote, some .empty)) = true := by
    decide +kernel
  obtain ⟨state, hrun, hsources⟩ := (Option.any_eq_true _ _).mp hsome
  obtain ⟨hcached, -, -, -, hchecked⟩ := sound_of_run hrun
  exact ⟨state, hrun, of_decide_eq_true hsources, hcached,
    fun identity declarations => (hchecked _ identity declarations).2.2⟩

end ResolverState

end FeatureCheck
