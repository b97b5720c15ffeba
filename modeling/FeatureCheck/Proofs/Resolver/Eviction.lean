import FeatureCheck.Proofs.Resolver.Persistence

/-!
# Evictions

A snapshot that is evicted is neither kept nor returned any more, unless a request is holding it at
that time: a refresh under way puts back what it has found before, if no catalog comes. Whether one
is holding it decides the matter: `evicted_gone_iff`.
-/

namespace FeatureCheck

set_option autoImplicit false

/-- The entry that a request will store unless a catalog comes. -/
def Phase.held? : Phase → Option CacheEntry
  | .fetching previous => ResolverState.kept? previous
  | .storing entry => some entry
  | .arriving | .waiting | .entering | .generating | .defaulting | .done _ => none

namespace ResolverState

variable {setup : ResolverSetup} {state middle next final : ResolverState}
  {identity : RuntimeIdentity} {entry : CacheEntry} {phase phase' : Phase} {event : ResolverEvent}
  {events later : List ResolverEvent} {place number : Nat} {request : Request}

/-- Some request is holding the snapshot of the number. -/
def Holds (state : ResolverState) (number : Nat) : Prop :=
  ∃ request ∈ state.requests, ∃ entry,
    request.phase.held? = some entry ∧ entry.snapshot.number = number

/-- The snapshot of the number is neither kept nor held, and the number is not given again. -/
structure Gone (state : ResolverState) (number : Nat) : Prop where
  not_cached : ∀ identity entry, state.entry? identity = some entry → entry.snapshot.number ≠ number
  not_held : ¬ state.Holds number
  number_lt : number < state.nextNumber

theorem Gone.number_ne_of_held (h : state.Gone number)
    (hrequest : state.requests[place]? = some request) (hheld : request.phase.held? = some entry) :
    entry.snapshot.number ≠ number :=
  fun heq => h.not_held ⟨request, List.mem_of_getElem? hrequest, entry, hheld, heq⟩

theorem Moves.held_cases (h : Moves setup state identity phase phase' middle)
    (hheld : phase'.held? = some entry) :
    phase.held? = some entry ∨ state.entry? identity = some entry ∨
      state.nextNumber ≤ entry.snapshot.number := by
  cases h with
  | serve | wait | enter | serveInside | skipRemote | giveUp | lack | store => cases hheld
  | fetch => exact .inr (.inl (kept?_eq_some_iff.mp hheld).1)
  | keep hremote =>
    obtain rfl := Option.some.inj hheld
    exact .inl (kept?_eq_some_iff.mpr ⟨rfl, hremote⟩)
  | receive | receiveInstalled =>
    obtain rfl := Option.some.inj hheld
    exact .inr (.inr (by simp [publish, share, snap]))
  | takeDefault =>
    obtain rfl := Option.some.inj hheld
    exact .inr (.inr (Nat.le_refl _))

theorem Gone.step (h : state.Gone number) (hstep : Happens setup state event next) :
    next.Gone number where
  not_cached identity entry hentry := by
    rcases hstep.entry?_cases identity with hsame | ⟨-, hnone⟩ | ⟨place, stored, -, hstoring,
      hstored⟩
    · exact h.not_cached identity entry (hsame ▸ hentry)
    · simp [hnone] at hentry
    · obtain rfl := Option.some.inj (hstored.symm.trans hentry)
      exact h.number_ne_of_held hstoring rfl
  not_held := by
    rintro ⟨request, hmem, entry, hheld, hnumber⟩
    obtain ⟨place, hrequest⟩ := List.mem_iff_getElem?.mp hmem
    rcases hstep.request_cases hrequest with hold | ⟨-, harriving, -⟩ | ⟨-, phase, middle, hold,
      hmoves, -⟩
    · exact h.number_ne_of_held hold hheld hnumber
    · simp [harriving, Phase.held?] at hheld
    · -- what the request comes to hold it held before, has found in the cache, or has just made
      have hlt := h.number_lt
      rcases hmoves.held_cases hheld with hbefore | hcached | hnew
      · exact h.number_ne_of_held hold hbefore hnumber
      · exact h.not_cached _ entry hcached hnumber
      · omega
  number_lt := Nat.lt_of_lt_of_le h.number_lt hstep.grows.nextNumber_le

theorem Gone.run (h : state.Gone number) (hrun : state.run setup events = some final) :
    final.Gone number :=
  run_induction (motive := fun state => state.Gone number) hrun
    (fun _ hgone hstep => hgone.step hstep) h

/-- Only requests that have been answered with the snapshot before are answered with it. -/
theorem Gone.done_of_run (h : state.Gone number) (hrun : state.run setup events = some final)
    {snapshot : Snapshot} (hnumber : snapshot.number = number)
    (hdone : final.requests[place]? = some ⟨identity, .done snapshot⟩) :
    state.requests[place]? = some ⟨identity, .done snapshot⟩ := by
  have hall := run_induction (motive := fun middle => middle.Gone number ∧
    (middle.requests[place]? = some ⟨identity, .done snapshot⟩ →
      state.requests[place]? = some ⟨identity, .done snapshot⟩)) hrun ?_ ⟨h, id⟩
  · exact hall.2 hdone
  rintro before event after - ⟨hgone, hbefore⟩ hstep
  refine ⟨hgone.step hstep, fun hafter => ?_⟩
  rcases hstep.done_cases hafter with hold | ⟨last, hlast, rfl⟩
  · exact hbefore hold
  · exact absurd hnumber ((hgone.step hstep).not_cached identity last hlast)

/-- What a request is holding can be stored. -/
theorem exists_run_of_held (setup : ResolverSetup)
    (hrequest : state.requests[place]? = some request) (hheld : request.phase.held? = some entry) :
    ∃ later final, state.run setup later = some final ∧
      final.entry? request.identity = some entry := by
  obtain ⟨identity, phase⟩ := request
  have hstores : ∀ {state : ResolverState},
      state.requests[place]? = some ⟨identity, .storing entry⟩ →
      state.proceed setup place = some (state.store place identity entry) ∧
        entry? (state.store place identity entry) identity = some entry := by
    intro state hstoring
    exact ⟨proceed_storing hstoring, getElem?_insert_cache.trans (if_pos rfl)⟩
  cases phase with
  | storing stored =>
    obtain rfl := Option.some.inj hheld
    obtain ⟨hstore, hstored⟩ := hstores hrequest
    exact ⟨[.proceed place], _, run_cons_eq_some_iff.mpr ⟨_, hstore, rfl⟩, hstored⟩
  | fetching previous =>
    obtain ⟨rfl, hremote⟩ := kept?_eq_some_iff.mp hheld
    have hfailed : state.remoteAnswers setup place (.error ⟨.remote "", none⟩) =
        some (state.setPhase place (.storing entry)) :=
      remoteAnswers_of_unusable hremote hrequest rfl
    have hstoring : (state.setPhase place (.storing entry)).requests[place]? =
        some ⟨identity, .storing entry⟩ := by simp [getElem?_requests_setPhase, hrequest]
    obtain ⟨hstore, hstored⟩ := hstores hstoring
    exact ⟨[.remoteAnswers place (.error ⟨.remote "", none⟩), .proceed place], _,
      run_cons_eq_some_iff.mpr ⟨_, hfailed, run_cons_eq_some_iff.mpr ⟨_, hstore, rfl⟩⟩, hstored⟩
  | arriving | waiting | entering | generating | defaulting | done => cases hheld

/-! ## A request after an eviction -/

theorem grows_defaultCatalog (setup : ResolverSetup) (sources : Sources) (state : ResolverState) :
    Grows state (state.defaultCatalog setup sources).2 := by
  unfold ResolverState.defaultCatalog
  split
  · exact .refl state
  all_goals
    exact ((grows_note _ _).trans (grows_pass _)).trans (grows_loadDefault _)

/-- A fallback is a new snapshot and not from the remote source. -/
theorem fallBack_new (setup : ResolverSetup) (sources : Sources) (state : ResolverState)
    (identity : RuntimeIdentity) :
    (state.fallBack setup sources identity).1.snapshot.source ≠ .remote ∧
      state.nextNumber ≤ (state.fallBack setup sources identity).1.snapshot.number := by
  dsimp only [ResolverState.fallBack]
  split
  · simp [publish, share, snap, note, pass]
  · refine ⟨source_snapDefault_ne_remote, ?_⟩
    exact (grows_defaultCatalog setup sources
      ((state.note .installed (some identity)).pass sources.installed.latency)).nextNumber_le

/-- With all entries dropped, a request is answered with a new snapshot; it is from the remote
source just when that gives a catalog. -/
theorem resolve_evict (setup : ResolverSetup) (sources : Sources) (state : ResolverState)
    (identity : RuntimeIdentity) :
    state.nextNumber ≤ (state.evict.resolve setup sources identity).1.number ∧
      ((state.evict.resolve setup sources identity).1.source = .remote ↔
        identity.isBeta = false ∧
          ((sources.remote identity).answer.toOption.bind setup.usable?).isSome = true) := by
  have hentry : state.evict.entry? identity = none := by simp [evict, entry?]
  have hstale : state.evict.freshEntry? setup identity = none := by simp [hentry, freshEntry?]
  simp only [resolve, hstale, refresh, hentry]
  split
  · rename_i hbeta
    obtain ⟨hsource, hnumber⟩ := fallBack_new setup sources state.evict identity
    exact ⟨hnumber, by simp [hsource, hbeta]⟩
  · rename_i hbeta
    split
    · rename_i catalog hcatalog
      simp [hcatalog, hbeta, publish, share, snap, note, pass, evict]
    · rename_i hnone
      obtain ⟨hsource, hnumber⟩ := fallBack_new setup sources
        ((state.evict.note .remote (some identity)).pass (sources.remote identity).latency) identity
      have hkept : kept? none = none := rfl
      simp only [hkept]
      exact ⟨hnumber, by simp [hsource, hnone]⟩

/-- An evicted snapshot stays away from the cache and from all requests that arrive later, whatever
happens, just when no request is holding it at the eviction. What `resolve` gives after the eviction
is a new snapshot in any case, from the remote source only if that has a catalog; and a request that
is alone is answered so in a run. -/
theorem evicted_gone_iff (hrun : initial.run setup events = some state)
    (hentry : state.entry? identity = some entry) :
    ((∀ (later : List ResolverEvent) (final : ResolverState),
        state.evict.run setup later = some final →
        (∀ other kept, final.entry? other = some kept →
          kept.snapshot.number ≠ entry.snapshot.number) ∧
        ∀ (place : Nat) (other : RuntimeIdentity) (snapshot : Snapshot),
          state.requests.length ≤ place →
          final.requests[place]? = some ⟨other, .done snapshot⟩ →
          snapshot.number ≠ entry.snapshot.number) ↔
      ¬ state.Holds entry.snapshot.number) ∧
    ∀ (sources : Sources) (asked : RuntimeIdentity),
      let resolved := state.evict.resolve setup sources asked
      state.nextNumber ≤ resolved.1.number ∧
        (resolved.1.source = .remote ↔ asked.isBeta = false ∧
          ((sources.remote asked).answer.toOption.bind setup.usable?).isSome = true) ∧
        (state.isBusy asked = false → state.default ≠ .asked →
          Leads setup state.evict (resolved.2.withRequest asked (.done resolved.1))) := by
  refine ⟨⟨?_, ?_⟩, ?_⟩
  · rintro haway ⟨request, hmem, held, hheld, hnumber⟩
    obtain ⟨place, hrequest⟩ := List.mem_iff_getElem?.mp hmem
    have hevicted : state.evict.requests[place]? = some request := hrequest
    obtain ⟨later, final, hlater, hback⟩ := exists_run_of_held setup hevicted hheld
    exact (haway later final hlater).1 request.identity held hback hnumber
  · intro hfree later final hlater
    have hsound : state.Sound := (valid_initial.run hrun).sound
    have hgone : state.evict.Gone entry.snapshot.number :=
      ⟨fun _ _ hkept => by simp [evict, entry?] at hkept, hfree,
        (hsound.cached identity entry hentry).snapshot.number_lt⟩
    refine ⟨(hgone.run hlater).not_cached, ?_⟩
    intro place other snapshot hplace hdone hnumber
    have hbefore : state.requests[place]? = some ⟨other, .done snapshot⟩ :=
      hgone.done_of_run hlater hnumber hdone
    have hnone : state.requests[place]? = none := List.getElem?_eq_none hplace
    simp [hnone] at hbefore
  · intro sources asked
    obtain ⟨hnumber, hsource⟩ := resolve_evict setup sources state asked
    exact ⟨hnumber, hsource, fun hfree hdefault => leads_resolve sources hfree hdefault⟩

/-- The first request is done when the eviction comes. -/
theorem evicted_gone_release : ∃ state entry,
    initial.run briefSetup firstFetch = some state ∧
    state.entry? release = some entry ∧ entry.snapshot.number = 1 ∧
    ¬ state.Holds entry.snapshot.number ∧
    ∀ later final, state.evict.run briefSetup later = some final →
      ∀ other kept, final.entry? other = some kept → kept.snapshot.number ≠ 1 := by
  have hruns : (initial.run briefSetup firstFetch).any (fun state =>
      (state.entry? release).map (·.snapshot.number) = some 1 ∧
        state.requests.all (fun request => request.phase.held?.isNone) = true) = true := by
    decide +kernel
  obtain ⟨state, hstate, hruns⟩ := (Option.any_eq_true _ _).mp hruns
  obtain ⟨hnumber, hnone⟩ := of_decide_eq_true hruns
  obtain ⟨entry, hentry, hnumber⟩ := Option.map_eq_some_iff.mp hnumber
  have hfree : ¬ state.Holds entry.snapshot.number := by
    rintro ⟨request, hmem, held, hheld, -⟩
    simpa [hheld] using List.all_eq_true.mp hnone request hmem
  have haway := (evicted_gone_iff hstate hentry).1.mpr hfree
  exact ⟨state, entry, hstate, hentry, hnumber, hfree,
    fun later final hlater => hnumber ▸ (haway later final hlater).1⟩

/-- What a request is answered with. -/
def answer? (state : ResolverState) (place : Nat) : Option Snapshot :=
  (state.requests[place]?).bind fun request =>
    match request.phase with
    | .done snapshot => some snapshot
    | .arriving | .waiting | .entering | .fetching _ | .generating | .defaulting | .storing _ =>
      none

/-- A refresh that is under way at the eviction fails and puts the evicted snapshot back; a request
that comes later finds the remote source still unreachable and is answered with it. -/
theorem evicted_comes_back : ∃ state final,
    initial.run briefSetup secondFetch = some state ∧
    (state.entry? release).map (·.snapshot.number) = some 1 ∧ state.requests.length = 2 ∧
    state.evict.run briefSetup [.remoteAnswers 1 unreachable, .proceed 1, .arrive release,
      .proceed 2, .proceed 2, .proceed 2, .remoteAnswers 2 unreachable, .proceed 2] = some final ∧
    (final.entry? release).map (·.snapshot.number) = some 1 ∧
    (final.answer? 2).map (·.number) = some 1 ∧ final.callCount .installed = 0 := by
  have hruns : (initial.run briefSetup secondFetch).any (fun state =>
      (state.entry? release).map (·.snapshot.number) = some 1 ∧ state.requests.length = 2 ∧
        ((state.evict.run briefSetup [.remoteAnswers 1 unreachable, .proceed 1, .arrive release,
          .proceed 2, .proceed 2, .proceed 2, .remoteAnswers 2 unreachable, .proceed 2]).any
            fun final => (final.entry? release).map (·.snapshot.number) = some 1 ∧
              (final.answer? 2).map (·.number) = some 1 ∧
              final.callCount .installed = 0) = true) = true := by
    decide +kernel
  obtain ⟨state, hstate, hruns⟩ := (Option.any_eq_true _ _).mp hruns
  obtain ⟨hcached, hlength, hruns⟩ := of_decide_eq_true hruns
  obtain ⟨final, hfinal, hruns⟩ := (Option.any_eq_true _ _).mp hruns
  exact ⟨state, final, hstate, hcached, hlength, hfinal, of_decide_eq_true hruns⟩

end ResolverState

end FeatureCheck
