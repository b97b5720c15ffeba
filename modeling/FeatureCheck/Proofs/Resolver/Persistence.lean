import FeatureCheck.Proofs.Resolver.Calls
import FeatureCheck.Proofs.Resolver.Retention

/-!
# Remote entries stay

Once an entry from the remote source is kept for an identity, only an eviction leads back to another
source. Later requests are answered with this entry or one from a later fetch and call no source but
the remote one, and a refresh that fails writes back just the entry that is kept: `remote_stays`.
-/

namespace FeatureCheck.ResolverState

set_option autoImplicit false

variable {setup : ResolverSetup} {state next final : ResolverState} {identity : RuntimeIdentity}
  {entry : CacheEntry} {phase : Phase} {event : ResolverEvent} {events later : List ResolverEvent}
  {place : Nat} {answer : RemoteAnswer} {previous : Option CacheEntry}

/-! ## The kept entry -/

/-- An entry from the remote source, or one that follows it, is kept, and requests for its identity
carry nothing else. -/
structure Persists (state : ResolverState) (identity : RuntimeIdentity) (entry : CacheEntry) :
    Prop where
  valid : state.Valid
  retains : state.Retains identity entry
  caches : state.Caches identity entry

theorem Valid.persists (h : state.Valid) (hentry : state.entry? identity = some entry)
    (hremote : entry.snapshot.source = .remote) : state.Persists identity entry :=
  ⟨h, h.coherent identity entry hentry hremote, entry, hentry, .inl rfl⟩

theorem Persists.step (h : state.Persists identity entry)
    (hstep : Happens setup state event next) (hevent : event ≠ .evict) :
    next.Persists identity entry :=
  ⟨h.valid.step hstep, h.retains.step h.valid.exclusive hstep hevent,
    h.retains.caches_step hstep hevent h.caches⟩

theorem Persists.run (h : state.Persists identity entry)
    (hrun : state.run setup events = some final) (hevents : .evict ∉ events) :
    final.Persists identity entry :=
  run_induction_of_kept (motive := fun state => state.Persists identity entry) hrun hevents
    (fun hevent hpersists hstep => hpersists.step hstep hevent) h

/-! ## Answers and calls -/

/-- A request that is answered in the run gets an entry that is kept at that time. -/
theorem Persists.done_of_run (h : state.Persists identity entry)
    (hrun : state.run setup later = some final) (hevents : .evict ∉ later) {snapshot : Snapshot}
    (hdone : final.requests[place]? = some ⟨identity, .done snapshot⟩) :
    state.requests[place]? = some ⟨identity, .done snapshot⟩ ∨
      ∃ earlier middle last, earlier <+: later ∧ state.run setup earlier = some middle ∧
        middle.entry? identity = some last ∧ last.snapshot = snapshot ∧ entry.Follows last := by
  -- forwards, since the state at which the answer is kept is reached by a run from here
  induction later generalizing state with
  | nil => exact .inl (Option.some.inj hrun ▸ hdone)
  | cons event later ih =>
    obtain ⟨next, hnext, hrest⟩ := run_cons_eq_some_iff.mp hrun
    obtain ⟨hevent, hlater⟩ : event ≠ .evict ∧ .evict ∉ later := by
      simpa [eq_comm] using hevents
    have hpersists : next.Persists identity entry := h.step (happens_of_apply hnext) hevent
    rcases ih hpersists hrest hlater with hold | ⟨earlier, middle, last, hearlier, hmiddle, hlast⟩
    · rcases (happens_of_apply hnext).done_cases hold with hbefore | ⟨last, hlast, hsnapshot⟩
      · exact .inl hbefore
      · obtain ⟨kept, hkept, hfollows⟩ := hpersists.caches
        obtain rfl : last = kept := Option.some.inj (hlast.symm.trans hkept)
        refine .inr ⟨[event], next, last, ⟨later, rfl⟩, ?_, hlast, hsnapshot, hfollows⟩
        exact run_cons_eq_some_iff.mpr ⟨next, hnext, rfl⟩
    · refine .inr ⟨event :: earlier, middle, last, List.cons_prefix_cons.mpr ⟨rfl, hearlier⟩, ?_,
        hlast⟩
      exact run_cons_eq_some_iff.mpr ⟨next, hnext, hmiddle⟩

theorem Persists.calls_of_run (h : state.Persists identity entry)
    (hrun : state.run setup events = some final) (hevents : .evict ∉ events)
    (hrequest : final.requests[place]? = some ⟨identity, phase⟩) :
    ∀ call ∈ callsOf setup place state events, call.source = .remote := by
  refine forall_callsOf (motive := fun state => state.Persists identity entry) hrun ?_ h
  rintro before event after hevent hpersists hstep ⟨rest, hrest⟩
  have hnext : after.Persists identity entry :=
    hpersists.step hstep (fun heq => hevents (heq ▸ hevent))
  refine ⟨hnext, fun hmoved call hcall => ?_⟩
  obtain ⟨caller, asked, hcaller, hasks⟩ := hstep.asks_of_mem hcall
  obtain rfl : place = caller := Option.some.inj (hmoved.symm.trans hcaller)
  -- the caller has this identity at the end of the run, hence had it when it called
  obtain ⟨phase', hphase', -⟩ := hasks.not_pending
  obtain ⟨last, hlast⟩ := identity_of_run hrest hphase'
  obtain rfl : asked = identity :=
    congrArg Request.identity (Option.some.inj (hlast.symm.trans hrequest))
  cases hasks with
  | remote => rfl
  | installed hgenerating => exact (hnext.retains.carries place _ hgenerating).elim
  | default hdefaulting => exact (hnext.retains.carries place _ hdefaulting).elim

/-! ## A refresh that fails -/

theorem Valid.previous_eq (h : state.Valid) (hentry : state.entry? identity = some entry)
    (hrequest : state.requests[place]? = some ⟨identity, .fetching previous⟩) :
    previous = some entry := by
  rcases h.attached place identity previous hrequest with hsame | hnone
  · exact hsame.symm.trans hentry
  · simp [hnone] at hentry

theorem remoteAnswers_of_unusable (hremote : entry.snapshot.source = .remote)
    (hrequest : state.requests[place]? = some ⟨identity, .fetching (some entry)⟩)
    (hanswer : answer.toOption.bind setup.usable? = none) :
    state.remoteAnswers setup place answer = some (state.setPhase place (.storing entry)) := by
  have hkept : kept? (some entry) = some entry := kept?_eq_some_iff.mpr ⟨rfl, hremote⟩
  exact remoteAnswers_of_kept hrequest hanswer hkept

/-- The request is about to store the entry that is kept, or has done so. -/
def WritesBack (state : ResolverState) (place : Nat) (identity : RuntimeIdentity)
    (entry : CacheEntry) : Prop :=
  (state.requests[place]? = some ⟨identity, .storing entry⟩ ∧
      state.entry? identity = some entry) ∨
    state.requests[place]? = some ⟨identity, .done entry.snapshot⟩

theorem WritesBack.step (h : state.WritesBack place identity entry)
    (hexclusive : state.Exclusive) (hstep : Happens setup state event next)
    (hevent : event ≠ .evict) : next.WritesBack place identity entry := by
  rcases h with ⟨hstoring, hentry⟩ | hdone
  · by_cases hmoved : event.request? = some place
    · exact .inr (hstep.store hstoring hmoved).2
    · refine .inl ⟨hstep.request_of_ne hstoring hmoved, ?_⟩
      rcases hstep.entry?_cases identity with hsame | ⟨hevict, -⟩ | ⟨other, stored, hother,
        hstored, -⟩
      · exact hsame.trans hentry
      · exact absurd hevict hevent
      · obtain rfl : place = other := hexclusive place other _ _ hstoring hstored rfl rfl rfl
        exact absurd hother hmoved
  · exact .inr (hstep.done hdone).1

theorem WritesBack.run (h : state.WritesBack place identity entry) (hvalid : state.Valid)
    (hrun : state.run setup events = some final) (hevents : .evict ∉ events) :
    final.WritesBack place identity entry := by
  have hall := run_induction_of_kept (motive := fun state =>
    state.Valid ∧ state.WritesBack place identity entry) hrun hevents ?_ ⟨hvalid, h⟩
  · exact hall.2
  rintro before event after hevent ⟨hvalid, hwrites⟩ hstep
  exact ⟨hvalid.step hstep, hwrites.step hvalid.exclusive hstep hevent⟩

/-- Storing the entry that is kept changes no entry. -/
theorem proceed_of_storing (hstoring : state.requests[place]? = some ⟨identity, .storing entry⟩)
    (hentry : state.entry? identity = some entry) :
    ∃ next, state.proceed setup place = some next ∧
      next.requests[place]? = some ⟨identity, .done entry.snapshot⟩ ∧
      ∀ other, next.entry? other = state.entry? other := by
  refine ⟨state.store place identity entry, proceed_storing hstoring, ?_, fun other => ?_⟩
  · simp [store, getElem?_requests_setPhase, hstoring]
  · have hinsert : entry? (state.store place identity entry) other =
        if other = identity then some entry else state.entry? other := getElem?_insert_cache
    rw [hinsert]
    split
    · rename_i heq
      rw [heq, hentry]
    · rfl

/-- From where an entry of the remote source is kept, and as long as nothing is evicted: such an
entry stays, requests are answered with it or a later one and ask no other source, and a refresh
that fails leaves the entry as it is. -/
theorem remote_stays (hrun : initial.run setup events = some state)
    (hentry : state.entry? identity = some entry) (hremote : entry.snapshot.source = .remote) :
    (∀ (later : List ResolverEvent) (final : ResolverState), .evict ∉ later →
      state.run setup later = some final →
      (∃ last, final.entry? identity = some last ∧ last.snapshot.source = .remote ∧
        entry.Follows last) ∧
      (∀ (place : Nat) (snapshot : Snapshot),
        final.requests[place]? = some ⟨identity, .done snapshot⟩ →
        state.requests[place]? = some ⟨identity, .done snapshot⟩ ∨
          ∃ earlier middle last, earlier <+: later ∧ state.run setup earlier = some middle ∧
            middle.entry? identity = some last ∧ last.snapshot = snapshot ∧
            last.snapshot.source = .remote ∧ entry.Follows last) ∧
      ∀ (place : Nat) (phase : Phase), final.requests[place]? = some ⟨identity, phase⟩ →
        ∀ call ∈ callsOf setup place state later, call.source = .remote) ∧
    ∀ (place : Nat) (previous : Option CacheEntry) (answer : RemoteAnswer),
      state.requests[place]? = some ⟨identity, .fetching previous⟩ →
      answer.toOption.bind setup.usable? = none →
      ∃ failed, state.remoteAnswers setup place answer = some failed ∧
        failed.calls = state.calls ∧
        ∀ (later : List ResolverEvent) (final : ResolverState), .evict ∉ later →
          failed.run setup later = some final →
          (final.requests[place]? = some ⟨identity, .storing entry⟩ ∧
            final.entry? identity = some entry ∧
            ∃ stored, final.proceed setup place = some stored ∧
              stored.requests[place]? = some ⟨identity, .done entry.snapshot⟩ ∧
              ∀ other, stored.entry? other = final.entry? other) ∨
          final.requests[place]? = some ⟨identity, .done entry.snapshot⟩ := by
  have hvalid : state.Valid := valid_initial.run hrun
  have hpersists : state.Persists identity entry := hvalid.persists hentry hremote
  refine ⟨?_, ?_⟩
  · intro later final hevents hlater
    refine ⟨?_, ?_, ?_⟩
    · obtain ⟨last, hlast, hfollows⟩ := (hpersists.run hlater hevents).caches
      exact ⟨last, hlast, hfollows.source_eq hremote, hfollows⟩
    · intro place snapshot hdone
      rcases hpersists.done_of_run hlater hevents hdone with hold | ⟨earlier, middle, last,
        hearlier, hmiddle, hlast, hsnapshot, hfollows⟩
      · exact .inl hold
      · exact .inr ⟨earlier, middle, last, hearlier, hmiddle, hlast, hsnapshot,
          hfollows.source_eq hremote, hfollows⟩
    · intro place phase hrequest
      exact hpersists.calls_of_run hlater hevents hrequest
  · intro place previous answer hrequest hanswer
    obtain rfl : previous = some entry := hvalid.previous_eq hentry hrequest
    have hfailed := remoteAnswers_of_unusable hremote hrequest hanswer
    refine ⟨_, hfailed, rfl, fun later final hevents hlater => ?_⟩
    have hwrites : (state.setPhase place (.storing entry)).WritesBack place identity entry :=
      .inl ⟨by simp [getElem?_requests_setPhase, hrequest], hentry⟩
    have hnext := hvalid.step (happens_of_remoteAnswers hfailed)
    rcases hwrites.run hnext hlater hevents with ⟨hstoring, hkept⟩ | hdone
    · exact .inl ⟨hstoring, hkept, proceed_of_storing hstoring hkept⟩
    · exact .inr hdone

def firstFetch : List ResolverEvent := [
  .arrive release, .proceed 0, .proceed 0, .proceed 0, .remoteAnswers 0 (.ok sentCatalog),
  .proceed 0]

/-- A second request asks for the release again when the delay is over. -/
def secondFetch : List ResolverEvent :=
  firstFetch ++ [.pass 100, .arrive release, .proceed 1, .proceed 1, .proceed 1]

/-- The second answer is lost, and the entry keeps the time of the first. -/
theorem remote_stays_release : ∃ state final entry last,
    initial.run briefSetup secondFetch = some state ∧ state.entry? release = some entry ∧
    state.run briefSetup [.remoteAnswers 1 unreachable, .pass 5, .proceed 1] = some final ∧
    final.entry? release = some last ∧ last.fetchedAt = some 0 ∧ final.clock = 105 ∧
    final.callCount .remote = 2 ∧ final.callCount .installed = 0 ∧
    last.snapshot.source = .remote ∧ entry.Follows last := by
  have hruns : (initial.run briefSetup secondFetch).any (fun state =>
      state.source? release = some .remote ∧
        ((state.run briefSetup [.remoteAnswers 1 unreachable, .pass 5, .proceed 1]).any
          fun final => final.clock = 105 ∧ final.callCount .remote = 2 ∧
            final.callCount .installed = 0 ∧
            (final.entry? release).bind (·.fetchedAt) = some 0) = true) = true := by
    decide +kernel
  obtain ⟨state, hstate, hruns⟩ := (Option.any_eq_true _ _).mp hruns
  obtain ⟨hsource, hruns⟩ := of_decide_eq_true hruns
  obtain ⟨entry, hentry, hremote⟩ := Option.map_eq_some_iff.mp hsource
  obtain ⟨final, hfinal, hruns⟩ := (Option.any_eq_true _ _).mp hruns
  obtain ⟨hclock, hfetches, hinstalled, htime⟩ := of_decide_eq_true hruns
  obtain ⟨hstays, -⟩ := remote_stays hstate hentry hremote
  obtain ⟨⟨last, hlast, hsame, hfollows⟩, -⟩ := hstays _ final (by simp) hfinal
  rw [hlast, Option.bind_some] at htime
  exact ⟨state, final, entry, last, hstate, hentry, hfinal, hlast, htime, hclock, hfetches,
    hinstalled, hsame, hfollows⟩

end FeatureCheck.ResolverState
