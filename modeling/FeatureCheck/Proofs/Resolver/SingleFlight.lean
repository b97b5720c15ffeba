import FeatureCheck.Proofs.Resolver.Calls
import FeatureCheck.Proofs.Resolver.Retention

/-!
# Single flight

Requests for an identity refresh one at a time. After a fetch that gave a catalog the remote source
is not asked again for the identity until the delay is over, unless all entries are dropped; and a
request that finds an entry younger than the delay is answered with it, without any call:
`fetches_apart`.
-/

namespace FeatureCheck.ResolverState

set_option autoImplicit false

variable {setup : ResolverSetup} {state next fetched final : ResolverState}
  {identity : RuntimeIdentity} {entry : CacheEntry} {phase : Phase} {event : ResolverEvent}
  {events later : List ResolverEvent} {place : Nat} {call : Call} {time : Nat}

theorem freshEntry?_of_lt (hsound : state.Sound) (hentry : state.entry? identity = some entry)
    (htime : entry.fetchedAt = some time) (hyoung : state.clock < time + setup.delay) :
    state.freshEntry? setup identity = some entry := by
  have hle : time ≤ state.clock :=
    (hsound.cached identity entry hentry).fetchedAt_le time htime
  unfold freshEntry?
  rw [hentry, Option.filter_some, if_pos]
  simp only [CacheEntry.isFresh, htime, Option.any_some, decide_eq_true_eq]
  omega

theorem le_of_stale (hsound : state.Sound) (hentry : state.entry? identity = some entry)
    (htime : entry.fetchedAt = some time) (hstale : state.freshEntry? setup identity = none) :
    time + setup.delay ≤ state.clock := by
  by_contra hlt
  have hfresh := freshEntry?_of_lt hsound hentry htime (Nat.lt_of_not_le hlt)
  simp [hfresh] at hstale

/-- The remote source is asked only when what the requests carry is old. -/
theorem Retains.le_time (h : state.Retains identity entry) (hvalid : state.Valid)
    (hasks : Asks setup state next place identity call) (hremote : call.source = .remote)
    (htime : entry.fetchedAt = some time) : time + setup.delay ≤ call.time := by
  cases hasks with
  | remote hentering hstale =>
    obtain ⟨found, hfound, hfollows⟩ :=
      h.caches_of_refreshing hvalid.exclusive hentering rfl (by simp)
    obtain ⟨last, hlast, hle⟩ := hfollows.fetchedAt htime
    have hold := le_of_stale hvalid.sound hfound hlast hstale
    simp only
    omega
  | installed | default => cases hremote

theorem Asks.identity_eq {asked : RuntimeIdentity}
    (h : Asks setup state next place asked call) (hremote : call.source = .remote)
    (hidentity : call.identity = some identity) : asked = identity := by
  cases h with
  | remote => exact Option.some.inj hidentity
  | installed | default => cases hremote

theorem Retains.le_time_of_run (h : state.Retains identity entry) (hvalid : state.Valid)
    (htime : entry.fetchedAt = some time) (hrun : state.run setup events = some final)
    (hevents : .evict ∉ events) :
    ∀ call ∈ final.madeSince state, call.source = .remote → call.identity = some identity →
      time + setup.delay ≤ call.time := by
  -- the calls made so far are part of the invariant, next to what the next call depends on
  have hall := run_induction_of_kept (motive := fun middle =>
    (middle.Retains identity entry ∧ middle.Valid ∧ Grows state middle) ∧
      ∀ call ∈ middle.madeSince state, call.source = .remote → call.identity = some identity →
        time + setup.delay ≤ call.time) hrun hevents ?_ ⟨⟨h, hvalid, .refl state⟩, ?_⟩
  · exact hall.2
  · rintro before event after hevent ⟨⟨hretains, hvalid, hgrows⟩, hmade⟩ hstep
    refine ⟨⟨hretains.step hvalid.exclusive hstep hevent, hvalid.step hstep,
      hgrows.trans hstep.grows⟩, ?_⟩
    intro call hcall hremote hidentity
    rw [madeSince_trans hgrows hstep.grows, List.mem_append] at hcall
    rcases hcall with hnow | hbefore
    · obtain ⟨place, asked, -, hasks⟩ := hstep.asks_of_mem hnow
      obtain rfl := hasks.identity_eq hremote hidentity
      exact hretains.le_time hvalid hasks hremote htime
    · exact hmade call hbefore hremote hidentity
  · simp [madeSince_self]

/-- A fetch that gives a catalog is about to be stored, with the time of the answer. -/
theorem storing_of_remoteAnswers {previous : Option CacheEntry} {answer : RemoteAnswer}
    {catalog : Catalog} (hrequest : state.requests[place]? = some ⟨identity, .fetching previous⟩)
    (husable : answer.toOption.bind setup.usable? = some catalog)
    (hanswer : state.remoteAnswers setup place answer = some fetched) :
    ∃ entry, fetched.requests[place]? = some ⟨identity, .storing entry⟩ ∧
      entry.snapshot.source = .remote ∧ entry.fetchedAt = some state.clock := by
  obtain rfl := Option.some.inj ((remoteAnswers_of_gives hrequest husable).symm.trans hanswer)
  refine ⟨⟨(state.publish identity .remote catalog).1, some state.clock⟩, ?_, rfl, rfl⟩
  exact getElem?_setPhase_self hrequest (requests_publish _ _)

theorem Valid.le_time_of_fetched (hvalid : state.Valid) {previous : Option CacheEntry}
    {answer : RemoteAnswer} {catalog : Catalog}
    (hrequest : state.requests[place]? = some ⟨identity, .fetching previous⟩)
    (husable : answer.toOption.bind setup.usable? = some catalog)
    (hanswer : state.remoteAnswers setup place answer = some fetched)
    (hevents : .evict ∉ later) (hrun : fetched.run setup later = some final) :
    ∀ call ∈ final.madeSince fetched, call.source = .remote → call.identity = some identity →
      state.clock + setup.delay ≤ call.time := by
  obtain ⟨entry, hstoring, hremote, htime⟩ := storing_of_remoteAnswers hrequest husable hanswer
  have hfetched : fetched.Valid := hvalid.step (happens_of_remoteAnswers hanswer)
  have hretains : fetched.Retains identity entry :=
    retains_of_storing hfetched.sound hfetched.exclusive hstoring hremote
  exact hretains.le_time_of_run hfetched htime hrun hevents

/-- A request that is answered at once has called no source, and never will. -/
theorem callsOf_eq_nil_of_fresh (hrun : initial.run setup events = some state)
    (hrequest : state.requests[place]? = some ⟨identity, phase⟩)
    (hphase : phase = .arriving ∨ phase = .entering)
    (hfresh : state.freshEntry? setup identity = some entry)
    (hnext : state.proceed setup place = some next) (hlater : next.run setup later = some final) :
    final.requests[place]? = some ⟨identity, .done entry.snapshot⟩ ∧
      callsOf setup place initial (events ++ .proceed place :: later) = [] := by
  have hserved : next = state.setPhase place (.done entry.snapshot) :=
    Option.some.inj (hnext.symm.trans (proceed_of_fresh hrequest hphase hfresh))
  have hdone : next.requests[place]? = some ⟨identity, .done entry.snapshot⟩ := by
    rw [hserved, getElem?_requests_setPhase, hrequest]
    simp
  have hbefore : callsOf setup place initial events = [] := by
    refine callsOf_eq_nil_of_pending hrun hrequest ?_
    rcases hphase with rfl | rfl <;> rfl
  have hnow : next.madeSince state = [] :=
    madeSince_eq_of_append (by rw [hserved]; rfl)
  obtain ⟨hfinal, hafter⟩ := done_of_run hlater hdone
  refine ⟨hfinal, ?_⟩
  rw [callsOf_append hrun, hbefore]
  simp [callsOf, apply, hnext, hnow, hafter]

/-- In every state of a run: an identity is refreshed by one request at most; once the remote source
has given a catalog for it, it is asked for another only after the delay or an eviction; and a
request that finds an entry within the delay is answered with this entry, without a call. -/
theorem fetches_apart (hrun : initial.run setup events = some state)
    (identity : RuntimeIdentity) :
    (∀ (first second : Nat) (phase phase' : Phase),
      state.requests[first]? = some ⟨identity, phase⟩ →
      state.requests[second]? = some ⟨identity, phase'⟩ →
      phase.isRefreshing = true → phase'.isRefreshing = true → first = second) ∧
    (∀ (place : Nat) (previous : Option CacheEntry) (answer : RemoteAnswer) (catalog : Catalog)
      (fetched : ResolverState),
      state.requests[place]? = some ⟨identity, .fetching previous⟩ →
      answer.toOption.bind setup.usable? = some catalog →
      state.remoteAnswers setup place answer = some fetched →
      ∀ (later : List ResolverEvent) (final : ResolverState),
        .evict ∉ later → fetched.run setup later = some final →
        ∀ call ∈ final.madeSince fetched, call.source = .remote → call.identity = some identity →
          state.clock + setup.delay ≤ call.time) ∧
    (∀ (place : Nat) (phase : Phase) (entry : CacheEntry) (time : Nat),
      state.requests[place]? = some ⟨identity, phase⟩ → phase = .arriving ∨ phase = .entering →
      state.entry? identity = some entry → entry.fetchedAt = some time →
      state.clock < time + setup.delay →
      ∃ next, state.proceed setup place = some next ∧
        ∀ (later : List ResolverEvent) (final : ResolverState),
          next.run setup later = some final →
          final.requests[place]? = some ⟨identity, .done entry.snapshot⟩ ∧
            callsOf setup place initial (events ++ .proceed place :: later) = []) := by
  have hvalid : state.Valid := valid_initial.run hrun
  refine ⟨?_, ?_, ?_⟩
  · intro first second phase phase' hfirst hsecond hphase hphase'
    exact hvalid.exclusive first second _ _ hfirst hsecond rfl hphase hphase'
  · intro place previous answer catalog fetched hrequest husable hanswer later final hevents hlater
    exact hvalid.le_time_of_fetched hrequest husable hanswer hevents hlater
  · intro place phase entry time hrequest hphase hentry htime hyoung
    have hfresh := freshEntry?_of_lt hvalid.sound hentry htime hyoung
    exact ⟨_, proceed_of_fresh hrequest hphase hfresh, fun later final hlater =>
      callsOf_eq_nil_of_fresh hrun hrequest hphase hfresh
        (proceed_of_fresh hrequest hphase hfresh) hlater⟩

/-- Two requests for a release, of which the first awaits the remote source. -/
def sharedFlight : List ResolverEvent := [
  .arrive release, .arrive release, .proceed 0, .proceed 0, .proceed 0, .proceed 1, .pass 7]

/-- Both are answered, and a third request comes when the delay is over. -/
def nextFlight : List ResolverEvent := [
  .proceed 0, .proceed 1, .proceed 1, .pass 100, .arrive release, .proceed 2, .proceed 2,
  .proceed 2]

theorem fetches_apart_release : ∃ state fetched final,
    initial.run briefSetup sharedFlight = some state ∧
    state.remoteAnswers briefSetup 0 (.ok sentCatalog) = some fetched ∧
    fetched.run briefSetup nextFlight = some final ∧
    (final.madeSince fetched).map (·.time) = [107] ∧
    ∀ call ∈ final.madeSince fetched, call.source = .remote → call.identity = some release →
      state.clock + 100 ≤ call.time := by
  have husable : ((Except.ok sentCatalog : RemoteAnswer).toOption.bind
      briefSetup.usable?).isSome = true := by decide +kernel
  obtain ⟨catalog, hcatalog⟩ := Option.isSome_iff_exists.mp husable
  have hrequests : (initial.run briefSetup sharedFlight).map (·.requests) =
      some [⟨release, .fetching none⟩, ⟨release, .waiting⟩] := rfl
  obtain ⟨state, hstate, hrequests⟩ := Option.map_eq_some_iff.mp hrequests
  have hruns : (initial.run briefSetup sharedFlight).any (fun state =>
      (state.remoteAnswers briefSetup 0 (.ok sentCatalog)).any fun fetched =>
        (fetched.run briefSetup nextFlight).any fun final =>
          (final.madeSince fetched).map (·.time) = [107]) = true := by decide +kernel
  rw [hstate, Option.any_some] at hruns
  obtain ⟨fetched, hfetched, hruns⟩ := (Option.any_eq_true _ _).mp hruns
  obtain ⟨final, hfinal, htimes⟩ := (Option.any_eq_true _ _).mp hruns
  refine ⟨state, fetched, final, hstate, hfetched, hfinal, of_decide_eq_true htimes, ?_⟩
  obtain ⟨-, hapart, -⟩ := fetches_apart hstate release
  exact hapart 0 none (.ok sentCatalog) catalog fetched (by rw [hrequests]; rfl) hcatalog hfetched
    nextFlight final (by simp [nextFlight]) hfinal

end FeatureCheck.ResolverState
