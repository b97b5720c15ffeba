import FeatureCheck.Proofs.Resolver.Staleness

/-!
# Who shares a fetch

Requests that wait while another one fetches share what it gets: within the delay they are answered
with the same snapshot and call no source (`Shares.run`), and nothing but their own steps is needed
for that (`Shares.answers_pending`). A fetch that fails is shared by none of them: each fetches once
for itself, until one is given a catalog. `shared_unless_failed` has both.
-/

namespace FeatureCheck

set_option autoImplicit false

namespace ResolverState

variable {setup : ResolverSetup} {state middle next final answered : ResolverState}
  {identity : RuntimeIdentity} {entry found : CacheEntry} {phase phase' : Phase}
  {event : ResolverEvent} {events later : List ResolverEvent} {place leader : Nat}
  {answer : RemoteAnswer} {previous : Option CacheEntry}

/-! ## After a fetch that gave a catalog -/

/-- The entry of an identity is all that its requests can be answered with: it is kept, or about to
be kept where nothing fresh is. -/
structure Serves (setup : ResolverSetup) (state : ResolverState) (identity : RuntimeIdentity)
    (entry : CacheEntry) : Prop where
  not_beta : identity.isBeta = false
  carries : ∀ (place : Nat) (phase : Phase), state.requests[place]? = some ⟨identity, phase⟩ →
    phase.isRefreshing = true → phase = .entering ∨ phase = .storing entry
  kept : state.entry? identity = some entry ∨
    (state.freshEntry? setup identity = none ∧
      ∃ place : Nat, state.requests[place]? = some ⟨identity, .storing entry⟩)

theorem Serves.eq_of_fresh (h : Serves setup state identity entry)
    (hfound : state.freshEntry? setup identity = some found) : found = entry := by
  obtain ⟨hentry, -⟩ := freshEntry?_eq_some_iff.mp hfound
  rcases h.kept with hkept | ⟨hnone, -⟩
  · exact Option.some.inj (hentry.symm.trans hkept)
  · rw [hfound] at hnone
    cases hnone

/-- A request that is inside and does not store finds the entry. -/
theorem Serves.fresh_of_entering (h : Serves setup state identity entry)
    (hexclusive : state.Exclusive) (hfresh : entry.isFresh setup.delay state.clock = true)
    (hrequest : state.requests[place]? = some ⟨identity, .entering⟩) :
    state.freshEntry? setup identity = some entry := by
  rcases h.kept with hkept | ⟨-, other, hother⟩
  · exact freshEntry?_eq_some_iff.mpr ⟨hkept, hfresh⟩
  · obtain rfl : place = other := hexclusive place other _ _ hrequest hother rfl rfl rfl
    cases hrequest.symm.trans hother

theorem Serves.moves (h : Serves setup state identity entry) (hexclusive : state.Exclusive)
    (hfresh : entry.isFresh setup.delay state.clock = true)
    (hrequest : state.requests[place]? = some ⟨identity, phase⟩)
    (hmoves : Moves setup state identity phase phase' middle) :
    phase' = .waiting ∨ phase' = .entering ∨ phase' = .done entry.snapshot := by
  have hcarried := h.carries place phase hrequest
  cases hmoves with
  | serve hfound =>
    right; right
    rw [h.eq_of_fresh hfound]
  | wait => exact .inl rfl
  | enter => exact .inr (.inl rfl)
  | serveInside hfound =>
    right; right
    rw [h.eq_of_fresh hfound]
  | skipRemote hstale hbeta =>
    rw [h.not_beta] at hbeta
    cases hbeta
  | fetch hstale =>
    rw [h.fresh_of_entering hexclusive hfresh hrequest] at hstale
    cases hstale
  | receive | keep | giveUp | receiveInstalled | lack | takeDefault =>
    rcases hcarried rfl with hphase | hphase
    · cases hphase
    · cases hphase
  | @store stored =>
    right; right
    rcases hcarried rfl with hphase | hphase
    · cases hphase
    · rw [Phase.storing.inj hphase]

theorem Serves.step (h : Serves setup state identity entry) (hexclusive : state.Exclusive)
    (hstep : Happens setup state event next) (hevent : event ≠ .evict)
    (hfresh : entry.isFresh setup.delay next.clock = true) :
    Serves setup next identity entry where
  not_beta := h.not_beta
  carries place phase hrequest hphase := by
    rcases hstep.request_cases hrequest with hold | ⟨-, harriving, -⟩ | ⟨-, phase', middle, hold,
      hmoves, -⟩
    · exact h.carries place phase hold hphase
    · obtain rfl : phase = .arriving := harriving
      cases hphase
    · have hbefore := isFresh_of_le hstep.grows.clock_le hfresh
      rcases h.moves hexclusive hbefore hold hmoves with hto | hto | hto
      · rw [show phase = .waiting from hto] at hphase
        cases hphase
      · exact .inl hto
      · rw [show phase = .done entry.snapshot from hto] at hphase
        cases hphase
  kept := by
    rcases hstep.entry?_cases identity with hsame | ⟨hevict, -⟩ | ⟨place, stored, -, hstoring,
      hstored⟩
    · rcases h.kept with hkept | ⟨hnone, place, hstoring⟩
      · exact .inl (hsame.trans hkept)
      · by_cases hmoved : event.request? = some place
        · left
          unfold entry?
          rw [(hstep.store hstoring hmoved).1, getElem?_insert_cache, if_pos rfl]
        · right
          refine ⟨freshEntry?_eq_none_iff.mpr ?_, place, hstep.request_of_ne hstoring hmoved⟩
          intro old hold hyoung
          rw [hsame] at hold
          exact freshEntry?_eq_none_iff.mp hnone old hold
            (isFresh_of_le hstep.grows.clock_le hyoung)
    · exact absurd hevict hevent
    · rcases h.carries place _ hstoring rfl with hphase | hphase
      · cases hphase
      · left
        rw [hstored, Phase.storing.inj hphase]

/-- If the request is about the identity, it has not been let in yet or has been answered with the
snapshot. -/
def Served (state : ResolverState) (place : Nat) (identity : RuntimeIdentity)
    (snapshot : Snapshot) : Prop :=
  ∀ phase, state.requests[place]? = some ⟨identity, phase⟩ →
    phase.isPending = true ∨ phase = .done snapshot

theorem Served.step (h : state.Served place identity entry.snapshot)
    (hserves : Serves setup state identity entry) (hexclusive : state.Exclusive)
    (hfresh : entry.isFresh setup.delay state.clock = true)
    (hstep : Happens setup state event next) : next.Served place identity entry.snapshot := by
  intro phase hrequest
  rcases hstep.request_cases hrequest with hold | ⟨-, harriving, -⟩ | ⟨-, phase', middle, hold,
    hmoves, -⟩
  · exact h phase hold
  · left
    rw [show phase = .arriving from harriving]
    rfl
  · rcases hserves.moves hexclusive hfresh hold hmoves with hto | hto | hto
    · exact .inl (by rw [show phase = .waiting from hto]; rfl)
    · exact .inl (by rw [show phase = .entering from hto]; rfl)
    · exact .inr hto

theorem Served.not_asks {snapshot : Snapshot} (h : next.Served place identity snapshot)
    {call : Call} (hasks : Asks setup state next place identity call) : False := by
  cases hasks with
  | remote _ _ hcalling | installed hcalling | default hcalling =>
    rcases h _ hcalling with hpending | hdone
    · cases hpending
    · cases hdone

/-- What a fetch has given is what the requests for the identity are answered with. -/
theorem serves_of_storing (hvalid : state.Valid) (hstale : FoundStale setup state)
    (hrequest : state.requests[leader]? = some ⟨identity, .fetching previous⟩)
    (hstep : Happens setup state event next) (hnext : next.Valid) (hevent : event ≠ .evict)
    (hstoring : next.requests[leader]? = some ⟨identity, .storing entry⟩)
    (hremote : entry.snapshot.source = .remote) : Serves setup next identity entry where
  not_beta := (retains_of_storing hnext.sound hnext.exclusive hstoring hremote).not_beta
  carries place phase hother hphase := by
    obtain rfl : leader = place :=
      hnext.exclusive leader place _ _ hstoring hother rfl rfl hphase
    exact .inr (congrArg Request.phase (Option.some.inj (hother.symm.trans hstoring)))
  kept := by
    refine .inr ⟨freshEntry?_eq_none_iff.mpr fun found hfound hfresh => ?_, leader, hstoring⟩
    have hbefore := isFresh_of_le hstep.grows.clock_le hfresh
    rcases hstep.entry?_cases identity with hsame | ⟨hevict, -⟩ | ⟨other, stored, -, hother, -⟩
    · exact (stale_of_fetching hvalid hstale hrequest).cached found (hsame ▸ hfound) hbefore
    · exact hevent hevict
    · obtain rfl : leader = other :=
        hvalid.exclusive leader other _ _ hrequest hother rfl rfl rfl
      cases hrequest.symm.trans hother

/-- What holds from where a fetch has given the entry, within the delay. -/
structure Shares (setup : ResolverSetup) (state : ResolverState) (identity : RuntimeIdentity)
    (entry : CacheEntry) : Prop where
  serves : Serves setup state identity entry
  exclusive : state.Exclusive
  isFresh : entry.isFresh setup.delay state.clock = true

theorem Shares.step (h : Shares setup state identity entry)
    (hstep : Happens setup state event next) (hevent : event ≠ .evict)
    (hfresh : entry.isFresh setup.delay next.clock = true) : Shares setup next identity entry :=
  ⟨h.serves.step h.exclusive hstep hevent hfresh, h.exclusive.step hstep, hfresh⟩

/-- The step of a request that is served makes no call. -/
theorem Served.madeSince_eq_nil {snapshot : Snapshot}
    (h : next.Served place identity snapshot) (hstep : Happens setup state event next)
    (hmoved : event.request? = some place) (hrun : next.run setup later = some final)
    (hrequest : final.requests[place]? = some ⟨identity, phase⟩) : next.madeSince state = [] := by
  refine List.eq_nil_iff_forall_not_mem.mpr fun call hcall => ?_
  obtain ⟨other, asked, hother, hasks⟩ := hstep.asks_of_mem hcall
  obtain rfl : place = other := Option.some.inj (hmoved.symm.trans hother)
  obtain ⟨phase', hcalling, -⟩ := hasks.not_pending
  obtain ⟨last, hlast⟩ := identity_of_run hrun hcalling
  obtain rfl : identity = asked :=
    congrArg Request.identity (Option.some.inj (hrequest.symm.trans hlast))
  exact h.not_asks hasks

theorem Shares.run (h : Shares setup state identity entry)
    (hrun : state.run setup events = some final) (hevict : .evict ∉ events)
    (hfresh : entry.isFresh setup.delay final.clock = true) :
    Shares setup final identity entry := by
  induction events generalizing state with
  | nil => exact Option.some.inj hrun ▸ h
  | cons event events ih =>
    obtain ⟨next, hnext, hrest⟩ := run_cons_eq_some_iff.mp hrun
    have hevent : event ≠ .evict := fun heq => hevict (heq ▸ List.mem_cons_self)
    have hyoung := isFresh_of_le (grows_of_run hrest).clock_le hfresh
    exact ih (h.step (happens_of_apply hnext) hevent hyoung) hrest
      fun hmem => hevict (List.mem_cons_of_mem event hmem)

/-- Requests that are let in within the delay call no source and get the one snapshot. -/
theorem Shares.served_of_run (h : Shares setup state identity entry)
    (hserved : state.Served place identity entry.snapshot)
    (hrun : state.run setup events = some final) (hevict : .evict ∉ events)
    (hfresh : entry.isFresh setup.delay final.clock = true)
    (hrequest : final.requests[place]? = some ⟨identity, phase⟩) :
    callsOf setup place state events = [] ∧ final.Served place identity entry.snapshot := by
  induction events generalizing state with
  | nil =>
    obtain rfl := Option.some.inj hrun
    exact ⟨rfl, hserved⟩
  | cons event events ih =>
    obtain ⟨next, hnext, hrest⟩ := run_cons_eq_some_iff.mp hrun
    have hevent : event ≠ .evict := fun heq => hevict (heq ▸ List.mem_cons_self)
    have hevents : .evict ∉ events := fun hmem => hevict (List.mem_cons_of_mem event hmem)
    have hstep := happens_of_apply hnext
    have hyoung := isFresh_of_le (grows_of_run hrest).clock_le hfresh
    have hnow := hserved.step h.serves h.exclusive h.isFresh hstep
    obtain ⟨hcalls, hfinal⟩ := ih (h.step hstep hevent hyoung) hnow hrest hevents
    refine ⟨?_, hfinal⟩
    simp only [callsOf, hnext, Option.elim_some, hcalls, List.nil_append]
    split
    · rename_i hmoved
      exact hnow.madeSince_eq_nil hstep hmoved hrest hrequest
    · rfl

/-! ## Answering all who wait -/

/-- The requests alone, without any answer, lead from a state to another. -/
def Proceeds (setup : ResolverSetup) (state next : ResolverState) : Prop :=
  ∃ events : List ResolverEvent, (∀ event ∈ events, ∃ place, event = .proceed place) ∧
    state.run setup events = some next

theorem Proceeds.refl (state : ResolverState) : Proceeds setup state state :=
  ⟨[], nofun, rfl⟩

theorem Proceeds.trans (h : Proceeds setup state middle) (h' : Proceeds setup middle next) :
    Proceeds setup state next := by
  obtain ⟨events, hevents, hrun⟩ := h
  obtain ⟨later, hlater, hrun'⟩ := h'
  refine ⟨events ++ later, fun event hmem => ?_, ?_⟩
  · rcases List.mem_append.mp hmem with hmem | hmem
    · exact hevents event hmem
    · exact hlater event hmem
  · rw [run_append, hrun, Option.bind_some, hrun']

theorem proceeds_of_proceed (h : state.proceed setup place = some next) :
    Proceeds setup state next := by
  refine ⟨[.proceed place], fun event hmem => ⟨place, List.mem_singleton.mp hmem⟩, ?_⟩
  exact run_cons_eq_some_iff.mpr ⟨next, h, rfl⟩

/-- The request has been answered with the snapshot, or is by the next steps of the requests. -/
def AnswersWith (setup : ResolverSetup) (state : ResolverState) (place : Nat)
    (identity : RuntimeIdentity) (snapshot : Snapshot) : Prop :=
  ∃ last, Proceeds setup state last ∧ last.requests[place]? = some ⟨identity, .done snapshot⟩

theorem answersWith_of_done {snapshot : Snapshot}
    (hdone : state.requests[place]? = some ⟨identity, .done snapshot⟩) :
    AnswersWith setup state place identity snapshot :=
  ⟨state, .refl state, hdone⟩

theorem AnswersWith.of_proceed {snapshot : Snapshot} {other : Nat}
    (h : AnswersWith setup next place identity snapshot)
    (hnext : state.proceed setup other = some next) :
    AnswersWith setup state place identity snapshot := by
  obtain ⟨last, hlast, hdone⟩ := h
  exact ⟨last, (proceeds_of_proceed hnext).trans hlast, hdone⟩

theorem Happens.clock_eq (h : Happens setup state event next)
    (hmoved : event.request? = some place) : next.clock = state.clock := by
  cases h with
  | move hevent hrequest hmoves => exact hmoves.keeps.clock
  | askDefault => rfl
  | arrive | loadDefault | pass | evict => cases hmoved

theorem Shares.proceed (h : Shares setup state identity entry)
    (hnext : state.proceed setup place = some next) : Shares setup next identity entry := by
  have hstep := happens_of_proceed hnext
  refine h.step hstep nofun ?_
  rw [hstep.clock_eq rfl]
  exact h.isFresh

/-- The request that is inside is answered by its next step. -/
theorem Shares.proceed_of_refreshing (h : Shares setup state identity entry)
    (hrequest : state.requests[place]? = some ⟨identity, phase⟩)
    (hphase : phase.isRefreshing = true) :
    ∃ next, state.proceed setup place = some next ∧
      next.requests[place]? = some ⟨identity, .done entry.snapshot⟩ := by
  rcases h.serves.carries place phase hrequest hphase with rfl | rfl
  · have hfound := h.serves.fresh_of_entering h.exclusive h.isFresh hrequest
    refine ⟨_, proceed_of_fresh hrequest (.inr rfl) hfound, ?_⟩
    simp [getElem?_requests_setPhase, hrequest]
  · refine ⟨state.store place identity entry, ?_, ?_⟩
    · simp [ResolverState.proceed, hrequest]
    · simp [store, getElem?_requests_setPhase, hrequest]

/-- Once the request that is inside is answered, no other is inside. -/
theorem Exclusive.free_of_done (h : state.Exclusive) (hstep : Happens setup state event next)
    (hevent : event.request? = some place)
    (hrequest : state.requests[place]? = some ⟨identity, phase⟩)
    (hphase : phase.isRefreshing = true) {snapshot : Snapshot}
    (hdone : next.requests[place]? = some ⟨identity, .done snapshot⟩) :
    next.isBusy identity = false := by
  refine isBusy_eq_false_iff.mpr fun request hmem hidentity => ?_
  by_contra hbusy
  have hinside : request.phase.isRefreshing = true := by simpa using hbusy
  obtain ⟨other, hother⟩ := List.mem_iff_getElem?.mp hmem
  have hsame : place = other := by
    rcases hstep.isRefreshing_cases hother hinside with ⟨phase', hold, hrefreshing⟩ | ⟨hlet, -⟩
    · exact h place other _ _ hrequest hold hidentity.symm hphase hrefreshing
    · exact Option.some.inj (hevent.symm.trans hlet)
  subst hsame
  obtain rfl := Option.some.inj (hother.symm.trans hdone)
  cases hinside

theorem Shares.answers_refreshing (h : Shares setup state identity entry)
    (hrequest : state.requests[place]? = some ⟨identity, phase⟩)
    (hphase : phase.isRefreshing = true) :
    AnswersWith setup state place identity entry.snapshot := by
  obtain ⟨next, hnext, hdone⟩ := h.proceed_of_refreshing hrequest hphase
  exact (answersWith_of_done hdone).of_proceed hnext

/-- A request that waits while no other is inside is answered in two steps. -/
theorem Shares.answers_free (h : Shares setup state identity entry)
    (hrequest : state.requests[place]? = some ⟨identity, .waiting⟩)
    (hfree : state.isBusy identity = false) :
    AnswersWith setup state place identity entry.snapshot := by
  have henter : state.proceed setup place = some (state.setPhase place .entering) := by
    simp [ResolverState.proceed, hrequest, hfree]
  have hentering : (state.setPhase place .entering).requests[place]? =
      some ⟨identity, .entering⟩ := by
    simp [getElem?_requests_setPhase, hrequest]
  exact ((h.proceed henter).answers_refreshing hentering rfl).of_proceed henter

theorem Shares.answers_waiting (h : Shares setup state identity entry)
    (hrequest : state.requests[place]? = some ⟨identity, .waiting⟩) :
    AnswersWith setup state place identity entry.snapshot := by
  cases hbusy : state.isBusy identity with
  | false => exact h.answers_free hrequest hbusy
  | true =>
    -- whoever is inside goes first
    obtain ⟨⟨asked, inside⟩, hmem, hholder⟩ := List.any_eq_true.mp hbusy
    obtain ⟨hasked, hinside⟩ : asked = identity ∧ inside.isRefreshing = true := by
      simpa using hholder
    subst hasked
    obtain ⟨holder, hindex⟩ := List.mem_iff_getElem?.mp hmem
    obtain ⟨next, hnext, hdone⟩ := h.proceed_of_refreshing hindex hinside
    have hstep := happens_of_proceed hnext
    have hother : ResolverEvent.request? (.proceed holder) ≠ some place := by
      intro heq
      obtain rfl : holder = place := Option.some.inj heq
      obtain rfl := congrArg Request.phase (Option.some.inj (hindex.symm.trans hrequest))
      cases hinside
    have hfree := h.exclusive.free_of_done hstep rfl hindex hinside hdone
    exact ((h.proceed hnext).answers_free (hstep.request_of_ne hrequest hother) hfree).of_proceed
      hnext

/-- Whoever has not been let in yet is answered with the snapshot without another call. -/
theorem Shares.answers_pending (h : Shares setup state identity entry)
    (hrequest : state.requests[place]? = some ⟨identity, phase⟩)
    (hphase : phase.isPending = true) :
    AnswersWith setup state place identity entry.snapshot := by
  cases phase with
  | arriving =>
    cases hfound : state.freshEntry? setup identity with
    | some found =>
      obtain rfl := h.serves.eq_of_fresh hfound
      have hserve := proceed_of_fresh hrequest (.inl rfl) hfound
      refine (answersWith_of_done ?_).of_proceed hserve
      simp [getElem?_requests_setPhase, hrequest]
    | none =>
      have hwait : state.proceed setup place = some (state.setPhase place .waiting) := by
        simp [ResolverState.proceed, hrequest, hfound]
      have hwaiting : (state.setPhase place .waiting).requests[place]? =
          some ⟨identity, .waiting⟩ := by
        simp [getElem?_requests_setPhase, hrequest]
      exact ((h.proceed hwait).answers_waiting hwaiting).of_proceed hwait
  | waiting => exact h.answers_waiting hrequest
  | entering => exact h.answers_refreshing hrequest rfl
  | fetching | generating | defaulting | storing | done => cases hphase

/-! ## The requests around one fetch -/

theorem catalog_of_remoteAnswers {catalog : Catalog}
    (hrequest : state.requests[leader]? = some ⟨identity, .fetching previous⟩)
    (husable : answer.toOption.bind setup.usable? = some catalog)
    (hanswer : state.remoteAnswers setup leader answer = some next)
    (hstoring : next.requests[leader]? = some ⟨identity, .storing entry⟩) :
    entry.snapshot.shared.catalog = catalog := by
  obtain rfl := Option.some.inj ((remoteAnswers_of_gives hrequest husable).symm.trans hanswer)
  rw [getElem?_setPhase_self hrequest (requests_publish _ _), Option.some.injEq,
    Request.mk.injEq, Phase.storing.injEq] at hstoring
  rw [← hstoring.2]
  rfl

/-- A request that stores an entry is going to, or has been answered with it. -/
theorem storing_or_done (hrun : state.run setup events = some final)
    (hstoring : state.requests[leader]? = some ⟨identity, .storing entry⟩) :
    final.requests[leader]? = some ⟨identity, .storing entry⟩ ∨
      final.requests[leader]? = some ⟨identity, .done entry.snapshot⟩ := by
  refine run_induction (motive := fun state =>
    state.requests[leader]? = some ⟨identity, .storing entry⟩ ∨
      state.requests[leader]? = some ⟨identity, .done entry.snapshot⟩) hrun ?_ (.inl hstoring)
  intro before event after _ hbefore hstep
  rcases hbefore with hold | hdone
  · by_cases hmoved : event.request? = some leader
    · exact .inr (hstep.store hold hmoved).2
    · exact .inl (hstep.request_of_ne hold hmoved)
  · exact .inr (hstep.done hdone).1

theorem fetchesOf_of_fetching (hrun : initial.run setup events = some state)
    (hleader : state.requests[leader]? = some ⟨identity, .fetching previous⟩) :
    fetchesOf setup leader initial events = 1 := by
  have hbeta : identity.isBeta = false :=
    ((sound_initial.run hrun).phases _ (List.mem_of_getElem? hleader)).1
  have hnone : ¬ Passed leader initial := by
    rintro ⟨request, hrequest, -⟩
    simp [initial] at hrequest
  rcases fetches_or_served hrun hnone hleader rfl hbeta with hone | ⟨-, -, -, entry, -, -, -, -,
    hdone⟩
  · exact hone
  · cases hdone

/-- A fetch that gives a catalog gives the one entry that requests are answered with. -/
theorem exists_serves (hrun : initial.run setup events = some state) {catalog : Catalog}
    (hleader : state.requests[leader]? = some ⟨identity, .fetching previous⟩)
    (husable : answer.toOption.bind setup.usable? = some catalog)
    (hanswer : state.remoteAnswers setup leader answer = some answered) :
    ∃ entry, Serves setup answered identity entry ∧ entry.snapshot.source = .remote ∧
      entry.snapshot.shared.catalog = catalog ∧ entry.fetchedAt = some state.clock ∧
      answered.requests[leader]? = some ⟨identity, .storing entry⟩ := by
  have hvalid : state.Valid := valid_initial.run hrun
  have hstep := happens_of_remoteAnswers hanswer
  obtain ⟨entry, hstoring, hremote, htime⟩ := storing_of_remoteAnswers hleader husable hanswer
  refine ⟨entry, ?_, hremote, catalog_of_remoteAnswers hleader husable hanswer hstoring, htime,
    hstoring⟩
  exact serves_of_storing hvalid (foundStale_of_run hrun) hleader hstep (hvalid.step hstep) nofun
    hstoring hremote

theorem isFresh_of_lt {time now : Nat} (htime : entry.fetchedAt = some time) (hle : time ≤ now)
    (hlt : now < time + setup.delay) : entry.isFresh setup.delay now = true := by
  simp only [CacheEntry.isFresh, htime, Option.any_some, decide_eq_true_eq]
  omega

theorem served_of_not_passed {snapshot : Snapshot} (h : ¬ Passed place state) :
    state.Served place identity snapshot := by
  intro phase hrequest
  left
  by_contra hpending
  exact h ⟨_, hrequest, Bool.eq_false_iff.mpr hpending⟩

theorem Shares.answersWith (h : Shares setup state identity entry)
    (hrequest : state.requests[place]? = some ⟨identity, phase⟩)
    (hphase : phase.isPending = true ∨ phase = .storing entry ∨ phase = .done entry.snapshot) :
    AnswersWith setup state place identity entry.snapshot := by
  rcases hphase with hpending | rfl | rfl
  · exact h.answers_pending hrequest hpending
  · exact h.answers_refreshing hrequest rfl
  · exact answersWith_of_done hrequest

theorem AnswersWith.eq_of_done {snapshot other : Snapshot}
    (h : AnswersWith setup state place identity snapshot)
    (hdone : state.requests[place]? = some ⟨identity, .done other⟩) : other = snapshot := by
  obtain ⟨last, ⟨events, -, hrun⟩, hlast⟩ := h
  have hsame := (done_of_run hrun hdone).1.symm.trans hlast
  exact Phase.done.inj (congrArg Request.phase (Option.some.inj hsame))

theorem Shares.answersWith_of_run (h : Shares setup state identity entry)
    (hstoring : state.requests[leader]? = some ⟨identity, .storing entry⟩)
    (hrun : state.run setup events = some final) (hevict : .evict ∉ events)
    (hfresh : entry.isFresh setup.delay final.clock = true)
    (hrequest : final.requests[place]? = some ⟨identity, phase⟩)
    (hwho : place = leader ∨ ¬ Passed place state) :
    AnswersWith setup final place identity entry.snapshot := by
  have hfinal : Shares setup final identity entry := h.run hrun hevict hfresh
  rcases hwho with rfl | hwaits
  · rcases storing_or_done hrun hstoring with hlast | hlast
    · exact hfinal.answersWith hlast (.inr (.inl rfl))
    · exact hfinal.answersWith hlast (.inr (.inr rfl))
  · have hserved := (h.served_of_run (served_of_not_passed hwaits) hrun hevict hfresh hrequest).2
    exact hfinal.answersWith hrequest ((hserved phase hrequest).imp_right .inr)

/-- While no fetch gives a catalog, each request that is let in fetches for itself. -/
theorem Stale.fetchesOf_eq_one (h : Stale setup state identity) (hbeta : identity.isBeta = false)
    (hrun : state.run setup events = some final)
    (hunusable : ∀ place answer, .remoteAnswers place answer ∈ events →
      (∃ phase, final.requests[place]? = some ⟨identity, phase⟩) →
      answer.toOption.bind setup.usable? = none)
    (hwaits : ¬ Passed place state) (hrequest : final.requests[place]? = some ⟨identity, phase⟩)
    (hphase : phase.isPending = false) : fetchesOf setup place state events = 1 := by
  rcases fetches_or_served hrun hwaits hrequest hphase hbeta with hone |
    ⟨before, after, middle, entry, rfl, hmiddle, hafter, hfresh, -⟩
  · exact hone
  · have hmissing : Stale setup middle identity := by
      refine h.run hmiddle fun other given hmem hother => ?_
      obtain ⟨phase', hother⟩ := hother
      exact hunusable other given (List.mem_append_left after hmem) (identity_of_run hafter hother)
    obtain ⟨hentry, hyoung⟩ := freshEntry?_eq_some_iff.mp hfresh
    exact absurd hyoung (hmissing.cached entry hentry)

/-- A run around the answer to a fetch: the request that fetches does so once. If it is given a
catalog, all requests for the identity that are let in within the delay call no source and are
answered with its snapshot. If it is given none, each of them fetches once too, as long as no other
fetch gives one. -/
theorem shared_unless_failed (hrun : initial.run setup events = some state)
    (hleader : state.requests[leader]? = some ⟨identity, .fetching previous⟩)
    (hanswer : state.remoteAnswers setup leader answer = some answered)
    (hlater : answered.run setup later = some final) (hevict : .evict ∉ later) :
    fetchesOf setup leader initial (events ++ .remoteAnswers leader answer :: later) = 1 ∧
    (∀ catalog, answer.toOption.bind setup.usable? = some catalog →
      final.clock < state.clock + setup.delay →
      ∃ snapshot, snapshot.source = .remote ∧ snapshot.shared.catalog = catalog ∧
        ∀ place phase, final.requests[place]? = some ⟨identity, phase⟩ →
          place = leader ∨ ¬ Passed place answered →
          (place ≠ leader →
            callsOf setup place initial (events ++ .remoteAnswers leader answer :: later) = []) ∧
          (∀ other, phase = .done other → other = snapshot) ∧
          AnswersWith setup final place identity snapshot) ∧
    (answer.toOption.bind setup.usable? = none →
      (∀ place given, .remoteAnswers place given ∈ later →
        (∃ phase, final.requests[place]? = some ⟨identity, phase⟩) →
        given.toOption.bind setup.usable? = none) →
      ∀ place phase, final.requests[place]? = some ⟨identity, phase⟩ →
        ¬ Passed place answered → phase.isPending = false →
        fetchesOf setup place initial (events ++ .remoteAnswers leader answer :: later) = 1) := by
  have hvalid : state.Valid := valid_initial.run hrun
  have happly : state.apply setup (.remoteAnswers leader answer) = some answered := hanswer
  have hrest : state.run setup (.remoteAnswers leader answer :: later) = some final :=
    run_cons_eq_some_iff.mpr ⟨answered, happly, hlater⟩
  have hupto : initial.run setup (events ++ [.remoteAnswers leader answer]) = some answered := by
    rw [run_append, hrun, Option.bind_some]
    exact run_cons_eq_some_iff.mpr ⟨answered, happly, rfl⟩
  -- the run up to the answer, in which those who are not let in yet have made no call
  have hsplit : events ++ .remoteAnswers leader answer :: later =
      (events ++ [.remoteAnswers leader answer]) ++ later := by simp
  refine ⟨?_, ?_, ?_⟩
  · rw [fetchesOf_append hrun, fetchesOf_of_fetching hrun hleader,
      fetchesOf_eq_zero_of_passed ⟨_, hleader, rfl⟩ hrest]
  · intro catalog husable hclock
    obtain ⟨entry, hserves, hremote, hcatalog, htime, hstoring⟩ :=
      exists_serves hrun hleader husable hanswer
    have hfresh : entry.isFresh setup.delay final.clock = true :=
      isFresh_of_lt htime (grows_of_run hrest).clock_le hclock
    have hshares : Shares setup answered identity entry :=
      ⟨hserves, (hvalid.step (happens_of_apply happly)).exclusive,
        isFresh_of_le (grows_of_run hlater).clock_le hfresh⟩
    refine ⟨entry.snapshot, hremote, hcatalog, fun place phase hrequest hwho => ?_⟩
    have hanswers := hshares.answersWith_of_run hstoring hlater hevict hfresh hrequest hwho
    refine ⟨fun hother => ?_, ?_, hanswers⟩
    · have hwaits : ¬ Passed place answered := hwho.resolve_left hother
      have hcalls := hshares.served_of_run (served_of_not_passed hwaits) hlater hevict hfresh
        hrequest
      rw [hsplit, callsOf_append hupto, hcalls.1, callsOf_eq_nil_of_not_passed hupto hwaits]
      rfl
    · rintro other rfl
      exact hanswers.eq_of_done hrequest
  · intro hunusable hnone place phase hrequest hwaits hphase
    have hbeta : identity.isBeta = false :=
      (hvalid.sound.phases _ (List.mem_of_getElem? hleader)).1
    have hstale : Stale setup answered identity := by
      refine (stale_of_fetching hvalid (foundStale_of_run hrun) hleader).step happly ?_
      rintro other given hgiven -
      cases hgiven
      exact hunusable
    rw [hsplit, fetchesOf_append hupto,
      hstale.fetchesOf_eq_one hbeta hlater hnone hwaits hrequest hphase, fetchesOf,
      callsOf_eq_nil_of_not_passed hupto hwaits]
    rfl

/-- The one that has fetched stores what it got, and the other is let in. -/
def givenFlight : List ResolverEvent := [.proceed 0, .proceed 1, .proceed 1]

/-- The first request falls back on the default catalog, and then the other one does. No source has
a catalog. -/
def failedFlight : List ResolverEvent := [
  .installedAnswers 0 (.ok none), .proceed 0, .defaultAnswers unreachable, .proceed 0, .proceed 0,
  .proceed 1, .proceed 1, .remoteAnswers 1 unreachable, .installedAnswers 1 (.ok none), .proceed 1,
  .proceed 1]

theorem exists_sharedFlight : ∃ state, initial.run briefSetup sharedFlight = some state ∧
    state.requests = [⟨release, .fetching none⟩, ⟨release, .waiting⟩] ∧ state.clock = 7 :=
  ⟨_, rfl, rfl, rfl⟩

theorem exists_failedFlight : ∃ state answered final first second,
    initial.run briefSetup sharedFlight = some state ∧
    state.remoteAnswers briefSetup 0 unreachable = some answered ∧
    answered.run briefSetup failedFlight = some final ∧
    final.requests = [⟨release, .done first⟩, ⟨release, .done second⟩] ∧
    first.number ≠ second.number ∧ final.clock = 7 ∧ final.callCount .remote = 2 :=
  ⟨_, _, _, _, _, rfl, rfl, rfl, rfl, by decide, rfl, rfl⟩

theorem shared_unless_failed_release :
    (∃ state answered final snapshot, initial.run briefSetup sharedFlight = some state ∧
      state.remoteAnswers briefSetup 0 (.ok sentCatalog) = some answered ∧
      answered.run briefSetup givenFlight = some final ∧
      callsOf briefSetup 1 initial
        (sharedFlight ++ .remoteAnswers 0 (.ok sentCatalog) :: givenFlight) = [] ∧
      AnswersWith briefSetup final 0 release snapshot ∧
      AnswersWith briefSetup final 1 release snapshot) ∧
    fetchesOf briefSetup 0 initial (sharedFlight ++ .remoteAnswers 0 unreachable :: failedFlight) =
      1 ∧
    fetchesOf briefSetup 1 initial (sharedFlight ++ .remoteAnswers 0 unreachable :: failedFlight) =
      1 := by
  obtain ⟨state, hstate, hrequests, hclock⟩ := exists_sharedFlight
  have hleader : state.requests[0]? = some ⟨release, .fetching none⟩ := by rw [hrequests]; rfl
  have hwaiting : state.requests[1]? = some ⟨release, .waiting⟩ := by rw [hrequests]; rfl
  have hwaits : ∀ {answered : ResolverState} {answer : RemoteAnswer},
      state.remoteAnswers briefSetup 0 answer = some answered → ¬ Passed 1 answered := by
    intro answered answer hanswer
    exact not_passed_of_pending
      ((happens_of_remoteAnswers hanswer).request_of_ne hwaiting (by simp [ResolverEvent.request?]))
      rfl
  constructor
  · have husable : ((Except.ok sentCatalog : RemoteAnswer).toOption.bind
        briefSetup.usable?).isSome = true := by decide +kernel
    obtain ⟨catalog, hcatalog⟩ := Option.isSome_iff_exists.mp husable
    have hruns : (initial.run briefSetup sharedFlight).any (fun state =>
        (state.remoteAnswers briefSetup 0 (.ok sentCatalog)).any fun answered =>
          (answered.run briefSetup givenFlight).any fun final => final.clock = 7) = true := by
      decide +kernel
    rw [hstate, Option.any_some] at hruns
    obtain ⟨answered, hanswer, hruns⟩ := (Option.any_eq_true _ _).mp hruns
    obtain ⟨final, hfinal, hnow⟩ := (Option.any_eq_true _ _).mp hruns
    have hrest : state.run briefSetup (.remoteAnswers 0 (.ok sentCatalog) :: givenFlight) =
        some final := run_cons_eq_some_iff.mpr ⟨answered, hanswer, hfinal⟩
    obtain ⟨first, hfirst⟩ := identity_of_run hrest hleader
    obtain ⟨second, hsecond⟩ := identity_of_run hrest hwaiting
    obtain ⟨-, hshared, -⟩ := shared_unless_failed hstate hleader hanswer hfinal
      (by simp [givenFlight])
    have hsoon : final.clock < state.clock + briefSetup.delay := by
      rw [of_decide_eq_true hnow, hclock]
      decide
    obtain ⟨snapshot, -, -, hall⟩ := hshared catalog hcatalog hsoon
    refine ⟨state, answered, final, snapshot, hstate, hanswer, hfinal, ?_, ?_, ?_⟩
    · exact (hall 1 second hsecond (.inr (hwaits hanswer))).1 (by decide)
    · exact (hall 0 first hfirst (.inl rfl)).2.2
    · exact (hall 1 second hsecond (.inr (hwaits hanswer))).2.2
  · obtain ⟨start, answered, final, first, second, hstart, hanswer, hfinal, hdone, -⟩ :=
      exists_failedFlight
    obtain rfl : start = state := Option.some.inj (hstart.symm.trans hstate)
    have hsecond : final.requests[1]? = some ⟨release, .done second⟩ := by rw [hdone]; rfl
    obtain ⟨hone, -, hfailed⟩ := shared_unless_failed hstate hleader hanswer hfinal
      (by simp [failedFlight])
    refine ⟨hone, hfailed rfl ?_ 1 _ hsecond (hwaits hanswer) rfl⟩
    intro place given hgiven _
    obtain ⟨-, rfl⟩ : place = 1 ∧ given = unreachable := by simpa [failedFlight] using hgiven
    rfl

/-- A request that waits for a fetch that fails asks the remote source again, and gets a snapshot of
its own, though nothing is evicted and no time passes. -/
theorem fetch_unshared : ∃ state final first second,
    initial.run briefSetup sharedFlight = some state ∧
    state.requests = [⟨release, .fetching none⟩, ⟨release, .waiting⟩] ∧
    state.run briefSetup (.remoteAnswers 0 unreachable :: failedFlight) = some final ∧
    .evict ∉ failedFlight ∧ final.clock < state.clock + briefSetup.delay ∧
    final.requests = [⟨release, .done first⟩, ⟨release, .done second⟩] ∧
    first.number ≠ second.number ∧ final.callCount .remote = 2 := by
  obtain ⟨state, hstate, hrequests, hclock⟩ := exists_sharedFlight
  obtain ⟨start, answered, final, first, second, hstart, hanswer, hfinal, hdone, hnumber, hnow,
    hcount⟩ := exists_failedFlight
  obtain rfl : start = state := Option.some.inj (hstart.symm.trans hstate)
  have hrun : start.run briefSetup (.remoteAnswers 0 unreachable :: failedFlight) = some final :=
    run_cons_eq_some_iff.mpr ⟨answered, hanswer, hfinal⟩
  refine ⟨start, final, first, second, hstart, hrequests, hrun, by simp [failedFlight], ?_, hdone,
    hnumber, hcount⟩
  rw [hnow, hclock]
  decide

end ResolverState

end FeatureCheck
