import FeatureCheck.Proofs.Resolver.SingleFlight

/-!
# Stale entries

An entry that is too old stays so. What a request has found before it fetches is too old
(`FoundStale`), and while no fetch for an identity gives a catalog, nothing that is kept or carried
for it is fresh: `Stale`.
-/

namespace FeatureCheck

set_option autoImplicit false

/-- The entry that a request has with it. -/
def Phase.entry? : Phase → Option CacheEntry
  | .fetching previous => previous
  | .storing entry => some entry
  | .arriving | .waiting | .entering | .generating | .defaulting | .done _ => none

namespace ResolverState

variable {setup : ResolverSetup} {state next final : ResolverState}
  {identity : RuntimeIdentity} {entry : CacheEntry} {phase : Phase} {event : ResolverEvent}
  {events : List ResolverEvent} {place leader : Nat} {answer : RemoteAnswer}
  {previous : Option CacheEntry}

/-! ## Fresh entries -/

theorem isFresh_of_le {now after : Nat} (hle : now ≤ after)
    (h : entry.isFresh setup.delay after = true) : entry.isFresh setup.delay now = true := by
  unfold CacheEntry.isFresh at h ⊢
  obtain ⟨fetched, hfetched, hyoung⟩ := (Option.any_eq_true _ _).mp h
  refine (Option.any_eq_true _ _).mpr ⟨fetched, hfetched, ?_⟩
  have hlt := of_decide_eq_true hyoung
  exact decide_eq_true (by omega)

theorem freshEntry?_eq_some_iff : state.freshEntry? setup identity = some entry ↔
    state.entry? identity = some entry ∧ entry.isFresh setup.delay state.clock = true :=
  Option.filter_eq_some_iff

theorem freshEntry?_eq_none_iff : state.freshEntry? setup identity = none ↔
    ∀ entry, state.entry? identity = some entry →
      ¬ entry.isFresh setup.delay state.clock = true := by
  constructor
  · intro h entry hentry hfresh
    rw [freshEntry?_eq_some_iff.mpr ⟨hentry, hfresh⟩] at h
    cases h
  · intro h
    cases hfound : state.freshEntry? setup identity with
    | none => rfl
    | some entry =>
      obtain ⟨hentry, hfresh⟩ := freshEntry?_eq_some_iff.mp hfound
      exact absurd hfresh (h entry hentry)

/-- What a request has found before it fetches is too old. -/
def FoundStale (setup : ResolverSetup) (state : ResolverState) : Prop :=
  ∀ (place : Nat) (identity : RuntimeIdentity) (previous : Option CacheEntry),
    state.requests[place]? = some ⟨identity, .fetching previous⟩ →
    ∀ entry, previous = some entry → ¬ entry.isFresh setup.delay state.clock = true

theorem foundStale_initial : FoundStale setup initial := by
  intro place identity previous hrequest
  simp [initial] at hrequest

theorem FoundStale.step (h : FoundStale setup state) (hstep : Happens setup state event next) :
    FoundStale setup next := by
  intro place identity previous hrequest entry hentry hfresh
  have hbefore := isFresh_of_le hstep.grows.clock_le hfresh
  rcases hstep.request_cases hrequest with hold | ⟨-, harriving, -⟩ | ⟨-, phase, middle, hold,
    hmoves, -⟩
  · exact h place identity previous hold entry hentry hbefore
  · cases harriving
  · have hfetches : Moves setup state identity phase (.fetching previous) middle := hmoves
    cases hfetches with
    | fetch hstale => exact freshEntry?_eq_none_iff.mp hstale entry hentry hbefore

theorem foundStale_of_run (hrun : initial.run setup events = some state) :
    FoundStale setup state :=
  run_induction (motive := FoundStale setup) hrun (fun _ hstale hstep => hstale.step hstep)
    foundStale_initial

/-! ## While no fetch gives a catalog -/

/-- Nothing that is kept for the identity, or carried by a request for it, is fresh. -/
structure Stale (setup : ResolverSetup) (state : ResolverState) (identity : RuntimeIdentity) :
    Prop where
  cached : ∀ entry, state.entry? identity = some entry →
    ¬ entry.isFresh setup.delay state.clock = true
  carried : ∀ (place : Nat) (phase : Phase) (entry : CacheEntry),
    state.requests[place]? = some ⟨identity, phase⟩ → phase.entry? = some entry →
    ¬ entry.isFresh setup.delay state.clock = true

/-- A request that fetches can only be answered by the remote source. -/
theorem eq_remoteAnswers_of_fetching (happly : state.apply setup event = some next)
    (hrequest : state.requests[place]? = some ⟨identity, .fetching previous⟩)
    (hevent : event.request? = some place) : ∃ answer, event = .remoteAnswers place answer := by
  cases event with
  | proceed index =>
    obtain rfl : index = place := Option.some.inj hevent
    simp [apply, proceed, hrequest] at happly
  | remoteAnswers index answer =>
    obtain rfl : index = place := Option.some.inj hevent
    exact ⟨answer, rfl⟩
  | installedAnswers index answer =>
    obtain rfl : index = place := Option.some.inj hevent
    simp [apply, installedAnswers, hrequest] at happly
  | arrive | defaultAnswers | pass | evict => cases hevent

/-- An answer without a catalog leaves a request with what it had. -/
theorem entry?_of_unusable (hrequest : state.requests[place]? = some ⟨identity, .fetching previous⟩)
    (hunusable : answer.toOption.bind setup.usable? = none)
    (hanswer : state.remoteAnswers setup place answer = some next)
    (hnext : next.requests[place]? = some ⟨identity, phase⟩) (hentry : phase.entry? = some entry) :
    previous = some entry := by
  cases hkept : kept? previous with
  | some kept =>
    obtain rfl :=
      Option.some.inj ((remoteAnswers_of_kept hrequest hunusable hkept).symm.trans hanswer)
    obtain rfl : .storing kept = phase := congrArg Request.phase
      (Option.some.inj ((getElem?_setPhase_self hrequest rfl).symm.trans hnext))
    rw [(kept?_eq_some_iff.mp hkept).1, ← hentry]
    rfl
  | none =>
    obtain rfl :=
      Option.some.inj ((remoteAnswers_of_lacks hrequest hunusable hkept).symm.trans hanswer)
    have hnoted : (state.note .installed (some identity)).requests = state.requests := rfl
    obtain rfl : .generating = phase := congrArg Request.phase
      (Option.some.inj ((getElem?_setPhase_self hrequest hnoted).symm.trans hnext))
    cases hentry

theorem not_isFresh_of_fallback {now : Nat} (htime : entry.fetchedAt = none) :
    ¬ entry.isFresh setup.delay now = true := by
  simp [CacheEntry.isFresh, htime]

theorem Stale.step (h : Stale setup state identity)
    (happly : state.apply setup event = some next)
    (hunusable : ∀ place answer, event = .remoteAnswers place answer →
      (∃ phase, next.requests[place]? = some ⟨identity, phase⟩) →
      answer.toOption.bind setup.usable? = none) : Stale setup next identity where
  cached entry hentry hfresh := by
    have hstep := happens_of_apply happly
    have hbefore := isFresh_of_le hstep.grows.clock_le hfresh
    rcases hstep.entry?_cases identity with hsame | ⟨-, hnone⟩ | ⟨place, stored, -, hstoring,
      hstored⟩
    · exact h.cached entry (hsame.symm.trans hentry) hbefore
    · rw [hnone] at hentry
      cases hentry
    · obtain rfl := Option.some.inj (hstored.symm.trans hentry)
      exact h.carried place _ stored hstoring rfl hbefore
  carried place phase entry hrequest hentry hfresh := by
    have hstep := happens_of_apply happly
    have hbefore := isFresh_of_le hstep.grows.clock_le hfresh
    rcases hstep.request_cases hrequest with hold | ⟨-, harriving, -⟩ | ⟨hevent, phase', middle,
      hold, hmoves, -⟩
    · exact h.carried place phase entry hold hentry hbefore
    · rw [show phase = .arriving from harriving] at hentry
      cases hentry
    · -- only a fetch makes an entry that is fresh, and this one gives no catalog
      have hfetching : ∀ previous, phase' = .fetching previous → False := by
        rintro previous rfl
        obtain ⟨answer, rfl⟩ := eq_remoteAnswers_of_fetching happly hold hevent
        have hfound := entry?_of_unusable hold (hunusable place answer rfl ⟨phase, hrequest⟩)
          happly hrequest hentry
        exact h.carried place _ entry hold hfound hbefore
      have hmoved : Moves setup state identity phase' phase middle := hmoves
      cases hmoved with
      | serve | wait | enter | serveInside | skipRemote | lack | store => cases hentry
      | fetch => exact h.cached entry hentry hbefore
      | receive | keep | giveUp => exact hfetching _ rfl
      | receiveInstalled | takeDefault =>
        obtain rfl := Option.some.inj hentry
        exact not_isFresh_of_fallback rfl hfresh

theorem Stale.run (h : Stale setup state identity) (hrun : state.run setup events = some final)
    (hunusable : ∀ place answer, .remoteAnswers place answer ∈ events →
      (∃ phase, final.requests[place]? = some ⟨identity, phase⟩) →
      answer.toOption.bind setup.usable? = none) : Stale setup final identity := by
  induction events generalizing state with
  | nil => exact Option.some.inj hrun ▸ h
  | cons event events ih =>
    obtain ⟨next, hnext, hrest⟩ := run_cons_eq_some_iff.mp hrun
    refine ih (h.step hnext ?_) hrest fun place answer hmem =>
      hunusable place answer (List.mem_cons_of_mem event hmem)
    rintro place answer rfl ⟨phase, hrequest⟩
    exact hunusable place answer List.mem_cons_self (identity_of_run hrest hrequest)

theorem stale_of_fetching (hvalid : state.Valid) (hfound : FoundStale setup state)
    (hrequest : state.requests[leader]? = some ⟨identity, .fetching previous⟩) :
    Stale setup state identity where
  cached entry hentry := by
    rcases hvalid.attached leader identity previous hrequest with hprevious | hnone
    · exact hfound leader identity previous hrequest entry (hprevious.symm.trans hentry)
    · rw [hnone] at hentry
      cases hentry
  carried place phase entry hother hentry := by
    have hrefreshing : phase.isRefreshing = true := by
      cases phase with
      | fetching | storing => rfl
      | arriving | waiting | entering | generating | defaulting | done => cases hentry
    obtain rfl : leader = place :=
      hvalid.exclusive leader place _ _ hrequest hother rfl rfl hrefreshing
    obtain rfl := congrArg Request.phase (Option.some.inj (hrequest.symm.trans hother))
    exact hfound leader identity previous hrequest entry hentry

end ResolverState

end FeatureCheck
