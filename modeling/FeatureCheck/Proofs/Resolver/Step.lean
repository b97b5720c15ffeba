import FeatureCheck.Resolver.Step

/-!
# What a step of a resolver does

Most events let one request go on to its next phase; what a request may do in a phase, and what it
changes besides its phase, is `Moves`. The others are about no phase: `Happens`. Every step is one
of these: `happens_of_apply`. For a request whose phase is known, what it goes on to is an equation,
such as `remoteAnswers_of_gives`.
-/

namespace FeatureCheck

set_option autoImplicit false

/-- The request that goes on in an event. -/
def ResolverEvent.request? : ResolverEvent → Option Nat
  | .proceed request | .remoteAnswers request _ | .installedAnswers request _ => some request
  | .arrive _ | .defaultAnswers _ | .pass _ | .evict => none

theorem ResolverSetup.isEmpty_of_usable? {setup : ResolverSetup} {bytes : Bytes}
    {catalog : Catalog} (h : setup.usable? bytes = some catalog) : catalog.isEmpty = false := by
  have hfilled := (Option.filter_eq_some_iff.mp h).2
  simpa using hfilled

namespace ResolverState

variable {setup : ResolverSetup} {state middle next : ResolverState} {identity : RuntimeIdentity}
  {phase phase' : Phase} {event : ResolverEvent} {index : Nat}

theorem kept?_eq_some_iff {previous : Option CacheEntry} {entry : CacheEntry} :
    kept? previous = some entry ↔ previous = some entry ∧ entry.snapshot.source = .remote := by
  simp [kept?, Option.filter_eq_some_iff]

/-- What a request may do: the phase that it leaves, the one that it comes to, and the state with
what it does on the way. -/
inductive Moves (setup : ResolverSetup) (state : ResolverState) (identity : RuntimeIdentity) :
    Phase → Phase → ResolverState → Prop where
  | serve {entry : CacheEntry} (hfresh : state.freshEntry? setup identity = some entry) :
      Moves setup state identity .arriving (.done entry.snapshot) state
  | wait (hstale : state.freshEntry? setup identity = none) :
      Moves setup state identity .arriving .waiting state
  | enter (hfree : state.isBusy identity = false) :
      Moves setup state identity .waiting .entering state
  | serveInside {entry : CacheEntry} (hfresh : state.freshEntry? setup identity = some entry) :
      Moves setup state identity .entering (.done entry.snapshot) state
  | skipRemote (hstale : state.freshEntry? setup identity = none)
      (hbeta : identity.isBeta = true) :
      Moves setup state identity .entering .generating (state.note .installed (some identity))
  | fetch (hstale : state.freshEntry? setup identity = none) (hbeta : identity.isBeta = false) :
      Moves setup state identity .entering (.fetching (state.entry? identity))
        (state.note .remote (some identity))
  | receive {previous : Option CacheEntry} {catalog : Catalog} (hfilled : catalog.isEmpty = false) :
      Moves setup state identity (.fetching previous)
        (.storing ⟨(state.publish identity .remote catalog).1, some state.clock⟩)
        (state.publish identity .remote catalog).2
  | keep {entry : CacheEntry} (hremote : entry.snapshot.source = .remote) :
      Moves setup state identity (.fetching (some entry)) (.storing entry) state
  | giveUp {previous : Option CacheEntry} (hkept : kept? previous = none) :
      Moves setup state identity (.fetching previous) .generating
        (state.note .installed (some identity))
  | receiveInstalled {catalog : Catalog} (hfilled : catalog.isEmpty = false) :
      Moves setup state identity .generating
        (.storing ⟨(state.publish identity .installed catalog).1, none⟩)
        (state.publish identity .installed catalog).2
  | lack : Moves setup state identity .generating .defaulting state
  | takeDefault {shared : SharedCatalog} (hloaded : state.default = .loaded shared) :
      Moves setup state identity .defaulting
        (.storing ⟨(state.snapDefault identity shared).1, none⟩)
        (state.snapDefault identity shared).2
  | store {entry : CacheEntry} :
      Moves setup state identity (.storing entry) (.done entry.snapshot)
        { state with cache := state.cache.insert identity entry }

/-- What an event does. -/
inductive Happens (setup : ResolverSetup) (state : ResolverState) :
    ResolverEvent → ResolverState → Prop where
  | arrive (identity : RuntimeIdentity) :
      Happens setup state (.arrive identity) (state.arrive identity)
  | move {event : ResolverEvent} {index : Nat} {request : Request} {phase : Phase}
      {middle : ResolverState} (hevent : event.request? = some index)
      (hrequest : state.requests[index]? = some request)
      (hmoves : Moves setup state request.identity request.phase phase middle) :
      Happens setup state event (middle.setPhase index phase)
  | askDefault {index : Nat} {request : Request} (hrequest : state.requests[index]? = some request)
      (hphase : request.phase = .defaulting) (hunasked : state.default = .unasked) :
      Happens setup state (.proceed index) { state.note .default none with default := .asked }
  | loadDefault {answer : RemoteAnswer} (hasked : state.default = .asked) :
      Happens setup state (.defaultAnswers answer) (state.loadDefault setup answer).2
  | pass (milliseconds : Nat) :
      Happens setup state (.pass milliseconds) (state.pass milliseconds)
  | evict : Happens setup state .evict state.evict

theorem happens_of_proceed (h : state.proceed setup index = some next) :
    Happens setup state (.proceed index) next := by
  obtain ⟨request, hrequest, h⟩ := Option.bind_eq_some_iff.mp h
  have hmove : ∀ {phase : Phase} {middle : ResolverState},
      Moves setup state request.identity request.phase phase middle →
        Happens setup state (.proceed index) (middle.setPhase index phase) :=
    fun hmoves => .move rfl hrequest hmoves
  split at h
  case h_1 harriving =>
    rw [harriving] at hmove
    split at h
    · rename_i entry hfresh
      exact Option.some.inj h ▸ hmove (.serve hfresh)
    · rename_i hstale
      exact Option.some.inj h ▸ hmove (.wait hstale)
  case h_2 hwaiting =>
    rw [hwaiting] at hmove
    split at h
    · cases h
    · rename_i hfree
      exact Option.some.inj h ▸ hmove (.enter (by simpa using hfree))
  case h_3 hentering =>
    rw [hentering] at hmove
    rw [← Option.some.inj h, ResolverState.enter]
    split
    · rename_i entry hfresh
      exact hmove (.serveInside hfresh)
    · rename_i hstale
      split
      · rename_i hbeta
        exact hmove (.skipRemote hstale hbeta)
      · rename_i hbeta
        exact hmove (.fetch hstale (by simpa using hbeta))
  case h_4 hdefaulting =>
    unfold ResolverState.takeDefault at h
    split at h
    · rename_i hunasked
      exact Option.some.inj h ▸ .askDefault hrequest hdefaulting hunasked
    · cases h
    · rename_i shared hloaded
      rw [hdefaulting] at hmove
      exact Option.some.inj h ▸ hmove (.takeDefault hloaded)
  case h_5 entry hstoring =>
    rw [hstoring] at hmove
    exact Option.some.inj h ▸ hmove .store
  all_goals cases h

theorem happens_of_remoteAnswers {answer : RemoteAnswer}
    (h : state.remoteAnswers setup index answer = some next) :
    Happens setup state (.remoteAnswers index answer) next := by
  obtain ⟨request, hrequest, h⟩ := Option.bind_eq_some_iff.mp h
  have hmove : ∀ {phase : Phase} {middle : ResolverState},
      Moves setup state request.identity request.phase phase middle →
        Happens setup state (.remoteAnswers index answer) (middle.setPhase index phase) :=
    fun hmoves => .move rfl hrequest hmoves
  split at h
  case h_1 previous hfetching =>
    rw [hfetching] at hmove
    split at h
    · rename_i catalog hanswer
      obtain ⟨bytes, -, husable⟩ := Option.bind_eq_some_iff.mp hanswer
      exact Option.some.inj h ▸ hmove (.receive (ResolverSetup.isEmpty_of_usable? husable))
    · split at h
      · rename_i entry hkept
        obtain ⟨rfl, hremote⟩ := kept?_eq_some_iff.mp hkept
        exact Option.some.inj h ▸ hmove (.keep hremote)
      · rename_i hkept
        exact Option.some.inj h ▸ hmove (.giveUp hkept)
  case h_2 => cases h

theorem happens_of_installedAnswers {answer : InstalledAnswer}
    (h : state.installedAnswers setup index answer = some next) :
    Happens setup state (.installedAnswers index answer) next := by
  obtain ⟨request, hrequest, h⟩ := Option.bind_eq_some_iff.mp h
  have hmove : ∀ {phase : Phase} {middle : ResolverState},
      Moves setup state request.identity request.phase phase middle →
        Happens setup state (.installedAnswers index answer) (middle.setPhase index phase) :=
    fun hmoves => .move rfl hrequest hmoves
  split at h
  case h_1 hgenerating =>
    rw [hgenerating] at hmove
    split at h
    · rename_i catalog hanswer
      obtain ⟨bytes, -, husable⟩ := Option.bind_eq_some_iff.mp hanswer
      exact Option.some.inj h ▸ hmove (.receiveInstalled (ResolverSetup.isEmpty_of_usable? husable))
    · exact Option.some.inj h ▸ hmove .lack
  case h_2 => cases h

theorem happens_of_apply (h : state.apply setup event = some next) :
    Happens setup state event next := by
  cases event with
  | arrive identity => exact Option.some.inj h ▸ .arrive identity
  | proceed index => exact happens_of_proceed h
  | remoteAnswers index answer => exact happens_of_remoteAnswers h
  | installedAnswers index answer => exact happens_of_installedAnswers h
  | defaultAnswers answer =>
    simp only [apply, ResolverState.defaultAnswers] at h
    split at h
    · rename_i hasked
      exact Option.some.inj h ▸ .loadDefault hasked
    · cases h
    · cases h
  | pass milliseconds => exact Option.some.inj h ▸ .pass milliseconds
  | evict => exact Option.some.inj h ▸ .evict

/-! ## What a request does in its phase -/

section Phases

variable {previous : Option CacheEntry} {entry : CacheEntry}
  {catalog : Catalog} {shared : SharedCatalog}

/-- A request that finds a fresh entry is answered with it. -/
theorem proceed_of_fresh (hrequest : state.requests[index]? = some ⟨identity, phase⟩)
    (hphase : phase = .arriving ∨ phase = .entering)
    (hfresh : state.freshEntry? setup identity = some entry) :
    state.proceed setup index = some (state.setPhase index (.done entry.snapshot)) := by
  rcases hphase with rfl | rfl
  · simp only [proceed, hrequest, Option.bind_some, hfresh]
  · simp only [proceed, hrequest, Option.bind_some, enter, hfresh]

theorem proceed_of_arriving (hrequest : state.requests[index]? = some ⟨identity, .arriving⟩)
    (hstale : state.freshEntry? setup identity = none) :
    state.proceed setup index = some (state.setPhase index .waiting) := by
  simp only [proceed, hrequest, Option.bind_some, hstale]

theorem proceed_of_entering (hrequest : state.requests[index]? = some ⟨identity, .entering⟩)
    (hstale : state.freshEntry? setup identity = none) :
    state.proceed setup index =
      some (if identity.isBeta then state.askInstalled index identity
        else (state.note .remote (some identity)).setPhase index
          (.fetching (state.entry? identity))) := by
  simp only [proceed, hrequest, Option.bind_some, enter, hstale]

theorem proceed_of_unasked (hrequest : state.requests[index]? = some ⟨identity, .defaulting⟩)
    (hdefault : state.default = .unasked) :
    state.proceed setup index = some { state.note .default none with default := .asked } := by
  simp only [proceed, hrequest, Option.bind_some, takeDefault, hdefault]

theorem proceed_of_asked (hrequest : state.requests[index]? = some ⟨identity, .defaulting⟩)
    (hdefault : state.default = .asked) : state.proceed setup index = none := by
  simp only [proceed, hrequest, Option.bind_some, takeDefault, hdefault]

theorem proceed_of_loaded (hrequest : state.requests[index]? = some ⟨identity, .defaulting⟩)
    (hdefault : state.default = .loaded shared) :
    state.proceed setup index =
      some ((state.snapDefault identity shared).2.setPhase index
        (.storing ⟨(state.snapDefault identity shared).1, none⟩)) := by
  simp only [proceed, hrequest, Option.bind_some, takeDefault, hdefault]

theorem proceed_storing (hrequest : state.requests[index]? = some ⟨identity, .storing entry⟩) :
    state.proceed setup index = some (state.store index identity entry) := by
  simp only [proceed, hrequest, Option.bind_some]

theorem remoteAnswers_of_gives {answer : RemoteAnswer}
    (hrequest : state.requests[index]? = some ⟨identity, .fetching previous⟩)
    (hgives : answer.toOption.bind setup.usable? = some catalog) :
    state.remoteAnswers setup index answer =
      some ((state.publish identity .remote catalog).2.setPhase index
        (.storing ⟨(state.publish identity .remote catalog).1, some state.clock⟩)) := by
  simp only [remoteAnswers, hrequest, Option.bind_some, hgives]

theorem remoteAnswers_of_kept {answer : RemoteAnswer}
    (hrequest : state.requests[index]? = some ⟨identity, .fetching previous⟩)
    (hfails : answer.toOption.bind setup.usable? = none) (hkept : kept? previous = some entry) :
    state.remoteAnswers setup index answer = some (state.setPhase index (.storing entry)) := by
  simp only [remoteAnswers, hrequest, Option.bind_some, hfails, hkept]

theorem remoteAnswers_of_lacks {answer : RemoteAnswer}
    (hrequest : state.requests[index]? = some ⟨identity, .fetching previous⟩)
    (hfails : answer.toOption.bind setup.usable? = none) (hnone : kept? previous = none) :
    state.remoteAnswers setup index answer = some (state.askInstalled index identity) := by
  simp only [remoteAnswers, hrequest, Option.bind_some, hfails, hnone]

theorem installedAnswers_of_gives {answer : InstalledAnswer}
    (hrequest : state.requests[index]? = some ⟨identity, .generating⟩)
    (hgives : (answer.toOption.bind id).bind setup.usable? = some catalog) :
    state.installedAnswers setup index answer =
      some ((state.publish identity .installed catalog).2.setPhase index
        (.storing ⟨(state.publish identity .installed catalog).1, none⟩)) := by
  simp only [installedAnswers, hrequest, Option.bind_some, hgives]

theorem installedAnswers_of_fails {answer : InstalledAnswer}
    (hrequest : state.requests[index]? = some ⟨identity, .generating⟩)
    (hfails : (answer.toOption.bind id).bind setup.usable? = none) :
    state.installedAnswers setup index answer = some (state.setPhase index .defaulting) := by
  simp only [installedAnswers, hrequest, Option.bind_some, hfails]

end Phases

end ResolverState

end FeatureCheck
