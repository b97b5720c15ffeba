import FeatureCheck.Proofs.Resolver.Run
import FeatureCheck.Resolver.Resolve
import FeatureCheck.Resolver.Timeline

/-!
# Schedules are runs

What `resolve` says of one request at a time happens in a run: if no request for the identity is
under way and the default catalog is not being loaded, one more request arrives and is answered,
with the same calls, clock and entries (`leads_resolve`). A timeline goes through a run, too
(`leads_resolveAll`). So what holds in every state of a run holds there.
-/

namespace FeatureCheck.ResolverState

set_option autoImplicit false

variable {setup : ResolverSetup} {sources : Sources} {state middle next : ResolverState}
  {identity : RuntimeIdentity} {phase phase' : Phase} {event : ResolverEvent} {place : Nat}

def Leads (setup : ResolverSetup) (state next : ResolverState) : Prop :=
  ∃ events, state.run setup events = some next

theorem Leads.trans (h : Leads setup state middle) (h' : Leads setup middle next) :
    Leads setup state next := by
  obtain ⟨events, hevents⟩ := h
  obtain ⟨later, hlater⟩ := h'
  refine ⟨events ++ later, ?_⟩
  rw [run_append, hevents]
  exact hlater

theorem Leads.refl (state : ResolverState) : Leads setup state state :=
  ⟨[], rfl⟩

theorem leads_of_apply (event : ResolverEvent) (h : state.apply setup event = some next) :
    Leads setup state next :=
  ⟨[event], run_cons_eq_some_iff.mpr ⟨next, h, rfl⟩⟩

/-! ## One more request -/

def withRequest (state : ResolverState) (identity : RuntimeIdentity) (phase : Phase) :
    ResolverState :=
  { state with requests := state.requests ++ [⟨identity, phase⟩] }

theorem getElem?_withRequest (hplace : state.requests.length = place) :
    (state.withRequest identity phase).requests[place]? = some ⟨identity, phase⟩ := by
  simp [withRequest, ← hplace]

theorem setPhase_withRequest (hplace : state.requests.length = place) :
    (state.withRequest identity phase).setPhase place phase' =
      state.withRequest identity phase' := by
  subst hplace
  have hlt : state.requests.length < (state.withRequest identity phase).requests.length := by
    simp [withRequest]
  simp only [setPhase, List.modify_eq_take_cons_drop hlt]
  simp [withRequest]

theorem leads_pass (milliseconds : Nat) :
    Leads setup (state.withRequest identity phase)
      ((state.pass milliseconds).withRequest identity phase) :=
  leads_of_apply (.pass milliseconds) rfl

theorem note_withRequest (source : SourceKind) (asked : Option RuntimeIdentity) :
    (state.withRequest identity phase).note source asked =
      (state.note source asked).withRequest identity phase :=
  rfl

theorem snapDefault_withRequest (shared : SharedCatalog) :
    (state.withRequest identity phase).snapDefault identity shared =
      ((state.snapDefault identity shared).1,
        (state.snapDefault identity shared).2.withRequest identity phase) :=
  rfl

theorem store_withRequest (hplace : state.requests.length = place) (entry : CacheEntry) :
    (state.withRequest identity phase).store place identity entry =
      withRequest { state with cache := state.cache.insert identity entry } identity
        (.done entry.snapshot) := by
  have hstored : ({ state with cache := state.cache.insert identity entry } :
      ResolverState).requests.length = place := hplace
  exact setPhase_withRequest hstored

theorem share_withRequest (catalog : Catalog) :
    (state.withRequest identity phase).share catalog =
      ((state.share catalog).1, (state.share catalog).2.withRequest identity phase) :=
  rfl

theorem makeGraph_withRequest (shared : SharedCatalog) :
    (state.withRequest identity phase).makeGraph shared =
      (state.makeGraph shared).withRequest identity phase := by
  simp only [makeGraph_eq]
  rfl

theorem publish_withRequest (source : CatalogSource) (catalog : Catalog) :
    (state.withRequest identity phase).publish identity source catalog =
      ((state.publish identity source catalog).1,
        (state.publish identity source catalog).2.withRequest identity phase) := by
  simp only [publish, share_withRequest, makeGraph_withRequest]
  rfl

theorem loadDefault_withRequest (answer : RemoteAnswer) :
    (state.withRequest identity phase).loadDefault setup answer =
      ((state.loadDefault setup answer).1,
        (state.loadDefault setup answer).2.withRequest identity phase) := by
  unfold loadDefault
  split
  · simp only [share_withRequest, makeGraph_withRequest]
    rfl
  · rfl

@[simp] theorem requests_defaultCatalog :
    (state.defaultCatalog setup sources).2.requests = state.requests := by
  unfold defaultCatalog
  split
  · rfl
  all_goals
    rw [requests_loadDefault]
    rfl

theorem makeGraph_setDefault (default : DefaultCatalog) (shared : SharedCatalog) :
    makeGraph { state with default := default } shared =
      { state.makeGraph shared with default := default } := by
  simp only [makeGraph_eq]
  rfl

/-- What is loaded does not depend on what was there. -/
theorem loadDefault_setDefault (default : DefaultCatalog) (answer : RemoteAnswer) :
    loadDefault setup { state with default := default } answer =
      state.loadDefault setup answer := by
  unfold loadDefault
  split
  · rename_i catalog _
    have hgraph : makeGraph { (state.share catalog).2 with default := default }
      (state.share catalog).1 = _ := makeGraph_setDefault default (state.share catalog).1
    have hshare : share { state with default := default } catalog =
        ((state.share catalog).1, { (state.share catalog).2 with default := default }) := rfl
    simp only [hshare, hgraph]
  · rfl

theorem default_loadDefault (answer : RemoteAnswer) :
    (state.loadDefault setup answer).2.default =
      .loaded (state.loadDefault setup answer).1 := by
  unfold loadDefault
  split <;> rfl

/-! ## What it does -/

theorem leads_defaultCatalog (sources : Sources) (hdefault : state.default ≠ .asked) :
    Leads setup (state.withRequest identity .defaulting)
      ((state.defaultCatalog setup sources).2.withRequest identity .defaulting) ∧
    (state.defaultCatalog setup sources).2.default =
      .loaded (state.defaultCatalog setup sources).1 := by
  unfold defaultCatalog
  split
  · rename_i shared hloaded
    exact ⟨.refl _, hloaded⟩
  · rename_i hunasked
    refine ⟨?_, default_loadDefault _⟩
    have hask : (state.withRequest identity .defaulting).apply setup
        (.proceed state.requests.length) =
          some (withRequest { state.note .default none with default := .asked } identity
            .defaulting) :=
      proceed_of_unasked (getElem?_withRequest rfl) hunasked
    -- the run has the default asked for meanwhile, which `resolve` skips over
    have hload : (withRequest { (state.note .default none).pass sources.default.latency with
        default := .asked } identity .defaulting).apply setup
          (.defaultAnswers sources.default.answer) =
        some ((((state.note .default none).pass sources.default.latency).loadDefault setup
          sources.default.answer).2.withRequest identity .defaulting) := by
      simp only [apply, defaultAnswers, loadDefault_withRequest, loadDefault_setDefault]
      rfl
    exact ((leads_of_apply _ hask).trans (leads_pass _)).trans (leads_of_apply _ hload)
  · exact absurd ‹_› hdefault

theorem leads_fallBack (sources : Sources) (hdefault : state.default ≠ .asked) :
    Leads setup ((state.note .installed (some identity)).withRequest identity .generating)
      ((state.fallBack setup sources identity).2.withRequest identity
        (.storing (state.fallBack setup sources identity).1)) := by
  refine (leads_pass sources.installed.latency).trans ?_
  dsimp only [fallBack]
  generalize hasked : (state.note .installed (some identity)).pass sources.installed.latency = asked
  have hanswer : ∀ {next}, (asked.withRequest identity .generating).installedAnswers setup
      asked.requests.length sources.installed.answer = some next →
      Leads setup (asked.withRequest identity .generating) next :=
    fun h => leads_of_apply (.installedAnswers _ _) h
  split
  · rename_i catalog hcatalog
    apply hanswer
    rw [installedAnswers_of_gives (getElem?_withRequest rfl) hcatalog, publish_withRequest,
      setPhase_withRequest (by simp)]
  · rename_i hnone
    have hlack : (asked.withRequest identity .generating).installedAnswers setup
        asked.requests.length sources.installed.answer =
          some (asked.withRequest identity .defaulting) := by
      rw [installedAnswers_of_fails (getElem?_withRequest rfl) hnone, setPhase_withRequest rfl]
    have hunasked : asked.default ≠ .asked := hasked ▸ hdefault
    obtain ⟨hload, hloaded⟩ := leads_defaultCatalog sources hunasked
    refine ((hanswer hlack).trans hload).trans (leads_of_apply (.proceed asked.requests.length) ?_)
    have hplace : (asked.defaultCatalog setup sources).2.requests.length =
        asked.requests.length := by simp
    refine (proceed_of_loaded (getElem?_withRequest hplace) hloaded).trans ?_
    rw [snapDefault_withRequest]
    exact congrArg some (setPhase_withRequest hplace)

theorem requests_fallBack (sources : Sources) :
    (state.fallBack setup sources identity).2.requests = state.requests := by
  dsimp only [fallBack]
  split
  · simp [note, pass]
  · simp [snapDefault, snap, note, pass]

theorem leads_refresh (sources : Sources) (hdefault : state.default ≠ .asked)
    (hstale : state.freshEntry? setup identity = none) :
    Leads setup (state.withRequest identity .entering)
      ((state.refresh setup sources identity).2.withRequest identity
        (.storing (state.refresh setup sources identity).1)) := by
  have hfresh : freshEntry? setup (state.withRequest identity .entering) identity = none := hstale
  have henter : ∀ {next}, (state.withRequest identity .entering).enter setup state.requests.length
      identity = next → Leads setup (state.withRequest identity .entering) next := by
    rintro _ rfl
    refine leads_of_apply (.proceed state.requests.length) ?_
    simp only [apply, proceed, getElem?_withRequest rfl, Option.bind_some]
  unfold refresh
  split
  · rename_i hbeta
    refine (henter ?_).trans (leads_fallBack sources hdefault)
    simp only [enter, hfresh, hbeta, if_true, askInstalled, note_withRequest]
    exact setPhase_withRequest rfl
  · rename_i hbeta
    have hfetch : (state.withRequest identity .entering).enter setup state.requests.length
        identity = (state.note .remote (some identity)).withRequest identity
          (.fetching (state.entry? identity)) := by
      simp only [enter, hfresh, hbeta, note_withRequest]
      exact setPhase_withRequest rfl
    refine (henter hfetch).trans ((leads_pass (sources.remote identity).latency).trans ?_)
    dsimp only
    generalize hasked : (state.note .remote (some identity)).pass
      (sources.remote identity).latency = asked
    have hanswer : ∀ {next}, (asked.withRequest identity
        (.fetching (state.entry? identity))).remoteAnswers setup asked.requests.length
          (sources.remote identity).answer = some next →
        Leads setup (asked.withRequest identity (.fetching (state.entry? identity))) next :=
      fun h => leads_of_apply (.remoteAnswers _ _) h
    split
    · rename_i catalog hcatalog
      apply hanswer
      rw [remoteAnswers_of_gives (getElem?_withRequest rfl) hcatalog, publish_withRequest,
        setPhase_withRequest (by simp)]
      rfl
    · rename_i hnone
      split
      · rename_i entry hkept
        apply hanswer
        rw [remoteAnswers_of_kept (getElem?_withRequest rfl) hnone hkept,
          setPhase_withRequest rfl]
      · rename_i hkept
        have hunasked : asked.default ≠ .asked := hasked ▸ hdefault
        refine (hanswer ?_).trans (leads_fallBack sources hunasked)
        rw [remoteAnswers_of_lacks (getElem?_withRequest rfl) hnone hkept, askInstalled,
          note_withRequest]
        exact congrArg some (setPhase_withRequest rfl)

theorem requests_refresh (sources : Sources) :
    (state.refresh setup sources identity).2.requests = state.requests := by
  unfold refresh
  split
  · exact requests_fallBack sources
  · dsimp only
    split
    · simp [note, pass]
    · split
      · rfl
      · exact (requests_fallBack sources).trans rfl

/-- A request that arrives while it is alone can be answered as `resolve` says, in the state that it
says. -/
theorem leads_resolve (sources : Sources) (hfree : state.isBusy identity = false)
    (hdefault : state.default ≠ .asked) :
    Leads setup state ((state.resolve setup sources identity).2.withRequest identity
      (.done (state.resolve setup sources identity).1)) := by
  have harrive : Leads setup state (state.withRequest identity .arriving) :=
    leads_of_apply (.arrive identity) rfl
  refine harrive.trans ?_
  have hproceed : ∀ {phase next}, (state.withRequest identity phase).proceed setup
      state.requests.length = some next →
      Leads setup (state.withRequest identity phase) next :=
    fun h => leads_of_apply (.proceed state.requests.length) h
  unfold resolve
  split
  · rename_i entry hentry
    have hfresh : freshEntry? setup (state.withRequest identity .arriving) identity = some entry :=
      hentry
    apply hproceed
    rw [proceed_of_fresh (getElem?_withRequest rfl) (.inl rfl) hfresh, setPhase_withRequest rfl]
  · rename_i hstale
    have hfresh : freshEntry? setup (state.withRequest identity .arriving) identity = none := hstale
    have hwait : Leads setup (state.withRequest identity .arriving)
        (state.withRequest identity .waiting) := by
      apply hproceed
      rw [proceed_of_arriving (getElem?_withRequest rfl) hfresh, setPhase_withRequest rfl]
    -- the request itself is only waiting, so that it may go in
    have halone : (state.withRequest identity .waiting).isBusy identity = false := by
      simpa [isBusy, withRequest, Phase.isRefreshing] using hfree
    have henter : Leads setup (state.withRequest identity .waiting)
        (state.withRequest identity .entering) := by
      apply hproceed
      simp [proceed, getElem?_withRequest rfl, halone, setPhase_withRequest rfl]
    refine ((hwait.trans henter).trans (leads_refresh sources hdefault hstale)).trans ?_
    refine leads_of_apply (.proceed state.requests.length) ?_
    have hplace : (state.refresh setup sources identity).2.requests.length =
        state.requests.length := congrArg List.length (requests_refresh sources)
    refine (proceed_storing (getElem?_withRequest hplace)).trans ?_
    rw [store_withRequest hplace]

end FeatureCheck.ResolverState

namespace FeatureCheck.Timeline

open ResolverState

/-! ## Timelines -/

variable {setup : ResolverSetup} {sources : Sources}

theorem leads_of_proceed? {state next : ResolverState} {request : Nat}
    (h : proceed? setup state = some (request, next)) : Leads setup state next := by
  obtain ⟨place, -, hplace⟩ := List.exists_of_findSome?_eq_some h
  obtain ⟨_, hproceed, hnext⟩ := Option.map_eq_some_iff.mp hplace
  obtain ⟨rfl, rfl⟩ := Prod.mk.inj hnext
  exact leads_of_apply (.proceed place) hproceed

theorem state_follow (timeline : Timeline) (request : Nat) (next : ResolverState) :
    (timeline.follow sources request next).state = next := by
  unfold follow
  split
  · split <;> rfl
  · rfl

theorem leads_perform (timeline : Timeline) (time : Nat) (due : Due) :
    Leads setup timeline.state (timeline.perform setup sources time due).state := by
  have hpass : Leads setup timeline.state
      (timeline.state.pass (time - timeline.state.clock)) := leads_of_apply (.pass _) rfl
  refine hpass.trans ?_
  cases due with
  | answer request event =>
    simp only [perform, state_follow]
    cases happly : (timeline.state.pass (time - timeline.state.clock)).apply setup event with
    | none => exact .refl _
    | some next => exact leads_of_apply event happly
  | arrival place identity => exact leads_of_apply (.arrive identity) rfl
  | eviction => exact leads_of_apply .evict rfl

theorem leads_run (timeline : Timeline) (steps : Nat) :
    Leads setup timeline.state (timeline.run setup sources steps).state := by
  induction steps generalizing timeline with
  | zero => exact .refl _
  | succ steps ih =>
    unfold run
    split
    · rename_i request next hnext
      have hfollow : Leads setup timeline.state (timeline.follow sources request next).state := by
        rw [state_follow]
        exact leads_of_proceed? hnext
      exact hfollow.trans (ih _)
    · split
      · exact .refl _
      · rename_i time due agenda _
        exact (leads_perform { timeline with agenda := agenda } time due).trans (ih _)

theorem exists_done_of_snapshot? {timeline : Timeline} {place : Nat} {snapshot : Snapshot}
    (h : timeline.snapshot? place = some snapshot) :
    ∃ request ∈ timeline.state.requests, request.phase = .done snapshot := by
  obtain ⟨index, -, h⟩ := Option.bind_eq_some_iff.mp h
  obtain ⟨request, hrequest, h⟩ := Option.bind_eq_some_iff.mp h
  split at h
  · rename_i hdone
    exact ⟨request, List.mem_of_getElem? hrequest, Option.some.inj h ▸ hdone⟩
  · cases h

/-- Requests that are resolved at once go through a run, and are answered as in the run. -/
theorem leads_resolveAll (setup : ResolverSetup) (sources : Sources) (state : ResolverState)
    (requests : List (Nat × RuntimeIdentity)) (evictAfter : Option Nat) :
    ∃ final, Leads setup { state with requests := [] } final ∧
      (resolveAll setup sources state requests evictAfter).2 = { final with requests := [] } ∧
      ∀ snapshot, some snapshot ∈ (resolveAll setup sources state requests evictAfter).1 →
        ∃ request ∈ final.requests, request.phase = .done snapshot := by
  refine ⟨_, ?_, rfl, ?_⟩
  · exact leads_run ⟨{ state with requests := [] }, _, []⟩ _
  · intro snapshot hmem
    obtain ⟨place, -, hplace⟩ := List.mem_map.mp hmem
    exact exists_done_of_snapshot? hplace

end FeatureCheck.Timeline
