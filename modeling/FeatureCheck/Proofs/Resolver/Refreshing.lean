import FeatureCheck.Proofs.Resolver.Fallback

/-!
# A refresh among other requests

Other requests may go on between the steps of a refresh, and all share the default catalog. What
the request itself is answered decides: `Stage` says for each phase what has been found out before,
a step keeps it (`Underway.step`) and so does a run (`Follows.underway`). A refresh can always end,
and in one way only: `refreshed_of_outcomes`.
-/

namespace FeatureCheck

set_option autoImplicit false

variable {setup : ResolverSetup} {outcomes : Outcomes} {identity : RuntimeIdentity}
  {previous : Option CacheEntry}

/-! ## What the request is answered -/

/-- The event gives the request the answers of the outcomes, and the remote one at its time. -/
def Outcomes.Answers (outcomes : Outcomes) (place : Nat) (state : ResolverState) :
    ResolverEvent → Prop
  | .remoteAnswers request answer =>
      request = place → answer = outcomes.remote ∧ state.clock = outcomes.time
  | .installedAnswers request answer => request = place → answer = outcomes.installed
  | .defaultAnswers answer => answer = outcomes.default
  | .arrive _ | .proceed _ | .pass _ | .evict => True

theorem Refreshed.of_loaded {default later : DefaultCatalog} {entry : CacheEntry}
    {calls : List SourceKind}
    (h : Refreshed setup outcomes identity previous default entry calls)
    (hloaded : ∀ shared, default = .loaded shared → later = .loaded shared) :
    Refreshed setup outcomes identity previous later entry calls := by
  cases h with
  | fetched hrelease hgives hentry => exact .fetched hrelease hgives hentry
  | kept hrelease hfails hprevious hremote => exact .kept hrelease hfails hprevious hremote
  | installed hlacks hgives hentry => exact .installed hlacks hgives hentry
  | default hlacks hfails hlast hgives hentry hshared =>
    exact .default hlacks hfails hlast hgives hentry (hloaded _ hshared)
  | empty hlacks hfails hlast hunusable hentry hshared =>
    exact .empty hlacks hfails hlast hunusable hentry (hloaded _ hshared)

namespace ResolverState

section Courses

variable (setup : ResolverSetup) (outcomes : Outcomes) (place : Nat)

/-- A run, whatever other requests do in it, in which the request gets the answers. -/
inductive Follows : ResolverState → List ResolverEvent → ResolverState → Prop
  | refl (state : ResolverState) : Follows state [] state
  | cons {state next final : ResolverState} {event : ResolverEvent} {events : List ResolverEvent}
      (hanswers : outcomes.Answers place state event)
      (hstep : state.apply setup event = some next) (hrest : Follows next events final) :
      Follows state (event :: events) final

variable (identity : RuntimeIdentity) (previous : Option CacheEntry)

/-- How far a refresh has come, and the sources that it has asked. -/
inductive Stage (default : DefaultCatalog) : Phase → List SourceKind → Prop
  | fetching (hrelease : identity.isBeta = false) : Stage default (.fetching previous) [.remote]
  | generating {asked : List SourceKind}
      (hlacks : RemoteLacks setup outcomes identity previous asked) :
      Stage default .generating (asked ++ [.installed])
  | defaulting {asked last : List SourceKind}
      (hlacks : RemoteLacks setup outcomes identity previous asked)
      (hfails : outcomes.Fails setup .installed)
      (hlast : last = [] ∨ last = [.default] ∧ default ≠ .unasked) :
      Stage default .defaulting (asked ++ [.installed] ++ last)
  | storing {entry : CacheEntry} {calls : List SourceKind}
      (hrefreshed : Refreshed setup outcomes identity previous default entry calls) :
      Stage default (.storing entry) calls
  | done (snapshot : Snapshot) (calls : List SourceKind) : Stage default (.done snapshot) calls

structure Underway (state : ResolverState) (calls : List SourceKind) : Prop where
  request : ∃ phase, state.requests[place]? = some ⟨identity, phase⟩ ∧
    Stage setup outcomes identity previous state.default phase calls
  defaults : state.DefaultsTo (setup.defaultCatalog outcomes.default)

end Courses

variable {state middle next final : ResolverState} {event : ResolverEvent}
  {events : List ResolverEvent} {place : Nat} {phase old : Phase} {calls asked : List SourceKind}

theorem Happens.default_ne_unasked (h : Happens setup state event next)
    (hdefault : state.default ≠ .unasked) : next.default ≠ .unasked := by
  cases h with
  | move hevent hrequest hmoves =>
    rw [setPhase, hmoves.keeps.default]
    exact hdefault
  | loadDefault hasked =>
    intro hunasked
    rw [default_loadDefault] at hunasked
    cases hunasked
  | askDefault =>
    intro hunasked
    cases hunasked
  | arrive | pass | evict => exact hdefault

theorem Stage.step
    (h : Stage setup outcomes identity previous state.default phase calls)
    (hstep : Happens setup state event next) :
    Stage setup outcomes identity previous next.default phase calls := by
  cases h with
  | fetching hrelease => exact .fetching hrelease
  | generating hlacks => exact .generating hlacks
  | defaulting hlacks hfails hlast =>
    exact .defaulting hlacks hfails (hlast.imp_right fun hasked =>
      ⟨hasked.1, hstep.default_ne_unasked hasked.2⟩)
  | storing hrefreshed => exact .storing (hrefreshed.of_loaded fun _ => hstep.loaded)
  | done snapshot => exact .done snapshot calls

theorem DefaultsTo.step (h : state.DefaultsTo (setup.defaultCatalog outcomes.default))
    (hanswers : outcomes.Answers place state event) (hstep : Happens setup state event next) :
    next.DefaultsTo (setup.defaultCatalog outcomes.default) := by
  intro shared hshared
  rcases hstep.default_cases with ⟨-, hsame⟩ | ⟨answer, loaded, rfl, -, hloaded, hcatalog⟩
  · exact h shared ((hsame shared).mp hshared)
  · obtain rfl : answer = outcomes.default := hanswers
    obtain rfl := DefaultCatalog.loaded.inj (hshared.symm.trans hloaded)
    exact hcatalog

/-! ## What a refresh can come to -/

/-- A request that goes on to a phase is under way if its stage says so. -/
theorem underway_setPhase (hrequest : state.requests[place]? = some ⟨identity, old⟩)
    (hsame : middle.requests = state.requests)
    (hdefaults : middle.DefaultsTo (setup.defaultCatalog outcomes.default))
    (hstage : Stage setup outcomes identity previous middle.default phase calls) :
    Underway setup outcomes place identity previous (middle.setPhase place phase) calls :=
  ⟨⟨phase, getElem?_setPhase_self hrequest hsame, hstage⟩, hdefaults⟩

theorem underway_askInstalled (hrequest : state.requests[place]? = some ⟨identity, old⟩)
    (hdefaults : state.DefaultsTo (setup.defaultCatalog outcomes.default))
    (hlacks : RemoteLacks setup outcomes identity previous asked) :
    Underway setup outcomes place identity previous (state.askInstalled place identity)
      (asked ++ [.installed]) := by
  have hnoted : (state.note .installed (some identity)).requests = state.requests := rfl
  exact underway_setPhase hrequest hnoted hdefaults (.generating hlacks)

theorem Underway.remoteAnswers {answer : RemoteAnswer}
    (h : Underway setup outcomes place identity previous state calls)
    (hanswer : answer = outcomes.remote) (htime : state.clock = outcomes.time)
    (hstep : state.apply setup (.remoteAnswers place answer) = some next) :
    ∃ asked, CalledSince state next asked ∧
      Underway setup outcomes place identity previous next (calls ++ asked) := by
  obtain ⟨⟨phase, hrequest, hstage⟩, hdefaults⟩ := h
  subst hanswer
  cases hstage with
  | fetching hrelease =>
    cases hgives : outcomes.remote.toOption.bind setup.usable? with
    | some catalog =>
      obtain rfl := Option.some.inj ((remoteAnswers_of_gives hrequest hgives).symm.trans hstep)
      refine ⟨[], (CalledSince.refl state).of_calls_eq (calls_publish identity .remote catalog),
        underway_setPhase hrequest (requests_publish _ _) (hdefaults.publish _ _ _) ?_⟩
      exact .storing (.fetched hrelease (Outcomes.gives_iff.mpr hgives)
        (htime ▸ holds_publish identity .remote catalog _))
    | none =>
      have hfails : outcomes.Fails setup .remote := Outcomes.fails_iff.mpr hgives
      cases hkept : kept? previous with
      | some entry =>
        obtain rfl :=
          Option.some.inj ((remoteAnswers_of_kept hrequest hgives hkept).symm.trans hstep)
        obtain ⟨hprevious, hremote⟩ := kept?_eq_some_iff.mp hkept
        exact ⟨[], .refl state, underway_setPhase hrequest rfl hdefaults
          (.storing (.kept hrelease hfails hprevious hremote))⟩
      | none =>
        obtain rfl :=
          Option.some.inj ((remoteAnswers_of_lacks hrequest hgives hkept).symm.trans hstep)
        exact ⟨[.installed], (CalledSince.refl state).note .installed (some identity),
          underway_askInstalled hrequest hdefaults
            (.failed hrelease hfails (forall_source_ne_of_kept? hkept))⟩
  | generating | defaulting | storing | done =>
    simp only [apply, ResolverState.remoteAnswers, hrequest, Option.bind_some, reduceCtorEq]
      at hstep

theorem Underway.installedAnswers {answer : InstalledAnswer}
    (h : Underway setup outcomes place identity previous state calls)
    (hanswer : answer = outcomes.installed)
    (hstep : state.apply setup (.installedAnswers place answer) = some next) :
    ∃ asked, CalledSince state next asked ∧
      Underway setup outcomes place identity previous next (calls ++ asked) := by
  obtain ⟨⟨phase, hrequest, hstage⟩, hdefaults⟩ := h
  subst hanswer
  refine ⟨[], ?_⟩
  rw [List.append_nil]
  cases hstage with
  | generating hlacks =>
    cases hgives : (outcomes.installed.toOption.bind id).bind setup.usable? with
    | some catalog =>
      obtain rfl := Option.some.inj ((installedAnswers_of_gives hrequest hgives).symm.trans hstep)
      refine ⟨(CalledSince.refl state).of_calls_eq (calls_publish identity .installed catalog),
        underway_setPhase hrequest (requests_publish _ _) (hdefaults.publish _ _ _) ?_⟩
      exact .storing (.installed hlacks (Outcomes.gives_iff.mpr hgives)
        (holds_publish identity .installed catalog none))
    | none =>
      obtain rfl := Option.some.inj ((installedAnswers_of_fails hrequest hgives).symm.trans hstep)
      refine ⟨.refl state, underway_setPhase hrequest rfl hdefaults ?_⟩
      rw [← List.append_nil (_ ++ [SourceKind.installed])]
      exact .defaulting hlacks (Outcomes.fails_iff.mpr hgives) (.inl rfl)
  | fetching | defaulting | storing | done =>
    simp only [apply, ResolverState.installedAnswers, hrequest, Option.bind_some, reduceCtorEq]
      at hstep

theorem Underway.proceed (h : Underway setup outcomes place identity previous state calls)
    (hstep : state.apply setup (.proceed place) = some next) :
    ∃ asked, CalledSince state next asked ∧
      Underway setup outcomes place identity previous next (calls ++ asked) := by
  obtain ⟨⟨phase, hrequest, hstage⟩, hdefaults⟩ := h
  cases hstage with
  | defaulting hlacks hfails hlast =>
    cases hdefault : state.default with
    | unasked =>
      -- the source has not been asked before, so this call is its first
      obtain rfl := Option.some.inj ((proceed_of_unasked hrequest hdefault).symm.trans hstep)
      obtain rfl : _ = [] := hlast.resolve_right fun hasked => hasked.2 hdefault
      refine ⟨[.default], (CalledSince.refl state).note .default none |>.of_calls_eq rfl,
        ⟨.defaulting, hrequest, ?_⟩, nofun⟩
      rw [List.append_nil]
      exact .defaulting hlacks hfails (.inr ⟨rfl, nofun⟩)
    | asked =>
      cases (proceed_of_asked hrequest hdefault).symm.trans hstep
    | loaded shared =>
      obtain rfl := Option.some.inj ((proceed_of_loaded hrequest hdefault).symm.trans hstep)
      refine ⟨[], (CalledSince.refl state).of_calls_eq rfl, ?_⟩
      rw [List.append_nil]
      refine underway_setPhase hrequest rfl hdefaults (.storing ?_)
      rw [show (state.snapDefault identity shared).2.default = .loaded shared from hdefault]
      refine refreshed_of_loaded hlacks hfails ?_ (hdefaults shared hdefault) rfl
        (holds_snapDefault identity shared)
      rcases hlast with rfl | ⟨rfl, -⟩
      · exact List.nil_prefix
      · exact List.prefix_rfl
  | @storing entry _ hrefreshed =>
    obtain rfl := Option.some.inj ((proceed_storing hrequest).symm.trans hstep)
    refine ⟨[], (CalledSince.refl state).of_calls_eq rfl, ?_⟩
    exact underway_setPhase hrequest rfl hdefaults (.done _ _)
  | fetching | generating | done =>
    simp only [apply, ResolverState.proceed, hrequest, Option.bind_some, reduceCtorEq] at hstep

/-- A refresh begins with a call to the remote source or, for betas, to the installed runtime. -/
theorem underway_of_entering (hrequest : state.requests[place]? = some ⟨identity, .entering⟩)
    (hstale : state.freshEntry? setup identity = none)
    (hdefaults : state.DefaultsTo (setup.defaultCatalog outcomes.default))
    (hstep : state.apply setup (.proceed place) = some next) :
    ∃ asked, CalledSince state next asked ∧
      Underway setup outcomes place identity (state.entry? identity) next asked := by
  obtain rfl := Option.some.inj ((proceed_of_entering hrequest hstale).symm.trans hstep)
  split
  · rename_i hbeta
    exact ⟨[.installed], (CalledSince.refl state).note .installed (some identity),
      underway_askInstalled hrequest hdefaults (.skipped hbeta)⟩
  · rename_i hrelease
    have hnoted : (state.note .remote (some identity)).requests = state.requests := rfl
    exact ⟨[.remote], (CalledSince.refl state).note .remote (some identity),
      underway_setPhase hrequest hnoted hdefaults (.fetching (Bool.not_eq_true _ ▸ hrelease))⟩

/-- What the calls of the request become in a step. -/
theorem Underway.step (h : Underway setup outcomes place identity previous state calls)
    (hanswers : outcomes.Answers place state event)
    (hstep : state.apply setup event = some next) :
    Underway setup outcomes place identity previous next
      (calls ++ if event.request? = some place then
        (next.madeSince state).reverse.map (·.source) else []) := by
  by_cases hevent : event.request? = some place
  · have hown : ∃ asked, CalledSince state next asked ∧
        Underway setup outcomes place identity previous next (calls ++ asked) := by
      cases event with
      | proceed request =>
        obtain rfl : request = place := Option.some.inj hevent
        exact h.proceed hstep
      | remoteAnswers request answer =>
        obtain rfl : request = place := Option.some.inj hevent
        exact h.remoteAnswers (hanswers rfl).1 (hanswers rfl).2 hstep
      | installedAnswers request answer =>
        obtain rfl : request = place := Option.some.inj hevent
        exact h.installedAnswers (hanswers rfl) hstep
      | arrive | defaultAnswers | pass | evict => cases hevent
    obtain ⟨asked, hcalled, hunderway⟩ := hown
    rwa [if_pos hevent, hcalled.sources_eq]
  · obtain ⟨⟨phase, hrequest, hstage⟩, hdefaults⟩ := h
    have hhappens := happens_of_apply hstep
    rw [if_neg hevent, List.append_nil]
    exact ⟨⟨phase, hhappens.request_of_ne hrequest hevent, hstage.step hhappens⟩,
      hdefaults.step hanswers hhappens⟩

theorem Follows.underway (hfollows : Follows setup outcomes place state events final)
    (h : Underway setup outcomes place identity previous state calls) :
    Underway setup outcomes place identity previous final
      (calls ++ (callsOf setup place state events).reverse.map (·.source)) := by
  induction hfollows generalizing calls with
  | refl state =>
    rw [callsOf, List.reverse_nil, List.map_nil, List.append_nil]
    exact h
  | @cons state next final event events hanswers hstep hrest ih =>
    have hlater := ih (h.step hanswers hstep)
    rw [callsOf, hstep, Option.elim_some, List.reverse_append, List.map_append, ← List.append_assoc]
    split
    · rename_i hevent
      rwa [if_pos hevent] at hlater
    · rename_i hevent
      rwa [if_neg hevent] at hlater

/-! ## A refresh can end -/

/-- The request can go on until it is about to store an entry. -/
def Finishes (setup : ResolverSetup) (outcomes : Outcomes) (place : Nat)
    (identity : RuntimeIdentity) (state : ResolverState) : Prop :=
  ∃ events final entry, Follows setup outcomes place state events final ∧
    final.requests[place]? = some ⟨identity, .storing entry⟩

theorem finishes_of_storing {entry : CacheEntry}
    (hrequest : state.requests[place]? = some ⟨identity, .storing entry⟩) :
    Finishes setup outcomes place identity state :=
  ⟨[], state, entry, .refl state, hrequest⟩

theorem finishes_of_step (event : ResolverEvent) (hstep : state.apply setup event = some next)
    (hanswers : outcomes.Answers place state event)
    (h : Finishes setup outcomes place identity next) :
    Finishes setup outcomes place identity state := by
  obtain ⟨events, final, entry, hfollows, hentry⟩ := h
  exact ⟨event :: events, final, entry, .cons hanswers hstep hfollows, hentry⟩

theorem finishes_of_loaded {shared : SharedCatalog}
    (hrequest : state.requests[place]? = some ⟨identity, .defaulting⟩)
    (hdefault : state.default = .loaded shared) :
    Finishes setup outcomes place identity state :=
  finishes_of_step (.proceed place) (proceed_of_loaded hrequest hdefault) trivial
    (finishes_of_storing (getElem?_setPhase_self hrequest rfl))

theorem finishes_of_asked (hrequest : state.requests[place]? = some ⟨identity, .defaulting⟩)
    (hdefault : state.default = .asked) : Finishes setup outcomes place identity state := by
  have hstep : state.apply setup (.defaultAnswers outcomes.default) =
      some (state.loadDefault setup outcomes.default).2 := by
    simp only [apply, defaultAnswers, hdefault]
  refine finishes_of_step (.defaultAnswers outcomes.default) hstep rfl
    (finishes_of_loaded ?_ (default_loadDefault _))
  rw [requests_loadDefault, hrequest]

theorem finishes_of_defaulting
    (hrequest : state.requests[place]? = some ⟨identity, .defaulting⟩) :
    Finishes setup outcomes place identity state := by
  cases hdefault : state.default with
  | unasked =>
    exact finishes_of_step (.proceed place) (proceed_of_unasked hrequest hdefault) trivial
      (finishes_of_asked hrequest rfl)
  | asked => exact finishes_of_asked hrequest hdefault
  | loaded shared => exact finishes_of_loaded hrequest hdefault

theorem finishes_of_generating
    (hrequest : state.requests[place]? = some ⟨identity, .generating⟩) :
    Finishes setup outcomes place identity state := by
  have hanswers : outcomes.Answers place state (.installedAnswers place outcomes.installed) :=
    fun _ => rfl
  cases hgives : (outcomes.installed.toOption.bind id).bind setup.usable? with
  | some catalog =>
    exact finishes_of_step (.installedAnswers place _)
      (installedAnswers_of_gives hrequest hgives) hanswers
      (finishes_of_storing (getElem?_setPhase_self hrequest (requests_publish _ _)))
  | none =>
    exact finishes_of_step (.installedAnswers place _)
      (installedAnswers_of_fails hrequest hgives) hanswers
      (finishes_of_defaulting (getElem?_setPhase_self hrequest rfl))

theorem finishes_of_answered
    (hrequest : state.requests[place]? = some ⟨identity, .fetching previous⟩)
    (htime : state.clock = outcomes.time) : Finishes setup outcomes place identity state := by
  have hanswers : outcomes.Answers place state (.remoteAnswers place outcomes.remote) :=
    fun _ => ⟨rfl, htime⟩
  cases hgives : outcomes.remote.toOption.bind setup.usable? with
  | some catalog =>
    exact finishes_of_step (.remoteAnswers place _)
      (remoteAnswers_of_gives hrequest hgives) hanswers
      (finishes_of_storing (getElem?_setPhase_self hrequest (requests_publish _ _)))
  | none =>
    cases hkept : kept? previous with
    | some entry =>
      exact finishes_of_step (.remoteAnswers place _)
        (remoteAnswers_of_kept hrequest hgives hkept) hanswers
        (finishes_of_storing (getElem?_setPhase_self hrequest rfl))
    | none =>
      have hnoted : (state.note .installed (some identity)).requests = state.requests := rfl
      exact finishes_of_step (.remoteAnswers place _)
        (remoteAnswers_of_lacks hrequest hgives hkept) hanswers
        (finishes_of_generating (getElem?_setPhase_self hrequest hnoted))

theorem finishes_of_fetching
    (hrequest : state.requests[place]? = some ⟨identity, .fetching previous⟩)
    (htime : state.clock ≤ outcomes.time) : Finishes setup outcomes place identity state := by
  have hpass : state.apply setup (.pass (outcomes.time - state.clock)) =
      some (state.pass (outcomes.time - state.clock)) := rfl
  exact finishes_of_step (.pass _) hpass trivial
    (finishes_of_answered hrequest (Nat.add_sub_cancel' htime))

theorem exists_follows_of_entering
    (hrequest : state.requests[place]? = some ⟨identity, .entering⟩)
    (hstale : state.freshEntry? setup identity = none) (htime : state.clock ≤ outcomes.time) :
    ∃ events final entry, Follows setup outcomes place state (.proceed place :: events) final ∧
      final.requests[place]? = some ⟨identity, .storing entry⟩ := by
  have hfinishes : ∀ {next}, state.apply setup (.proceed place) = some next →
      Finishes setup outcomes place identity next →
      ∃ events final entry, Follows setup outcomes place state (.proceed place :: events) final ∧
        final.requests[place]? = some ⟨identity, .storing entry⟩ := by
    rintro next hstep ⟨events, final, entry, hfollows, hentry⟩
    exact ⟨events, final, entry, .cons trivial hstep hfollows, hentry⟩
  apply hfinishes (proceed_of_entering hrequest hstale)
  split
  · have hnoted : (state.note .installed (some identity)).requests = state.requests := rfl
    exact finishes_of_generating (getElem?_setPhase_self hrequest hnoted)
  · have hnoted : (state.note .remote (some identity)).requests = state.requests := rfl
    exact finishes_of_fetching (getElem?_setPhase_self hrequest hnoted) htime

theorem exists_defaultsTo_of_run (hrun : initial.run setup events = some state) :
    ∃ answer, state.DefaultsTo (setup.defaultCatalog answer) := by
  by_cases hloaded : ∃ shared, state.default = .loaded shared
  · obtain ⟨shared, hshared⟩ := hloaded
    rcases loaded_cases hrun hshared with hinitial | ⟨answer, -, hcatalog⟩
    · cases hinitial
    · refine ⟨answer, fun other hother => ?_⟩
      obtain rfl := DefaultCatalog.loaded.inj (hshared.symm.trans hother)
      exact hcatalog
  · exact ⟨.ok [], fun shared hshared => absurd ⟨shared, hshared⟩ hloaded⟩

/-- Whatever the sources answer, a refresh ends with the entry of the first of them that is of use,
and asks none behind it. So does one among other requests, which can always end. Of the default
source the answer counts that its catalog has been loaded from or, if none is loaded yet, the answer
to come; there is one in all states of a run. -/
theorem refreshed_of_outcomes (setup : ResolverSetup) (identity : RuntimeIdentity)
    (state : ResolverState) :
    (∀ events, initial.run setup events = some state →
      ∃ answer, state.DefaultsTo (setup.defaultCatalog answer)) ∧
    ∀ outcomes : Outcomes, state.DefaultsTo (setup.defaultCatalog outcomes.default) →
      (∀ sources : Sources,
        sources.outcomes identity (state.clock + (sources.remote identity).latency)
          outcomes.default = outcomes →
        ((∀ shared, state.default ≠ .loaded shared) →
          sources.default.answer = outcomes.default) →
        let refreshed := state.refresh setup sources identity
        Refreshed setup outcomes identity (state.entry? identity) refreshed.2.default refreshed.1
          ((refreshed.2.madeSince state).reverse.map (·.source))) ∧
      ∀ place, state.requests[place]? = some ⟨identity, .entering⟩ →
        state.freshEntry? setup identity = none →
        (state.clock ≤ outcomes.time →
          ∃ events final entry,
            Follows setup outcomes place state (.proceed place :: events) final ∧
            final.requests[place]? = some ⟨identity, .storing entry⟩) ∧
        ∀ events final entry, Follows setup outcomes place state (.proceed place :: events) final →
          final.requests[place]? = some ⟨identity, .storing entry⟩ →
          Refreshed setup outcomes identity (state.entry? identity) final.default entry
            ((callsOf setup place state (.proceed place :: events)).reverse.map (·.source)) := by
  refine ⟨fun _ => exists_defaultsTo_of_run, fun outcomes hdefaults => ⟨?_, ?_⟩⟩
  · intro sources houtcomes hanswer
    obtain ⟨calls, hcalled, hrefreshed⟩ := refresh_refreshed hdefaults hanswer
    rwa [← hcalled.sources_eq, houtcomes] at hrefreshed
  · intro place hrequest hstale
    refine ⟨exists_follows_of_entering hrequest hstale, ?_⟩
    intro events final entry hfollows hentry
    cases hfollows with
    | @cons _ next _ _ _ _ hstep hrest =>
      obtain ⟨asked, hcalled, hunderway⟩ :=
        underway_of_entering hrequest hstale hdefaults hstep
      obtain ⟨⟨phase, hphase, hstage⟩, -⟩ := hrest.underway hunderway
      obtain rfl : phase = .storing entry :=
        congrArg Request.phase (Option.some.inj (hphase.symm.trans hentry))
      cases hstage with
      | storing hrefreshed =>
        have hown : (ResolverEvent.proceed place).request? = some place := rfl
        rw [callsOf, hstep, Option.elim_some, if_pos hown, List.reverse_append, List.map_append,
          hcalled.sources_eq]
        exact hrefreshed

/-- A release is let in, and nothing is kept. -/
def entered : ResolverState :=
  { initial with requests := [⟨release, .entering⟩] }

/-- Only the default source gives a catalog. -/
def onlyDefault : Outcomes where
  remote := unreachable
  time := 40
  installed := .ok none
  default := .ok sentCatalog

/-- A release for which there is only the default catalog gets it, without a time. -/
theorem refreshed_onlyDefault :
    entered.DefaultsTo (briefSetup.defaultCatalog onlyDefault.default) ∧
    entered.requests[0]? = some ⟨release, .entering⟩ ∧
    entered.freshEntry? briefSetup release = none ∧ entered.clock ≤ onlyDefault.time ∧
    ∃ events final entry, Follows briefSetup onlyDefault 0 entered (.proceed 0 :: events) final ∧
      final.requests[0]? = some ⟨release, .storing entry⟩ ∧
      entry.snapshot.source = .default ∧ entry.fetchedAt = none := by
  have hdefaults : entered.DefaultsTo (briefSetup.defaultCatalog onlyDefault.default) := nofun
  have hstale : entered.freshEntry? briefSetup release = none := by
    simp [entered, initial, freshEntry?, entry?]
  have hgives : ∃ catalog, onlyDefault.Gives briefSetup .default catalog := by
    have hread : ((Catalog.parse sentCatalog).toOption.any fun catalog => !catalog.isEmpty) =
        true := by
      decide +kernel
    obtain ⟨catalog, hcatalog, hfilled⟩ := (Option.any_eq_true _ _).mp hread
    refine ⟨catalog, sentCatalog, rfl, ?_, ?_⟩
    · exact toOption_eq_some_iff.mp hcatalog
    · simpa [Catalog.isEmpty] using hfilled
  obtain ⟨-, hall⟩ := refreshed_of_outcomes briefSetup release entered
  obtain ⟨-, hamong⟩ := hall onlyDefault hdefaults
  obtain ⟨hfinishes, hends⟩ := hamong 0 rfl hstale
  obtain ⟨events, final, entry, hfollows, hentry⟩ := hfinishes (by decide)
  refine ⟨hdefaults, rfl, hstale, by decide, events, final, entry, hfollows, hentry, ?_⟩
  have hrefreshed := hends events final entry hfollows hentry
  generalize (callsOf briefSetup 0 entered (.proceed 0 :: events)).reverse.map (·.source) = calls
    at hrefreshed
  cases hrefreshed with
  | default _ _ _ _ hentry => exact ⟨hentry.source, hentry.fetchedAt⟩
  | empty _ _ _ hunusable =>
    obtain ⟨catalog, hgives⟩ := hgives
    exact absurd hgives (hunusable catalog)
  | fetched _ hgives =>
    obtain ⟨bytes, hbytes, -⟩ := hgives
    cases hbytes
  | installed _ hgives =>
    obtain ⟨bytes, hbytes, -⟩ := hgives
    cases hbytes
  | kept _ _ hprevious =>
    rw [show entered.entry? release = none by simp [entered, initial, entry?]] at hprevious
    cases hprevious

end ResolverState

end FeatureCheck
