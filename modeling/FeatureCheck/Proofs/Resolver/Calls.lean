import FeatureCheck.Proofs.Resolver.Run

/-!
# Calls to the sources

`callsOf` are the calls that the steps of one request make in a run. A step makes one call at most;
who makes it, and when, is `Asks`. A request that is pending has made no call
(`callsOf_eq_nil_of_pending`), and one that is done makes none any more (`done_of_run`). To be let
in, a request is answered with a fresh entry or fetches, and that once (`fetches_or_served`).
-/

namespace FeatureCheck

set_option autoImplicit false

/-- Neither served yet nor refreshing a catalog. -/
def Phase.isPending : Phase → Bool
  | .arriving | .waiting | .entering => true
  | .fetching _ | .generating | .defaulting | .storing _ | .done _ => false

namespace ResolverState

variable {setup : ResolverSetup} {state middle next final : ResolverState}
  {identity : RuntimeIdentity} {phase phase' : Phase} {event : ResolverEvent}
  {events later : List ResolverEvent} {place : Nat} {request : Request} {call : Call}

/-- The calls in a state that an earlier one does not have. -/
def madeSince (state earlier : ResolverState) : List Call :=
  state.calls.take (state.calls.length - earlier.calls.length)

def callsOf (setup : ResolverSetup) (place : Nat) : ResolverState → List ResolverEvent → List Call
  | _, [] => []
  | state, event :: events =>
      (state.apply setup event).elim [] fun next =>
        callsOf setup place next events ++
          if event.request? = some place then next.madeSince state else []

theorem madeSince_eq_of_append {made : List Call} (h : next.calls = made ++ state.calls) :
    next.madeSince state = made := by
  rw [madeSince, h, List.length_append, Nat.add_sub_cancel, List.take_left]

theorem calls_eq_append (h : Grows state next) :
    next.calls = next.madeSince state ++ state.calls := by
  obtain ⟨made, hmade⟩ := h.calls
  rw [madeSince_eq_of_append hmade.symm, hmade]

theorem madeSince_self : state.madeSince state = [] :=
  madeSince_eq_of_append rfl

theorem madeSince_trans (h : Grows state middle) (h' : Grows middle next) :
    next.madeSince state = next.madeSince middle ++ middle.madeSince state := by
  apply madeSince_eq_of_append
  rw [List.append_assoc, ← calls_eq_append h, ← calls_eq_append h']

theorem callsOf_append (h : state.run setup events = some next) :
    callsOf setup place state (events ++ later) =
      callsOf setup place next later ++ callsOf setup place state events := by
  induction events generalizing state with
  | nil =>
    obtain rfl := Option.some.inj h
    simp [callsOf]
  | cons event events ih =>
    obtain ⟨middle, hmiddle, hrun⟩ := run_cons_eq_some_iff.mp h
    simp only [List.cons_append, callsOf, hmiddle, Option.elim_some, ih hrun, List.append_assoc]

/-- If every step keeps something and, when the request takes it, makes only such calls, the request
makes only such calls in the run. -/
theorem forall_callsOf {motive : ResolverState → Prop} {allowed : Call → Prop}
    (h : state.run setup events = some final)
    (hstep : ∀ {state event next}, event ∈ events → motive state →
      Happens setup state event next → (∃ rest, next.run setup rest = some final) →
        motive next ∧
          (event.request? = some place → ∀ call ∈ next.madeSince state, allowed call))
    (hstart : motive state) : ∀ call ∈ callsOf setup place state events, allowed call := by
  induction events generalizing state with
  | nil => simp [callsOf]
  | cons event events ih =>
    obtain ⟨next, hnext, hrun⟩ := run_cons_eq_some_iff.mp h
    obtain ⟨hmotive, hmade⟩ :=
      hstep List.mem_cons_self hstart (happens_of_apply hnext) ⟨events, hrun⟩
    have hrest := ih hrun (fun hmem => hstep (List.mem_cons_of_mem event hmem)) hmotive
    intro call hcall
    simp only [callsOf, hnext, Option.elim_some, List.mem_append] at hcall
    rcases hcall with hlater | hnow
    · exact hrest call hlater
    · split at hnow
      · rename_i hmoved
        exact hmade hmoved call hnow
      · cases hnow

/-! ## Who calls -/

/-- A call that a request for an identity makes in a step. -/
inductive Asks (setup : ResolverSetup) (state next : ResolverState) (place : Nat)
    (identity : RuntimeIdentity) : Call → Prop where
  | remote (hentering : state.requests[place]? = some ⟨identity, .entering⟩)
      (hstale : state.freshEntry? setup identity = none)
      (hfetching : next.requests[place]? = some ⟨identity, .fetching (state.entry? identity)⟩) :
      Asks setup state next place identity ⟨.remote, some identity, state.clock⟩
  | installed (hgenerating : next.requests[place]? = some ⟨identity, .generating⟩) :
      Asks setup state next place identity ⟨.installed, some identity, state.clock⟩
  | default (hdefaulting : next.requests[place]? = some ⟨identity, .defaulting⟩) :
      Asks setup state next place identity ⟨.default, none, state.clock⟩

theorem Asks.not_pending (h : Asks setup state next place identity call) :
    ∃ phase, next.requests[place]? = some ⟨identity, phase⟩ ∧ phase.isPending = false := by
  cases h with
  | remote _ _ hfetching => exact ⟨_, hfetching, rfl⟩
  | installed hgenerating => exact ⟨_, hgenerating, rfl⟩
  | default hdefaulting => exact ⟨_, hdefaulting, rfl⟩

theorem Happens.calls_cases (h : Happens setup state event next) :
    next.calls = state.calls ∨
    ∃ place identity call, event.request? = some place ∧ next.calls = call :: state.calls ∧
      Asks setup state next place identity call := by
  cases h with
  | @move _ index request phase middle hevent hrequest hmoves =>
    obtain ⟨identity, phase'⟩ := request
    have hnext : (middle.setPhase index phase).requests[index]? = some ⟨identity, phase⟩ := by
      simp [getElem?_requests_setPhase, hmoves.keeps.requests, hrequest]
    cases hmoves with
    | serve | wait | enter | serveInside | keep | lack | takeDefault | store => exact .inl rfl
    | receive | receiveInstalled => exact .inl (by simp [publish, share, snap, setPhase])
    | skipRemote | giveUp => exact .inr ⟨index, identity, _, hevent, rfl, .installed hnext⟩
    | fetch hstale =>
      exact .inr ⟨index, identity, _, hevent, rfl, .remote hrequest hstale hnext⟩
  | @askDefault index request hrequest hphase =>
    obtain ⟨identity, phase⟩ := request
    obtain rfl : phase = .defaulting := hphase
    exact .inr ⟨index, identity, _, rfl, rfl, .default hrequest⟩
  | arrive | pass | evict => exact .inl rfl
  | loadDefault => exact .inl (calls_loadDefault _)

theorem Happens.asks_of_mem (h : Happens setup state event next)
    (hcall : call ∈ next.madeSince state) :
    ∃ place identity, event.request? = some place ∧ Asks setup state next place identity call := by
  rcases h.calls_cases with hsame | ⟨place, identity, made, hevent, hmade, hasks⟩
  · have hmade : next.madeSince state = [] := madeSince_eq_of_append hsame
    rw [hmade] at hcall
    cases hcall
  · have hmade : next.madeSince state = [made] := madeSince_eq_of_append hmade
    rw [hmade, List.mem_singleton] at hcall
    exact ⟨place, identity, hevent, hcall ▸ hasks⟩

/-! ## Before and after -/

theorem Moves.isPending_eq_false (h : Moves setup state identity phase phase' middle)
    (hphase : phase.isPending = false) : phase'.isPending = false := by
  cases h with
  | serve | wait | enter | serveInside | skipRemote | fetch => cases hphase
  | receive | keep | giveUp | receiveInstalled | lack | takeDefault | store => rfl

/-- The request is there and no longer pending. -/
def Passed (place : Nat) (state : ResolverState) : Prop :=
  ∃ request, state.requests[place]? = some request ∧ request.phase.isPending = false

theorem Passed.step (h : Passed place state) (hstep : Happens setup state event next) :
    Passed place next := by
  obtain ⟨request, hrequest, hpassed⟩ := h
  rcases hstep.request_next_cases hrequest with hsame | ⟨phase, middle, hmoves, hnext⟩
  · exact ⟨request, hsame, hpassed⟩
  · exact ⟨_, hnext, hmoves.isPending_eq_false hpassed⟩

theorem Passed.run (h : Passed place state) (hrun : state.run setup events = some final) :
    Passed place final :=
  run_induction hrun (fun _ hpassed hstep => hpassed.step hstep) h

/-- A request that has not been let in yet has made no call. -/
theorem callsOf_eq_nil_of_not_passed (hrun : state.run setup events = some final)
    (h : ¬ Passed place final) : callsOf setup place state events = [] := by
  induction events generalizing state with
  | nil => rfl
  | cons event events ih =>
    obtain ⟨next, hnext, hrest⟩ := run_cons_eq_some_iff.mp hrun
    simp only [callsOf, hnext, Option.elim_some, ih hrest, List.nil_append]
    split
    · rename_i hmoved
      refine List.eq_nil_iff_forall_not_mem.mpr fun call hcall => ?_
      obtain ⟨other, identity, hother, hasks⟩ := (happens_of_apply hnext).asks_of_mem hcall
      obtain rfl : place = other := Option.some.inj (hmoved.symm.trans hother)
      -- whoever has called is no longer pending, then or later
      obtain ⟨phase, hphase, hpassed⟩ := hasks.not_pending
      exact h (Passed.run ⟨_, hphase, hpassed⟩ hrest)
    · rfl

theorem not_passed_of_pending (hrequest : state.requests[place]? = some request)
    (hpending : request.phase.isPending = true) : ¬ Passed place state := by
  rintro ⟨last, hlast, hpassed⟩
  obtain rfl := Option.some.inj (hlast.symm.trans hrequest)
  rw [hpending] at hpassed
  cases hpassed

theorem callsOf_eq_nil_of_pending (hrun : state.run setup events = some final)
    (hrequest : final.requests[place]? = some request) (hpending : request.phase.isPending = true) :
    callsOf setup place state events = [] :=
  callsOf_eq_nil_of_not_passed hrun (not_passed_of_pending hrequest hpending)

theorem Happens.done (h : Happens setup state event next) {snapshot : Snapshot}
    (hrequest : state.requests[place]? = some ⟨identity, .done snapshot⟩) :
    next.requests[place]? = some ⟨identity, .done snapshot⟩ ∧ event.request? ≠ some place := by
  cases h with
  | @move _ index old phase middle hindex hold hmoves =>
    have hne : index ≠ place := by
      rintro rfl
      obtain rfl := Option.some.inj (hold.symm.trans hrequest)
      cases hmoves
    have hevent : event.request? ≠ some place := fun heq =>
      hne (Option.some.inj (hindex.symm.trans heq))
    exact ⟨Happens.request_of_ne (.move hindex hold hmoves) hrequest hevent, hevent⟩
  | @askDefault index old hold hphase =>
    have hne : index ≠ place := by
      rintro rfl
      obtain rfl := Option.some.inj (hold.symm.trans hrequest)
      cases hphase
    exact ⟨hrequest, fun heq => hne (Option.some.inj heq)⟩
  | arrive identity =>
    have harrive : Happens setup state (.arrive identity) (state.arrive identity) :=
      .arrive identity
    exact ⟨harrive.request_of_ne hrequest nofun, nofun⟩
  | pass | evict => exact ⟨hrequest, nofun⟩
  | loadDefault hasked => exact ⟨Happens.request_of_ne (.loadDefault hasked) hrequest nofun, nofun⟩

/-- A request that is done stays so and calls no source. -/
theorem done_of_run {snapshot : Snapshot} (hrun : state.run setup events = some final)
    (hrequest : state.requests[place]? = some ⟨identity, .done snapshot⟩) :
    final.requests[place]? = some ⟨identity, .done snapshot⟩ ∧
      callsOf setup place state events = [] := by
  constructor
  · exact run_induction (motive := fun state =>
      state.requests[place]? = some ⟨identity, .done snapshot⟩) hrun
      (fun _ hdone hstep => (hstep.done hdone).1) hrequest
  · refine List.eq_nil_iff_forall_not_mem.mpr ?_
    refine forall_callsOf (motive := fun state =>
      state.requests[place]? = some ⟨identity, .done snapshot⟩) hrun ?_ hrequest
    intro before event after _ hdone hstep _
    exact ⟨(hstep.done hdone).1, fun hmoved => absurd hmoved (hstep.done hdone).2⟩

/-! ## How often a request fetches -/

def fetchesOf (setup : ResolverSetup) (place : Nat) (state : ResolverState)
    (events : List ResolverEvent) : Nat :=
  (callsOf setup place state events).countP fun call => call.source = .remote

theorem fetchesOf_append (h : state.run setup events = some next) :
    fetchesOf setup place state (events ++ later) =
      fetchesOf setup place next later + fetchesOf setup place state events := by
  rw [fetchesOf, callsOf_append h, List.countP_append]
  rfl

theorem fetchesOf_eq_zero_of_passed (h : Passed place state)
    (hrun : state.run setup events = some final) : fetchesOf setup place state events = 0 := by
  have hall : ∀ call ∈ callsOf setup place state events, call.source ≠ .remote := by
    refine forall_callsOf (motive := Passed place) hrun ?_ h
    intro before event after _ hpassed hstep _
    refine ⟨hpassed.step hstep, fun hmoved call hcall => ?_⟩
    obtain ⟨other, identity, hother, hasks⟩ := hstep.asks_of_mem hcall
    obtain rfl : place = other := Option.some.inj (hmoved.symm.trans hother)
    cases hasks with
    | remote hentering => exact absurd hpassed (not_passed_of_pending hentering rfl)
    | installed | default => nofun
  refine List.countP_eq_zero.mpr fun call hcall => ?_
  simpa using hall call hcall

/-- A request is let in by a step of a run, if at all. -/
theorem exists_passing (hrun : state.run setup events = some final)
    (hbefore : ¬ Passed place state) (hafter : Passed place final) :
    ∃ before event after middle next, events = before ++ event :: after ∧
      state.run setup before = some middle ∧ ¬ Passed place middle ∧
      middle.apply setup event = some next ∧ Passed place next ∧
      next.run setup after = some final := by
  induction events generalizing state with
  | nil =>
    obtain rfl := Option.some.inj hrun
    exact absurd hafter hbefore
  | cons event events ih =>
    obtain ⟨next, hnext, hrest⟩ := run_cons_eq_some_iff.mp hrun
    by_cases hpassed : Passed place next
    · exact ⟨[], event, events, state, next, rfl, rfl, hbefore, hnext, hpassed, hrest⟩
    · obtain ⟨before, other, after, middle, last, rfl, hmiddle, hrun'⟩ := ih hrest hpassed
      exact ⟨event :: before, other, after, middle, last, rfl,
        run_cons_eq_some_iff.mpr ⟨next, hnext, hmiddle⟩, hrun'⟩

/-- A request for a release is let in by being answered at once or by asking the remote source. -/
theorem Happens.passing_cases (h : Happens setup state event next)
    (hbefore : ¬ Passed place state) (hrequest : next.requests[place]? = some ⟨identity, phase⟩)
    (hphase : phase.isPending = false) (hbeta : identity.isBeta = false) :
    event.request? = some place ∧
    ((∃ entry, state.freshEntry? setup identity = some entry ∧ phase = .done entry.snapshot) ∨
      next.madeSince state = [⟨.remote, some identity, state.clock⟩]) := by
  rcases h.request_cases hrequest with hold | ⟨-, harriving, -⟩ | ⟨hevent, phase', middle, hold,
    hmoves, rfl⟩
  · exact absurd ⟨_, hold, hphase⟩ hbefore
  · rw [show phase = .arriving from harriving] at hphase
    cases hphase
  · refine ⟨hevent, ?_⟩
    have hleaves : Moves setup state identity phase' phase middle := hmoves
    cases hleaves with
    | wait | enter => cases hphase
    | serve hfresh => exact .inl ⟨_, hfresh, rfl⟩
    | serveInside hfresh => exact .inl ⟨_, hfresh, rfl⟩
    | skipRemote hstale hskipped =>
      rw [hbeta] at hskipped
      cases hskipped
    | fetch => exact .inr (madeSince_eq_of_append rfl)
    | receive | keep | giveUp | receiveInstalled | lack | takeDefault | store =>
      exact absurd ⟨_, hold, rfl⟩ hbefore

/-- A request for a release that is let in fetches once, unless it is answered with an entry that
is fresh then. -/
theorem fetches_or_served (hrun : state.run setup events = some final)
    (hbefore : ¬ Passed place state) (hrequest : final.requests[place]? = some ⟨identity, phase⟩)
    (hphase : phase.isPending = false) (hbeta : identity.isBeta = false) :
    fetchesOf setup place state events = 1 ∨
    ∃ before after middle entry, events = before ++ after ∧
      state.run setup before = some middle ∧ middle.run setup after = some final ∧
      middle.freshEntry? setup identity = some entry ∧ phase = .done entry.snapshot := by
  obtain ⟨before, event, after, middle, next, rfl, hmiddle, hout, hnext, hin, hafter⟩ :=
    exists_passing hrun hbefore ⟨_, hrequest, hphase⟩
  obtain ⟨⟨asked, entered⟩, hlet, hpassed⟩ := hin
  obtain ⟨last, hlast⟩ := identity_of_run hafter hlet
  obtain rfl : identity = asked :=
    congrArg Request.identity (Option.some.inj (hrequest.symm.trans hlast))
  obtain ⟨hmoved, ⟨entry, hfresh, rfl⟩ | hmade⟩ :=
    (happens_of_apply hnext).passing_cases hout hlet hpassed hbeta
  · right
    refine ⟨before, event :: after, middle, entry, rfl, hmiddle,
      run_cons_eq_some_iff.mpr ⟨next, hnext, hafter⟩, hfresh, ?_⟩
    exact congrArg Request.phase
      (Option.some.inj (hrequest.symm.trans (done_of_run hafter hlet).1))
  · left
    have hlater := fetchesOf_eq_zero_of_passed ⟨_, hlet, hpassed⟩ hafter
    rw [fetchesOf, List.countP_eq_zero] at hlater
    rw [fetchesOf_append hmiddle, fetchesOf, fetchesOf, callsOf_eq_nil_of_not_passed hmiddle hout]
    simp only [callsOf, hnext, Option.elim_some, hmoved, if_true, hmade, List.countP_append,
      List.countP_eq_zero.mpr hlater]
    rfl

end ResolverState

end FeatureCheck
