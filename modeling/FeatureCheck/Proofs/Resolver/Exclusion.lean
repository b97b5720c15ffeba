import FeatureCheck.Proofs.Resolver.Run

/-!
# One refresh at a time

In no state of a run do two requests for one identity refresh at once: a request is let in only
while no other is inside. Hence nothing but an eviction comes between the entry that a refresh has
found and the one that is kept: `Attached`.
-/

namespace FeatureCheck.ResolverState

set_option autoImplicit false

variable {setup : ResolverSetup} {state middle next final : ResolverState}
  {identity : RuntimeIdentity} {phase phase' : Phase} {event : ResolverEvent}
  {events : List ResolverEvent} {place : Nat} {request : Request}

/-- Requests for one identity that refresh are one request. -/
def Exclusive (state : ResolverState) : Prop :=
  ∀ (first second : Nat) (one other : Request),
    state.requests[first]? = some one → state.requests[second]? = some other →
    one.identity = other.identity →
    one.phase.isRefreshing = true → other.phase.isRefreshing = true → first = second

theorem isBusy_eq_false_iff :
    state.isBusy identity = false ↔
      ∀ request ∈ state.requests, request.identity = identity →
        request.phase.isRefreshing = false := by
  simp [isBusy]

theorem Moves.isRefreshing_cases (h : Moves setup state identity phase phase' middle)
    (hphase : phase'.isRefreshing = true) :
    phase.isRefreshing = true ∨ state.isBusy identity = false := by
  cases h with
  | serve | wait | serveInside | store => cases hphase
  | enter hfree => exact .inr hfree
  | skipRemote | fetch | receive | keep | giveUp | receiveInstalled | lack | takeDefault =>
    exact .inl rfl

/-- A request that refreshes has done so before, or is let in while no other does. -/
theorem Happens.isRefreshing_cases (h : Happens setup state event next)
    (hrequest : next.requests[place]? = some request) (hphase : request.phase.isRefreshing = true) :
    (∃ phase, state.requests[place]? = some ⟨request.identity, phase⟩ ∧
      phase.isRefreshing = true) ∨
    (event.request? = some place ∧ state.isBusy request.identity = false) := by
  rcases h.request_cases hrequest with hold | ⟨-, harriving, -⟩ | ⟨hevent, phase, middle, hold,
    hmoves, -⟩
  · exact .inl ⟨request.phase, hold, hphase⟩
  · rw [harriving] at hphase
    cases hphase
  · rcases hmoves.isRefreshing_cases hphase with hinside | hfree
    · exact .inl ⟨phase, hold, hinside⟩
    · exact .inr ⟨hevent, hfree⟩

theorem exclusive_initial : initial.Exclusive := by
  intro first second one other hone
  simp [initial] at hone

theorem Exclusive.step (h : state.Exclusive) (hstep : Happens setup state event next) :
    next.Exclusive := by
  intro first second one other hone hother hsame hrefreshing hrefreshing'
  rcases hstep.isRefreshing_cases hone hrefreshing with
    ⟨phase, hold, hinside⟩ | ⟨hevent, hfree⟩
  · rcases hstep.isRefreshing_cases hother hrefreshing' with
      ⟨phase', hold', hinside'⟩ | ⟨-, hfree'⟩
    · exact h first second _ _ hold hold' hsame hinside hinside'
    · have hout := isBusy_eq_false_iff.mp hfree' _ (List.mem_of_getElem? hold) hsame
      simp [hinside] at hout
  · rcases hstep.isRefreshing_cases hother hrefreshing' with
      ⟨phase', hold', hinside'⟩ | ⟨hevent', -⟩
    · have hout := isBusy_eq_false_iff.mp hfree _ (List.mem_of_getElem? hold') hsame.symm
      simp [hinside'] at hout
    · exact Option.some.inj (hevent.symm.trans hevent')

/-- The entry that a refresh has found is still kept, unless all entries have been dropped. -/
def Attached (state : ResolverState) : Prop :=
  ∀ (place : Nat) (identity : RuntimeIdentity) (previous : Option CacheEntry),
    state.requests[place]? = some ⟨identity, .fetching previous⟩ →
    state.entry? identity = previous ∨ state.entry? identity = none

theorem attached_initial : initial.Attached := by
  intro place identity previous hrequest
  simp [initial] at hrequest

theorem Attached.step (h : state.Attached) (hexclusive : state.Exclusive)
    (hstep : Happens setup state event next) : next.Attached := by
  intro place identity previous hrequest
  rcases hstep.request_cases hrequest with hold | ⟨-, harriving, -⟩ | ⟨-, phase, middle, hold,
    hmoves, rfl⟩
  · rcases hstep.entry?_cases identity with hsame | ⟨-, hnone⟩ | ⟨other, stored, -, hstoring, -⟩
    · rw [hsame]
      exact h place identity previous hold
    · exact .inr hnone
    · -- whoever stores refreshes too, and there is but one
      obtain rfl : place = other := hexclusive place other _ _ hold hstoring rfl rfl rfl
      cases hold.symm.trans hstoring
  · cases harriving
  · have hfetches : Moves setup state identity phase (.fetching previous) middle := hmoves
    cases hfetches with
    | fetch => exact .inl rfl

end FeatureCheck.ResolverState
