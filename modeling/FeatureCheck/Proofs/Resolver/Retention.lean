import FeatureCheck.Proofs.Resolver.Exclusion
import FeatureCheck.Proofs.Resolver.Soundness

/-!
# Remote entries last

`Retains` says that all requests for an identity carry an entry from a remote fetch, or one from a
later fetch, and that it is kept or about to be. Only an eviction ends this: `Retains.step`. It
holds from where a fetch succeeds (`retains_of_storing`), and wherever an entry from the remote
source is kept (`Coherent`).
-/

namespace FeatureCheck

set_option autoImplicit false

/-- The entry is the earlier one, or it is from a later remote fetch. -/
def CacheEntry.Follows (earlier entry : CacheEntry) : Prop :=
  entry = earlier ∨
    (entry.snapshot.source = .remote ∧ earlier.snapshot.number < entry.snapshot.number ∧
      ∃ old new, earlier.fetchedAt = some old ∧ entry.fetchedAt = some new ∧ old ≤ new)

/-- A request in the phase will store nothing but the entry or one that follows it. -/
def Phase.Carries (earlier : CacheEntry) : Phase → Prop
  | .fetching previous => ∃ entry, previous = some entry ∧ earlier.Follows entry
  | .generating | .defaulting => False
  | .storing entry => earlier.Follows entry
  | .arriving | .waiting | .entering | .done _ => True

theorem Phase.carries_of_not_refreshing {phase : Phase} {earlier : CacheEntry}
    (h : phase.isRefreshing = false) : phase.Carries earlier := by
  cases phase with
  | arriving | waiting | done => trivial
  | entering | fetching | generating | defaulting | storing => cases h

namespace CacheEntry.Follows

variable {earlier entry : CacheEntry}

theorem source_eq (h : earlier.Follows entry) (hremote : earlier.snapshot.source = .remote) :
    entry.snapshot.source = .remote := by
  rcases h with rfl | ⟨hsource, -⟩
  · exact hremote
  · exact hsource

theorem fetchedAt (h : earlier.Follows entry) {time : Nat} (htime : earlier.fetchedAt = some time) :
    ∃ later, entry.fetchedAt = some later ∧ time ≤ later := by
  rcases h with rfl | ⟨-, -, old, new, hold, hnew, hle⟩
  · exact ⟨time, htime, Nat.le_refl time⟩
  · obtain rfl := Option.some.inj (htime.symm.trans hold)
    exact ⟨new, hnew, hle⟩

end CacheEntry.Follows

namespace ResolverState

variable {setup : ResolverSetup} {state middle next final : ResolverState}
  {identity : RuntimeIdentity} {entry : CacheEntry} {phase phase' : Phase} {event : ResolverEvent}
  {events : List ResolverEvent} {place : Nat} {request : Request}

/-- The entry of an identity, or one that follows it, is kept. -/
def Caches (state : ResolverState) (identity : RuntimeIdentity) (earlier : CacheEntry) : Prop :=
  ∃ entry, state.entry? identity = some entry ∧ earlier.Follows entry

structure Retains (state : ResolverState) (identity : RuntimeIdentity) (entry : CacheEntry) :
    Prop where
  not_beta : identity.isBeta = false
  source_eq : entry.snapshot.source = .remote
  number_lt : entry.snapshot.number < state.nextNumber
  fetchedAt : ∃ time, entry.fetchedAt = some time ∧ time ≤ state.clock
  carries : ∀ (place : Nat) (phase : Phase), state.requests[place]? = some ⟨identity, phase⟩ →
    phase.Carries entry
  kept : state.Caches identity entry ∨
    ∃ (place : Nat) (stored : CacheEntry),
      state.requests[place]? = some ⟨identity, .storing stored⟩

/-- What the holder finds in the cache is the entry or one that follows it, unless the holder is
about to store one itself. -/
theorem Retains.caches_of_refreshing (h : state.Retains identity entry)
    (hexclusive : state.Exclusive) (hrequest : state.requests[place]? = some ⟨identity, phase⟩)
    (hphase : phase.isRefreshing = true) (hstoring : ∀ stored, phase ≠ .storing stored) :
    state.Caches identity entry := by
  rcases h.kept with hcaches | ⟨other, stored, hother⟩
  · exact hcaches
  · obtain rfl : place = other :=
      hexclusive place other _ _ hrequest hother rfl hphase rfl
    have hsame : phase = .storing stored :=
      congrArg Request.phase (Option.some.inj (hrequest.symm.trans hother))
    exact absurd hsame (hstoring stored)

/-- A catalog that is fetched now makes an entry that follows. -/
theorem Retains.follows_publish (h : state.Retains identity entry) (catalog : Catalog) :
    entry.Follows ⟨(state.publish identity .remote catalog).1, some state.clock⟩ := by
  obtain ⟨time, htime, hle⟩ := h.fetchedAt
  refine .inr ⟨rfl, ?_, time, state.clock, htime, rfl, hle⟩
  have hnumber : (state.publish identity .remote catalog).1.number = state.nextNumber + 1 := by
    simp [publish, share, snap]
  have hlt := h.number_lt
  simp only [hnumber]
  omega

theorem Retains.carries_of_moves (h : state.Retains identity entry) (hexclusive : state.Exclusive)
    (hrequest : state.requests[place]? = some ⟨identity, phase⟩)
    (hmoves : Moves setup state identity phase phase' middle) : phase'.Carries entry := by
  have hphase : phase.Carries entry := h.carries place phase hrequest
  cases hmoves with
  | serve | wait | enter | serveInside | store => trivial
  | skipRemote hstale hbeta => simp [h.not_beta] at hbeta
  | fetch => exact h.caches_of_refreshing hexclusive hrequest rfl (by simp)
  | receive => exact h.follows_publish _
  | keep =>
    obtain ⟨previous, heq, hfollows⟩ := hphase
    exact Option.some.inj heq ▸ hfollows
  | giveUp hkept =>
    -- what a fetching request carries is from the remote source, so that it would be kept
    obtain ⟨previous, rfl, hfollows⟩ := hphase
    have hsome : kept? (some previous) = some previous :=
      kept?_eq_some_iff.mpr ⟨rfl, hfollows.source_eq h.source_eq⟩
    simp [hsome] at hkept
  | receiveInstalled | lack | takeDefault => exact hphase.elim

/-- What is stored for the identity follows the entry, so that the cache keeps such an entry. -/
theorem Retains.caches_step (h : state.Retains identity entry)
    (hstep : Happens setup state event next) (hevent : event ≠ .evict)
    (hcaches : state.Caches identity entry) : next.Caches identity entry := by
  rcases hstep.entry?_cases identity with hsame | ⟨hevict, -⟩ | ⟨place, stored, -, hstoring, hentry⟩
  · obtain ⟨found, hfound, hfollows⟩ := hcaches
    exact ⟨found, hsame.trans hfound, hfollows⟩
  · exact absurd hevict hevent
  · exact ⟨stored, hentry, h.carries place _ hstoring⟩

theorem Retains.step (h : state.Retains identity entry) (hexclusive : state.Exclusive)
    (hstep : Happens setup state event next) (hevent : event ≠ .evict) :
    next.Retains identity entry where
  not_beta := h.not_beta
  source_eq := h.source_eq
  number_lt := Nat.lt_of_lt_of_le h.number_lt hstep.grows.nextNumber_le
  fetchedAt := by
    obtain ⟨time, htime, hle⟩ := h.fetchedAt
    exact ⟨time, htime, Nat.le_trans hle hstep.grows.clock_le⟩
  carries place phase hrequest := by
    rcases hstep.request_cases hrequest with hold | ⟨-, harriving, -⟩ | ⟨-, phase', middle, hold,
      hmoves, -⟩
    · exact h.carries place phase hold
    · exact Phase.carries_of_not_refreshing (by rw [show phase = .arriving from harriving]; rfl)
    · exact h.carries_of_moves hexclusive hold hmoves
  kept := by
    rcases h.kept with hcaches | ⟨place, stored, hstoring⟩
    · exact .inl (h.caches_step hstep hevent hcaches)
    · -- the entry is not kept yet: this is the step that stores it, or it waits on
      by_cases hmoved : event.request? = some place
      · have hinsert := (hstep.store hstoring hmoved).1
        refine .inl ⟨stored, ?_, h.carries place _ hstoring⟩
        unfold entry?
        rw [hinsert, getElem?_insert_cache, if_pos rfl]
      · exact .inr ⟨place, stored, hstep.request_of_ne hstoring hmoved⟩

/-- Where a request is about to store what it has fetched, all requests carry that. -/
theorem retains_of_storing (hsound : state.Sound) (hexclusive : state.Exclusive)
    (hrequest : state.requests[place]? = some ⟨identity, .storing entry⟩)
    (hremote : entry.snapshot.source = .remote) : state.Retains identity entry := by
  have hentry : entry.Sound state identity :=
    hsound.phases _ (List.mem_of_getElem? hrequest)
  obtain ⟨time, htime⟩ := Option.isSome_iff_exists.mp (hentry.fetchedAt_iff.mpr hremote)
  refine ⟨?_, hremote, hentry.snapshot.number_lt, ⟨time, htime, hentry.fetchedAt_le time htime⟩,
    ?_, .inr ⟨place, entry, hrequest⟩⟩
  · cases hbeta : identity.isBeta with
    | false => rfl
    | true => exact absurd hremote (hentry.snapshot.not_remote hbeta)
  · intro other phase hother
    cases hphase : phase.isRefreshing with
    | false => exact Phase.carries_of_not_refreshing hphase
    | true =>
      -- only the request itself refreshes, and it carries what it is about to store
      obtain rfl : place = other := hexclusive place other _ _ hrequest hother rfl rfl hphase
      obtain rfl : .storing entry = phase :=
        congrArg Request.phase (Option.some.inj (hrequest.symm.trans hother))
      exact .inl rfl

/-- Every entry from the remote source that is kept is what the requests for its identity carry. -/
def Coherent (state : ResolverState) : Prop :=
  ∀ identity entry, state.entry? identity = some entry → entry.snapshot.source = .remote →
    state.Retains identity entry

theorem Coherent.step (h : state.Coherent) (hsound : state.Sound) (hexclusive : state.Exclusive)
    (hstep : Happens setup state event next) : next.Coherent := by
  intro identity entry hentry hremote
  rcases hstep.entry?_cases identity with hsame | ⟨-, hnone⟩ | ⟨place, stored, hevent, hstoring,
    hstored⟩
  · have hevent : event ≠ .evict := by
      rintro rfl
      cases hstep with
      | move hevent => cases hevent
      | evict => simp [ResolverState.evict, entry?] at hentry
    exact (h identity entry (hsame ▸ hentry) hremote).step hexclusive hstep hevent
  · simp [hnone] at hentry
  · obtain rfl : stored = entry := Option.some.inj (hstored.symm.trans hentry)
    have hne : event ≠ .evict := by
      rintro rfl
      cases hevent
    exact (retains_of_storing hsound hexclusive hstoring hremote).step hexclusive hstep hne

/-- What holds in every state of a run. -/
structure Valid (state : ResolverState) : Prop where
  sound : state.Sound
  exclusive : state.Exclusive
  attached : state.Attached
  coherent : state.Coherent

theorem valid_initial : initial.Valid where
  sound := sound_initial
  exclusive := exclusive_initial
  attached := attached_initial
  coherent identity entry hentry := by simp [initial, entry?] at hentry

theorem Valid.step (h : state.Valid) (hstep : Happens setup state event next) : next.Valid where
  sound := h.sound.step hstep
  exclusive := h.exclusive.step hstep
  attached := h.attached.step h.exclusive hstep
  coherent := h.coherent.step h.sound h.exclusive hstep

theorem Valid.run (h : state.Valid) (hrun : state.run setup events = some final) : final.Valid :=
  run_induction hrun (fun _ hvalid hstep => hvalid.step hstep) h

end ResolverState

end FeatureCheck
