import FeatureCheck.Proofs.Resolver.Step
import Mathlib.Data.List.Infix

/-!
# Runs of a resolver

What holds before and after every step holds before and after a run: `run_induction`. In a run the
clock, the numbers given, the graphs made and the calls only grow (`grows_of_run`), and a request
keeps its place and its identity (`identity_of_run`).
-/

namespace FeatureCheck.ResolverState

set_option autoImplicit false

variable {setup : ResolverSetup} {state middle next final : ResolverState}
  {identity : RuntimeIdentity} {phase phase' : Phase} {event : ResolverEvent}
  {events later : List ResolverEvent} {index place : Nat} {request : Request}

/-! ## What a step leaves alone -/

theorem makeGraph_eq (shared : SharedCatalog) :
    state.makeGraph shared =
      { state with
        withGraph :=
          if state.hasGraph shared then state.withGraph
          else shared.number :: state.withGraph } := by
  unfold makeGraph
  split <;> rfl

@[simp] theorem requests_makeGraph (shared : SharedCatalog) :
    (state.makeGraph shared).requests = state.requests := by
  rw [makeGraph_eq]

@[simp] theorem cache_makeGraph (shared : SharedCatalog) :
    (state.makeGraph shared).cache = state.cache := by
  rw [makeGraph_eq]

@[simp] theorem clock_makeGraph (shared : SharedCatalog) :
    (state.makeGraph shared).clock = state.clock := by
  rw [makeGraph_eq]

@[simp] theorem calls_makeGraph (shared : SharedCatalog) :
    (state.makeGraph shared).calls = state.calls := by
  rw [makeGraph_eq]

@[simp] theorem default_makeGraph (shared : SharedCatalog) :
    (state.makeGraph shared).default = state.default := by
  rw [makeGraph_eq]

@[simp] theorem nextNumber_makeGraph (shared : SharedCatalog) :
    (state.makeGraph shared).nextNumber = state.nextNumber := by
  rw [makeGraph_eq]

@[simp] theorem requests_loadDefault (answer : RemoteAnswer) :
    (state.loadDefault setup answer).2.requests = state.requests := by
  unfold loadDefault
  split <;> simp [share]

@[simp] theorem cache_loadDefault (answer : RemoteAnswer) :
    (state.loadDefault setup answer).2.cache = state.cache := by
  unfold loadDefault
  split <;> simp [share]

@[simp] theorem calls_loadDefault (answer : RemoteAnswer) :
    (state.loadDefault setup answer).2.calls = state.calls := by
  unfold loadDefault
  split <;> simp [share]

@[simp] theorem requests_publish (source : CatalogSource) (catalog : Catalog) :
    (state.publish identity source catalog).2.requests = state.requests := by
  simp [publish, share, snap]

@[simp] theorem calls_publish (identity : RuntimeIdentity) (source : CatalogSource)
    (catalog : Catalog) :
    (state.publish identity source catalog).2.calls = state.calls := by
  simp [publish, share, snap]

@[simp] theorem clock_publish (identity : RuntimeIdentity) (source : CatalogSource)
    (catalog : Catalog) :
    (state.publish identity source catalog).2.clock = state.clock := by
  simp [publish, share, snap]

@[simp] theorem default_publish (identity : RuntimeIdentity) (source : CatalogSource)
    (catalog : Catalog) :
    (state.publish identity source catalog).2.default = state.default := by
  simp [publish, share, snap]

/-- What a request does besides going on to its next phase: it changes the cache only to store an
entry for its identity. -/
structure Keeps (state middle : ResolverState) (identity : RuntimeIdentity) (phase : Phase) :
    Prop where
  requests : middle.requests = state.requests
  clock : middle.clock = state.clock
  default : middle.default = state.default
  cache : middle.cache = state.cache ∨
    ∃ entry, phase = .storing entry ∧ middle.cache = state.cache.insert identity entry

theorem Moves.keeps (h : Moves setup state identity phase phase' middle) :
    Keeps state middle identity phase := by
  cases h with
  | serve | wait | enter | serveInside | skipRemote | fetch | keep | giveUp | lack | takeDefault =>
    exact ⟨rfl, rfl, rfl, .inl rfl⟩
  | receive | receiveInstalled =>
    refine ⟨?_, ?_, ?_, .inl ?_⟩ <;> simp [publish, share, snap]
  | store => exact ⟨rfl, rfl, rfl, .inr ⟨_, rfl, rfl⟩⟩

theorem getElem?_requests_setPhase :
    (state.setPhase index phase).requests[place]? =
      (state.requests[place]?).map fun request =>
        if index = place then { request with phase := phase } else request := by
  simp only [setPhase, List.getElem?_modify]
  split <;> simp

theorem getElem?_setPhase_self (hrequest : state.requests[index]? = some ⟨identity, phase'⟩)
    (hsame : middle.requests = state.requests) :
    (middle.setPhase index phase).requests[index]? = some ⟨identity, phase⟩ := by
  rw [getElem?_requests_setPhase, hsame, hrequest, Option.map_some, if_pos rfl]

theorem getElem?_insert_cache {other : RuntimeIdentity} {entry : CacheEntry} :
    (state.cache.insert identity entry)[other]? =
      if other = identity then some entry else state.entry? other := by
  by_cases h : other = identity
  · rw [if_pos h, h, Std.ExtTreeMap.getElem?_insert_self]
  · have hcompare : compare identity other ≠ .eq := fun heq =>
      h (Std.compare_eq_iff_eq.mp heq).symm
    rw [if_neg h, Std.ExtTreeMap.getElem?_insert, if_neg hcompare, entry?]

/-- A request that an event leaves behind was there before, has just arrived, or went on. -/
theorem Happens.request_cases (h : Happens setup state event next)
    (hrequest : next.requests[place]? = some request) :
    state.requests[place]? = some request ∨
    (event = .arrive request.identity ∧ request.phase = .arriving ∧
      place = state.requests.length) ∨
    (event.request? = some place ∧ ∃ phase middle,
      state.requests[place]? = some ⟨request.identity, phase⟩ ∧
        Moves setup state request.identity phase request.phase middle ∧
        next = middle.setPhase place request.phase) := by
  cases h with
  | arrive identity =>
    rw [ResolverState.arrive, List.getElem?_append] at hrequest
    split at hrequest
    · exact .inl hrequest
    · rw [List.getElem?_singleton] at hrequest
      split at hrequest
      · rename_i hlength hzero
        obtain rfl := Option.some.inj hrequest
        exact .inr (.inl ⟨rfl, rfl, by omega⟩)
      · cases hrequest
  | @move _ index old phase middle hevent hold hmoves =>
    rw [getElem?_requests_setPhase, hmoves.keeps.requests, Option.map_eq_some_iff] at hrequest
    obtain ⟨before, hbefore, heq⟩ := hrequest
    split at heq
    · rename_i hplace
      subst hplace
      obtain rfl : before = old := Option.some.inj (hbefore.symm.trans hold)
      subst heq
      exact .inr (.inr ⟨hevent, before.phase, middle, hbefore, hmoves, rfl⟩)
    · exact .inl (heq ▸ hbefore)
  | askDefault | pass | evict => exact .inl hrequest
  | loadDefault =>
    rw [requests_loadDefault] at hrequest
    exact .inl hrequest

theorem Happens.request_of_ne (h : Happens setup state event next)
    (hrequest : state.requests[place]? = some request) (hother : event.request? ≠ some place) :
    next.requests[place]? = some request := by
  cases h with
  | arrive identity =>
    obtain ⟨hlt, -⟩ := List.getElem?_eq_some_iff.mp hrequest
    rw [ResolverState.arrive, List.getElem?_append_left hlt, hrequest]
  | @move _ index old phase middle hevent hold hmoves =>
    have hne : index ≠ place := fun heq => hother (heq ▸ hevent)
    rw [getElem?_requests_setPhase, hmoves.keeps.requests, hrequest]
    simp [hne]
  | askDefault | pass | evict => exact hrequest
  | loadDefault => rw [requests_loadDefault, hrequest]

/-- The entry of an identity changes only when all entries are dropped or a request for the identity
stores one. -/
theorem Happens.entry?_cases (h : Happens setup state event next) (identity : RuntimeIdentity) :
    next.entry? identity = state.entry? identity ∨
    (event = .evict ∧ next.entry? identity = none) ∨
    ∃ index entry, event.request? = some index ∧
      state.requests[index]? = some ⟨identity, .storing entry⟩ ∧
      next.entry? identity = some entry := by
  cases h with
  | @move _ index request phase middle hevent hrequest hmoves =>
    obtain ⟨asker, asking⟩ := request
    -- a request stores only under its own identity
    rcases hmoves.keeps.cache with hsame | ⟨entry, rfl, hinsert⟩
    · left
      simp only [setPhase, hsame, entry?]
    · by_cases heq : identity = asker
      · subst heq
        refine .inr (.inr ⟨index, entry, hevent, hrequest, ?_⟩)
        simp only [setPhase, hinsert, entry?, getElem?_insert_cache, if_pos]
      · left
        simp only [setPhase, hinsert, entry?, getElem?_insert_cache, if_neg heq]
  | arrive | askDefault | pass => exact .inl rfl
  | loadDefault => exact .inl (by simp [cache_loadDefault, entry?])
  | evict => exact .inr (.inl ⟨rfl, by simp [ResolverState.evict, entry?]⟩)

/-- A request that is there stays as it is or goes on. -/
theorem Happens.request_next_cases (h : Happens setup state event next)
    (hrequest : state.requests[place]? = some request) :
    next.requests[place]? = some request ∨
    ∃ phase middle, Moves setup state request.identity request.phase phase middle ∧
      next.requests[place]? = some ⟨request.identity, phase⟩ := by
  by_cases hmoved : event.request? = some place
  · cases h with
    | @move _ index old phase middle hindex hold hmoves =>
      obtain rfl : index = place := Option.some.inj (hindex.symm.trans hmoved)
      obtain rfl := Option.some.inj (hold.symm.trans hrequest)
      refine .inr ⟨phase, middle, hmoves, ?_⟩
      simp [getElem?_requests_setPhase, hmoves.keeps.requests, hrequest]
    | askDefault => exact .inl hrequest
    | arrive | loadDefault | pass | evict => cases hmoved
  · exact .inl (h.request_of_ne hrequest hmoved)

/-- A request that stores an entry is done with it. -/
theorem Happens.store (h : Happens setup state event next) {entry : CacheEntry}
    (hrequest : state.requests[place]? = some ⟨identity, .storing entry⟩)
    (hevent : event.request? = some place) :
    next.cache = state.cache.insert identity entry ∧
      next.requests[place]? = some ⟨identity, .done entry.snapshot⟩ := by
  cases h with
  | @move _ index request phase middle hindex hindexed hmoves =>
    obtain rfl : index = place := Option.some.inj (hindex.symm.trans hevent)
    obtain rfl := Option.some.inj (hindexed.symm.trans hrequest)
    cases hmoves with
    | store => exact ⟨rfl, by simp [getElem?_requests_setPhase, hrequest]⟩
  | @askDefault index request hindexed hphase =>
    obtain rfl : index = place := Option.some.inj hevent
    obtain rfl := Option.some.inj (hindexed.symm.trans hrequest)
    cases hphase
  | arrive | loadDefault | pass | evict => cases hevent

/-- A request that a step answers is answered with what is kept then. -/
theorem Happens.done_cases (h : Happens setup state event next) {snapshot : Snapshot}
    (hdone : next.requests[place]? = some ⟨identity, .done snapshot⟩) :
    state.requests[place]? = some ⟨identity, .done snapshot⟩ ∨
      ∃ last, next.entry? identity = some last ∧ last.snapshot = snapshot := by
  rcases h.request_cases hdone with hold | ⟨-, harriving, -⟩ | ⟨-, phase, middle, -, hmoves, rfl⟩
  · exact .inl hold
  · cases harriving
  · right
    have hanswers : Moves setup state identity phase (.done snapshot) middle := hmoves
    cases hanswers with
    | serve hfresh => exact ⟨_, (Option.filter_eq_some_iff.mp hfresh).1, rfl⟩
    | serveInside hfresh => exact ⟨_, (Option.filter_eq_some_iff.mp hfresh).1, rfl⟩
    | store => exact ⟨_, getElem?_insert_cache.trans (if_pos rfl), rfl⟩

/-! ## What only grows -/

structure Grows (state next : ResolverState) : Prop where
  clock_le : state.clock ≤ next.clock
  nextNumber_le : state.nextNumber ≤ next.nextNumber
  hasGraph : ∀ shared, state.hasGraph shared = true → next.hasGraph shared = true
  calls : state.calls <:+ next.calls

theorem Grows.refl (state : ResolverState) : Grows state state :=
  ⟨Nat.le_refl _, Nat.le_refl _, fun _ h => h, List.suffix_refl _⟩

theorem Grows.trans (h : Grows state middle) (h' : Grows middle next) : Grows state next where
  clock_le := Nat.le_trans h.clock_le h'.clock_le
  nextNumber_le := Nat.le_trans h.nextNumber_le h'.nextNumber_le
  hasGraph shared hgraph := h'.hasGraph shared (h.hasGraph shared hgraph)
  calls := h.calls.trans h'.calls

theorem Grows.setPhase (h : Grows state next) (index : Nat) (phase : Phase) :
    Grows state (next.setPhase index phase) :=
  ⟨h.clock_le, h.nextNumber_le, h.hasGraph, h.calls⟩

theorem Grows.setDefault (h : Grows state next) (default : DefaultCatalog) :
    Grows state { next with default := default } :=
  ⟨h.clock_le, h.nextNumber_le, h.hasGraph, h.calls⟩

theorem grows_makeGraph (shared : SharedCatalog) : Grows state (state.makeGraph shared) where
  clock_le := by simp
  nextNumber_le := by simp
  hasGraph other hgraph := by
    unfold makeGraph
    split
    · exact hgraph
    · simp only [ResolverState.hasGraph, List.contains_cons, Bool.or_eq_true] at hgraph ⊢
      exact .inr hgraph
  calls := by simp

theorem grows_note (source : SourceKind) (asked : Option RuntimeIdentity) :
    Grows state (state.note source asked) :=
  ⟨Nat.le_refl _, Nat.le_refl _, fun _ h => h, List.suffix_cons _ _⟩

theorem grows_share (catalog : Catalog) : Grows state (state.share catalog).2 :=
  ⟨Nat.le_refl _, Nat.le_succ _, fun _ h => h, List.suffix_refl _⟩

theorem grows_snap (source : CatalogSource) (shared : SharedCatalog) :
    Grows state (state.snap identity source shared).2 :=
  ⟨Nat.le_refl _, Nat.le_succ _, fun _ h => h, List.suffix_refl _⟩

theorem grows_publish (source : CatalogSource) (catalog : Catalog) :
    Grows state (state.publish identity source catalog).2 :=
  ((grows_share catalog).trans (grows_makeGraph _)).trans (grows_snap source _)

theorem grows_loadDefault (answer : RemoteAnswer) :
    Grows state (state.loadDefault setup answer).2 := by
  unfold loadDefault
  split
  · rename_i catalog _
    exact ((grows_share catalog).trans (grows_makeGraph _)).setDefault _
  · exact (grows_share .empty).setDefault _

theorem grows_pass (milliseconds : Nat) : Grows state (state.pass milliseconds) :=
  ⟨Nat.le_add_right _ _, Nat.le_refl _, fun _ h => h, List.suffix_refl _⟩

theorem grows_arrive (identity : RuntimeIdentity) : Grows state (state.arrive identity) :=
  ⟨Nat.le_refl _, Nat.le_refl _, fun _ h => h, List.suffix_refl _⟩

theorem grows_insert (identity : RuntimeIdentity) (entry : CacheEntry) :
    Grows state { state with cache := state.cache.insert identity entry } :=
  ⟨Nat.le_refl _, Nat.le_refl _, fun _ h => h, List.suffix_refl _⟩

theorem grows_evict : Grows state state.evict :=
  ⟨Nat.le_refl _, Nat.le_refl _, fun _ h => h, List.suffix_refl _⟩

theorem Moves.grows (h : Moves setup state identity phase phase' middle) : Grows state middle := by
  cases h with
  | serve | wait | enter | serveInside | keep | lack => exact .refl state
  | skipRemote | giveUp => exact grows_note .installed _
  | fetch => exact grows_note .remote _
  | receive | receiveInstalled => exact grows_publish _ _
  | takeDefault => exact grows_snap _ _
  | store => exact grows_insert _ _

theorem Happens.grows (h : Happens setup state event next) : Grows state next := by
  cases h with
  | move hevent hrequest hmoves => exact hmoves.grows.setPhase _ _
  | askDefault => exact (grows_note .default none).setDefault .asked
  | loadDefault => exact grows_loadDefault _
  | pass milliseconds => exact grows_pass milliseconds
  | arrive identity => exact grows_arrive identity
  | evict => exact grows_evict

/-! ## Runs -/

theorem run_append :
    state.run setup (events ++ later) =
      (state.run setup events).bind fun next => next.run setup later := by
  induction events generalizing state with
  | nil => rfl
  | cons event events ih =>
    simp only [List.cons_append, run, Option.bind_assoc]
    exact Option.bind_congr fun next _ => ih

theorem run_cons_eq_some_iff :
    state.run setup (event :: events) = some final ↔
      ∃ next, state.apply setup event = some next ∧ next.run setup events = some final :=
  Option.bind_eq_some_iff

/-- What every step of a run keeps holds after the run. -/
theorem run_induction {motive : ResolverState → Prop} (h : state.run setup events = some final)
    (hstep : ∀ {state event next}, event ∈ events → motive state →
      Happens setup state event next → motive next)
    (hstart : motive state) : motive final := by
  induction events generalizing state with
  | nil => exact Option.some.inj h ▸ hstart
  | cons event events ih =>
    obtain ⟨next, hnext, hrun⟩ := run_cons_eq_some_iff.mp h
    have hmotive : motive next :=
      hstep List.mem_cons_self hstart (happens_of_apply hnext)
    exact ih hrun (fun hmem => hstep (List.mem_cons_of_mem event hmem)) hmotive

/-- What every step but an eviction keeps holds after a run without evictions. -/
theorem run_induction_of_kept {motive : ResolverState → Prop}
    (h : state.run setup events = some final) (hevents : .evict ∉ events)
    (hstep : ∀ {state event next}, event ≠ .evict → motive state →
      Happens setup state event next → motive next)
    (hstart : motive state) : motive final :=
  run_induction h (fun hevent => hstep fun heq => hevents (heq ▸ hevent)) hstart

theorem grows_of_run (h : state.run setup events = some final) : Grows state final :=
  run_induction (motive := Grows state) h (fun _ hgrows hstep => hgrows.trans hstep.grows)
    (.refl state)

/-- A request keeps its place and its identity. -/
theorem identity_of_run (h : state.run setup events = some final)
    (hrequest : state.requests[place]? = some request) :
    ∃ phase, final.requests[place]? = some ⟨request.identity, phase⟩ := by
  refine run_induction (motive := fun state =>
    ∃ phase, state.requests[place]? = some ⟨request.identity, phase⟩) h ?_ ⟨_, hrequest⟩
  rintro before event after - ⟨phase, hbefore⟩ hstep
  rcases hstep.request_next_cases hbefore with hsame | ⟨phase', middle, -, hafter⟩
  · exact ⟨phase, hsame⟩
  · exact ⟨phase', hafter⟩

end FeatureCheck.ResolverState
