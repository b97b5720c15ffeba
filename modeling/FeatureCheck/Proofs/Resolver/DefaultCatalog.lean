import FeatureCheck.Proofs.Resolver.Soundness

/-!
# The default catalog

The default source is asked once at most, whoever needs its catalog first, and what it answers stays
for good: `Happens.default_cases`. Every snapshot that is not from another source shares that one
catalog (`Defaulted`), hence all of them say alike whether it is empty: `default_shared`.
-/

namespace FeatureCheck

set_option autoImplicit false

/-- Made of the default catalog, which may have no features. -/
def Snapshot.IsDefault (snapshot : Snapshot) : Prop :=
  snapshot.source = .default ∨ snapshot.source = .empty

theorem Snapshot.IsDefault.source_eq {snapshot : Snapshot} (h : snapshot.IsDefault)
    (hempty : snapshot.source = .empty ↔ snapshot.shared.catalog.isEmpty = true) :
    snapshot.source = if snapshot.shared.catalog.isEmpty then .empty else .default := by
  split
  · rename_i hcatalog
    exact hempty.mpr hcatalog
  · rename_i hcatalog
    rcases h with hsource | hsource
    · exact hsource
    · exact absurd (hempty.mp hsource) hcatalog

/-- The snapshot that a request has with it. -/
def Phase.snapshot? : Phase → Option Snapshot
  | .fetching previous => previous.map (·.snapshot)
  | .storing entry => some entry.snapshot
  | .done snapshot => some snapshot
  | .arriving | .waiting | .entering | .generating | .defaulting => none

/-- What the default source has given with an answer; one that cannot be read counts as empty. -/
def ResolverSetup.defaultCatalog (setup : ResolverSetup) (answer : RemoteAnswer) : Catalog :=
  (answer.toOption.bind fun bytes => (setup.parse bytes).toOption).getD .empty

def ResolverEvent.defaultAnswer? : ResolverEvent → Option RemoteAnswer
  | .defaultAnswers answer => some answer
  | .arrive _ | .proceed _ | .remoteAnswers .. | .installedAnswers .. | .pass _ | .evict => none

namespace ResolverState

variable {setup : ResolverSetup} {state middle next final : ResolverState}
  {identity : RuntimeIdentity} {phase phase' : Phase} {event : ResolverEvent}
  {events later : List ResolverEvent} {snapshot : Snapshot} {shared : SharedCatalog}
  {answer : RemoteAnswer}

/-! ## Loading -/

theorem catalog_loadDefault (state : ResolverState) (answer : RemoteAnswer) :
    (state.loadDefault setup answer).1.catalog = setup.defaultCatalog answer := by
  unfold loadDefault ResolverSetup.defaultCatalog
  split
  · rename_i catalog hcatalog
    rw [hcatalog]
    rfl
  · rename_i hnone
    rw [hnone]
    rfl

/-- The default catalog is the one that the default source answers, if it is loaded. -/
def DefaultsTo (state : ResolverState) (catalog : Catalog) : Prop :=
  ∀ shared, state.default = .loaded shared → shared.catalog = catalog

theorem DefaultsTo.of_eq {catalog : Catalog} (h : state.DefaultsTo catalog)
    (heq : next.default = state.default) : next.DefaultsTo catalog :=
  fun shared hloaded => h shared (heq ▸ hloaded)

theorem DefaultsTo.of_loaded (h : state.default = .loaded shared) :
    state.DefaultsTo shared.catalog := by
  intro other hother
  rw [h] at hother
  cases hother
  rfl

theorem DefaultsTo.publish {default : Catalog} (h : state.DefaultsTo default)
    (identity : RuntimeIdentity) (source : CatalogSource) (catalog : Catalog) :
    (state.publish identity source catalog).2.DefaultsTo default :=
  h.of_eq (default_publish identity source catalog)

/-- Only an answer of the default source changes what is loaded, and only while it is awaited. -/
theorem Happens.default_cases (h : Happens setup state event next) :
    (event.defaultAnswer? = none ∧
      ∀ shared, next.default = .loaded shared ↔ state.default = .loaded shared) ∨
    ∃ answer shared, event = .defaultAnswers answer ∧ state.default = .asked ∧
      next.default = .loaded shared ∧ shared.catalog = setup.defaultCatalog answer := by
  cases h with
  | @move event index request phase middle hevent hrequest hmoves =>
    left
    constructor
    · cases event with
      | proceed | remoteAnswers | installedAnswers => rfl
      | arrive | defaultAnswers | pass | evict => cases hevent
    · intro shared
      rw [setPhase, hmoves.keeps.default]
  | askDefault hrequest hphase hunasked =>
    left
    refine ⟨rfl, fun shared => ?_⟩
    constructor
    · intro hloaded
      cases hloaded
    · intro hloaded
      rw [hunasked] at hloaded
      cases hloaded
  | @loadDefault answer hasked =>
    right
    exact ⟨answer, (state.loadDefault setup answer).1, rfl, hasked, default_loadDefault answer,
      catalog_loadDefault state answer⟩
  | arrive | pass | evict => exact .inl ⟨rfl, fun shared => Iff.rfl⟩

theorem Happens.loaded (h : Happens setup state event next)
    (hloaded : state.default = .loaded shared) : next.default = .loaded shared := by
  rcases h.default_cases with ⟨-, hsame⟩ | ⟨answer, other, -, hasked, -⟩
  · exact (hsame shared).mpr hloaded
  · rw [hasked] at hloaded
    cases hloaded

theorem loaded_of_run (hrun : state.run setup events = some final)
    (hloaded : state.default = .loaded shared) : final.default = .loaded shared :=
  run_induction (motive := fun state => state.default = .loaded shared) hrun
    (fun _ hloaded hstep => hstep.loaded hloaded) hloaded

/-- Nothing is answered any more once the default is loaded. -/
theorem defaultAnswers_of_loaded (hrun : state.run setup events = some final)
    (hloaded : state.default = .loaded shared) :
    events.filterMap ResolverEvent.defaultAnswer? = [] := by
  induction events generalizing state with
  | nil => rfl
  | cons event events ih =>
    obtain ⟨next, hnext, hrest⟩ := run_cons_eq_some_iff.mp hrun
    have hstep := happens_of_apply hnext
    rcases hstep.default_cases with ⟨hnone, -⟩ | ⟨answer, other, -, hasked, -⟩
    · rw [List.filterMap_cons_none hnone]
      exact ih hrest (hstep.loaded hloaded)
    · rw [hasked] at hloaded
      cases hloaded

/-- What is loaded at the end of a run was there before, or is what the one answer gave. -/
theorem loaded_cases (hrun : state.run setup events = some final)
    (hloaded : final.default = .loaded shared) :
    state.default = .loaded shared ∨
    ∃ answer, events.filterMap ResolverEvent.defaultAnswer? = [answer] ∧
      shared.catalog = setup.defaultCatalog answer := by
  induction events generalizing state with
  | nil =>
    left
    rwa [Option.some.inj hrun]
  | cons event events ih =>
    obtain ⟨next, hnext, hrest⟩ := run_cons_eq_some_iff.mp hrun
    have hstep := happens_of_apply hnext
    rcases hstep.default_cases with ⟨hnone, hsame⟩ | ⟨answer, other, rfl, hasked, hother, hcatalog⟩
    · rcases ih hrest with hbefore | ⟨answer, hanswers, hcatalog⟩
      · exact .inl ((hsame shared).mp hbefore)
      · right
        refine ⟨answer, ?_, hcatalog⟩
        rw [List.filterMap_cons_none hnone, hanswers]
    · have hlast := loaded_of_run hrest hother
      rw [hloaded] at hlast
      obtain rfl := DefaultCatalog.loaded.inj hlast
      right
      have hanswer : (ResolverEvent.defaultAnswers answer).defaultAnswer? = some answer := rfl
      refine ⟨answer, ?_, hcatalog⟩
      rw [List.filterMap_cons_some hanswer, defaultAnswers_of_loaded hrest hother]

/-! ## Asking -/

/-- How often the default source has been asked, by how far its catalog has come. -/
def DefaultCatalog.asks : DefaultCatalog → Nat
  | .unasked => 0
  | .asked | .loaded _ => 1

theorem callCount_note (source kind : SourceKind) (asked : Option RuntimeIdentity) :
    (state.note source asked).callCount kind =
      state.callCount kind + if source = kind then 1 else 0 := by
  simp [note, callCount, List.countP_cons]

theorem Moves.callCount_default (h : Moves setup state identity phase phase' middle) :
    middle.callCount .default = state.callCount .default := by
  cases h with
  | serve | wait | enter | serveInside | keep | lack | takeDefault | store => rfl
  | skipRemote | fetch | giveUp => simp [callCount_note]
  | receive | receiveInstalled => simp [callCount, publish, share, snap]

/-- The snapshots that are kept or that requests have with them share what is loaded, unless they
are from another source. -/
structure Defaulted (state : ResolverState) : Prop where
  callCount_eq : state.callCount .default = DefaultCatalog.asks state.default
  cached : ∀ identity entry, state.entry? identity = some entry → entry.snapshot.IsDefault →
    state.default = .loaded entry.snapshot.shared
  carried : ∀ request ∈ state.requests, ∀ snapshot, request.phase.snapshot? = some snapshot →
    snapshot.IsDefault → state.default = .loaded snapshot.shared

theorem defaulted_initial : initial.Defaulted where
  callCount_eq := rfl
  cached identity entry hentry := by simp [initial, entry?] at hentry
  carried request hrequest := by simp [initial] at hrequest

theorem not_isDefault_publish {source : CatalogSource} (hdefault : source ≠ .default)
    (hempty : source ≠ .empty) (catalog : Catalog) :
    ¬ (state.publish identity source catalog).1.IsDefault := by
  rintro (h | h)
  · exact hdefault h
  · exact hempty h

/-- What a request comes to have with it, it had before, has found in the cache, or has just made,
and then not by itself unless of the default catalog. -/
theorem Moves.snapshot_cases (h : Moves setup state identity phase phase' middle)
    (hsnapshot : phase'.snapshot? = some snapshot) :
    phase.snapshot? = some snapshot ∨
    (∃ entry, state.entry? identity = some entry ∧ entry.snapshot = snapshot) ∨
    ¬ snapshot.IsDefault ∨ state.default = .loaded snapshot.shared := by
  cases h with
  | wait | enter | skipRemote | giveUp | lack => cases hsnapshot
  | serve hfresh =>
    right; left
    exact ⟨_, (Option.filter_eq_some_iff.mp hfresh).1, Option.some.inj hsnapshot⟩
  | serveInside hfresh =>
    right; left
    exact ⟨_, (Option.filter_eq_some_iff.mp hfresh).1, Option.some.inj hsnapshot⟩
  | fetch =>
    right; left
    obtain ⟨entry, hentry, heq⟩ := Option.map_eq_some_iff.mp hsnapshot
    exact ⟨entry, hentry, heq⟩
  | receive =>
    right; right; left
    obtain rfl := Option.some.inj hsnapshot
    exact not_isDefault_publish (by simp) (by simp) _
  | receiveInstalled =>
    right; right; left
    obtain rfl := Option.some.inj hsnapshot
    exact not_isDefault_publish (by simp) (by simp) _
  | keep => exact .inl hsnapshot
  | takeDefault hloaded =>
    right; right; right
    obtain rfl := Option.some.inj hsnapshot
    exact hloaded
  | store => exact .inl hsnapshot

theorem Happens.asks_eq (h : Happens setup state event next)
    (hcount : state.callCount .default = DefaultCatalog.asks state.default) :
    next.callCount .default = DefaultCatalog.asks next.default := by
  cases h with
  | @move _ index request phase middle hevent hrequest hmoves =>
    have hsame : (middle.setPhase index phase).callCount .default = middle.callCount .default := rfl
    rw [hsame, hmoves.callCount_default, hcount, setPhase, hmoves.keeps.default]
  | askDefault hrequest hphase hunasked =>
    have hasked : (state.note .default none).callCount .default = state.callCount .default + 1 := by
      simp [callCount_note]
    rw [hunasked] at hcount
    exact hasked.trans (congrArg (· + 1) hcount)
  | loadDefault hasked =>
    rw [default_loadDefault, callCount, calls_loadDefault]
    rw [hasked] at hcount
    exact hcount
  | arrive | pass | evict => exact hcount

theorem Defaulted.step (h : state.Defaulted) (hstep : Happens setup state event next) :
    next.Defaulted where
  callCount_eq := hstep.asks_eq h.callCount_eq
  cached identity entry hentry hdefault := by
    rcases hstep.entry?_cases identity with hsame | ⟨-, hnone⟩ | ⟨place, stored, -, hstoring,
      hstored⟩
    · rw [hsame] at hentry
      exact hstep.loaded (h.cached identity entry hentry hdefault)
    · rw [hnone] at hentry
      cases hentry
    · obtain rfl := Option.some.inj (hstored.symm.trans hentry)
      have hmem := List.mem_of_getElem? hstoring
      exact hstep.loaded (h.carried _ hmem stored.snapshot rfl hdefault)
  carried request hrequest snapshot hsnapshot hdefault := by
    obtain ⟨place, hplace⟩ := List.mem_iff_getElem?.mp hrequest
    rcases hstep.request_cases hplace with hold | ⟨-, harriving, -⟩ | ⟨-, phase, middle, hold,
      hmoves, -⟩
    · have hmem := List.mem_of_getElem? hold
      exact hstep.loaded (h.carried request hmem snapshot hsnapshot hdefault)
    · rw [harriving] at hsnapshot
      cases hsnapshot
    · have hmem := List.mem_of_getElem? hold
      rcases hmoves.snapshot_cases hsnapshot with hbefore | ⟨entry, hentry, rfl⟩ | hother | hloaded
      · exact hstep.loaded (h.carried _ hmem snapshot hbefore hdefault)
      · exact hstep.loaded (h.cached _ entry hentry hdefault)
      · exact absurd hdefault hother
      · exact hstep.loaded hloaded

theorem Defaulted.run (h : state.Defaulted) (hrun : state.run setup events = some final) :
    final.Defaulted :=
  run_induction hrun (fun _ hdefaulted hstep => hdefaulted.step hstep) h

/-! ## All over a run -/

/-- The snapshot is kept, or a request has been answered with it. -/
def HandsOut (state : ResolverState) (snapshot : Snapshot) : Prop :=
  (∃ identity entry, state.entry? identity = some entry ∧ entry.snapshot = snapshot) ∨
    ∃ request ∈ state.requests, request.phase = .done snapshot

theorem Defaulted.loaded_of_handsOut (h : state.Defaulted) (hout : state.HandsOut snapshot)
    (hdefault : snapshot.IsDefault) : state.default = .loaded snapshot.shared := by
  rcases hout with ⟨identity, entry, hentry, rfl⟩ | ⟨request, hrequest, hdone⟩
  · exact h.cached identity entry hentry hdefault
  · exact h.carried request hrequest snapshot (by rw [hdone]; rfl) hdefault

theorem Sound.empty_iff_of_handsOut (h : state.Sound) (hout : state.HandsOut snapshot) :
    snapshot.source = .empty ↔ snapshot.shared.catalog.isEmpty = true := by
  rcases hout with ⟨identity, entry, hentry, rfl⟩ | ⟨request, hrequest, hdone⟩
  · exact (h.cached identity entry hentry).snapshot.empty_iff
  · have hphase := h.phases request hrequest
    rw [hdone] at hphase
    exact Snapshot.Sound.empty_iff hphase

/-- The default source is asked once at most. All snapshots of the default catalog, whenever they
are kept or returned, share the catalog that its one answer gave, and say alike whether it is
empty. -/
theorem default_shared (hrun : initial.run setup events = some state) :
    state.callCount .default ≤ 1 ∧
    ∀ snapshot, state.HandsOut snapshot → snapshot.IsDefault →
      (∃ answer, events.filterMap ResolverEvent.defaultAnswer? = [answer] ∧
        snapshot.shared.catalog = setup.defaultCatalog answer) ∧
      snapshot.source = (if snapshot.shared.catalog.isEmpty then .empty else .default) ∧
      ∀ (later : List ResolverEvent) (final : ResolverState) (other : Snapshot),
        state.run setup later = some final → final.HandsOut other → other.IsDefault →
        other.shared = snapshot.shared ∧ other.source = snapshot.source := by
  have hdefaulted : state.Defaulted := defaulted_initial.run hrun
  have hsound : state.Sound := sound_initial.run hrun
  constructor
  · rw [hdefaulted.callCount_eq]
    cases state.default with
    | unasked => exact Nat.zero_le 1
    | asked | loaded => exact Nat.le_refl 1
  · intro snapshot hout hdefault
    have hloaded := hdefaulted.loaded_of_handsOut hout hdefault
    have hsource := hdefault.source_eq (hsound.empty_iff_of_handsOut hout)
    refine ⟨?_, hsource, ?_⟩
    · rcases loaded_cases hrun hloaded with hinitial | hanswer
      · cases hinitial
      · exact hanswer
    · intro later final other hlater hother hisDefault
      have hlast := (hdefaulted.run hlater).loaded_of_handsOut hother hisDefault
      rw [loaded_of_run hlater hloaded] at hlast
      have hshared := DefaultCatalog.loaded.inj hlast
      have hsame := hisDefault.source_eq
        ((hsound.run hlater).empty_iff_of_handsOut hother)
      refine ⟨hshared.symm, ?_⟩
      rw [hsame, hsource, hshared]

/-- A release and a beta need the default catalog at once. -/
def bothDefault : List ResolverEvent := [
  .arrive release, .arrive beta, .proceed 0, .proceed 0, .proceed 0, .proceed 1, .proceed 1,
  .proceed 1, .remoteAnswers 0 unreachable, .installedAnswers 0 (.ok none),
  .installedAnswers 1 (.ok none), .proceed 0, .defaultAnswers (.ok sentCatalog), .proceed 1,
  .proceed 0, .proceed 0, .proceed 1]

/-- The release is asked for again when all entries have been dropped. -/
def defaultAgain : List ResolverEvent := [
  .evict, .arrive release, .proceed 2, .proceed 2, .proceed 2, .remoteAnswers 2 unreachable,
  .installedAnswers 2 (.ok none), .proceed 2, .proceed 2]

theorem default_shared_release : ∃ state final entry last,
    initial.run briefSetup bothDefault = some state ∧ state.entry? beta = some entry ∧
    state.run briefSetup defaultAgain = some final ∧ final.entry? release = some last ∧
    entry.snapshot.source = .default ∧ last.snapshot.number ≠ entry.snapshot.number ∧
    state.callCount .default ≤ 1 ∧
    last.snapshot.shared = entry.snapshot.shared ∧ last.snapshot.source = .default := by
  have hruns : (initial.run briefSetup bothDefault).any (fun state =>
      (state.run briefSetup defaultAgain).any fun final =>
        (state.entry? beta).any fun entry => (final.entry? release).any fun last =>
          entry.snapshot.source = .default ∧ last.snapshot.source = .default ∧
            last.snapshot.number ≠ entry.snapshot.number) = true := by
    decide +kernel
  obtain ⟨state, hstate, hruns⟩ := (Option.any_eq_true _ _).mp hruns
  obtain ⟨final, hfinal, hruns⟩ := (Option.any_eq_true _ _).mp hruns
  obtain ⟨entry, hentry, hruns⟩ := (Option.any_eq_true _ _).mp hruns
  obtain ⟨last, hlast, hruns⟩ := (Option.any_eq_true _ _).mp hruns
  obtain ⟨hsource, hagain, hnumber⟩ := of_decide_eq_true hruns
  obtain ⟨hcount, hall⟩ := default_shared hstate
  have hout : state.HandsOut entry.snapshot := .inl ⟨beta, entry, hentry, rfl⟩
  have hout' : final.HandsOut last.snapshot := .inl ⟨release, last, hlast, rfl⟩
  obtain ⟨-, -, hsame⟩ := hall entry.snapshot hout (.inl hsource)
  obtain ⟨hshared, hword⟩ := hsame defaultAgain final last.snapshot hfinal hout' (.inl hagain)
  exact ⟨state, final, entry, last, hstate, hentry, hfinal, hlast, hsource, hnumber, hcount,
    hshared, hword.trans hsource⟩

end ResolverState

end FeatureCheck
