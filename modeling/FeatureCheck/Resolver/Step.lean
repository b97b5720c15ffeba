import FeatureCheck.Resolver.State

/-!
# Resolver steps

What may happen to a resolver: a request arrives, a request goes on by itself, a source answers,
time passes, or all entries are dropped. A run is any sequence of such events; an event that is
not possible in a state has no outcome.

A refresh asks the remote source, except for betas. If that gives no catalog, an entry from an
earlier fetch stays; otherwise the installed runtime is asked, and at last the default catalog,
which is loaded once, is taken. A catalog without features counts as none.
-/

namespace FeatureCheck

set_option autoImplicit false

inductive ResolverEvent where
  | arrive (identity : RuntimeIdentity)
  /-- A request takes its next step that waits for no answer. -/
  | proceed (request : Nat)
  | remoteAnswers (request : Nat) (answer : RemoteAnswer)
  | installedAnswers (request : Nat) (answer : InstalledAnswer)
  | defaultAnswers (answer : RemoteAnswer)
  | pass (milliseconds : Nat)
  | evict

namespace ResolverSetup

def usable? (setup : ResolverSetup) (bytes : Bytes) : Option Catalog :=
  (setup.parse bytes).toOption.filter (!·.isEmpty)

end ResolverSetup

namespace ResolverState

def arrive (state : ResolverState) (identity : RuntimeIdentity) : ResolverState :=
  { state with requests := state.requests ++ [⟨identity, .arriving⟩] }

def pass (state : ResolverState) (milliseconds : Nat) : ResolverState :=
  { state with clock := state.clock + milliseconds }

/-- The entry that a failed fetch leaves in place: one that an earlier fetch made. -/
def kept? (previous : Option CacheEntry) : Option CacheEntry :=
  previous.filter fun entry => entry.snapshot.source = .remote

def snapDefault (state : ResolverState) (identity : RuntimeIdentity) (shared : SharedCatalog) :
    Snapshot × ResolverState :=
  state.snap identity (if shared.catalog.isEmpty then .empty else .default) shared

/-- Keeps what the default source answers; a catalog that cannot be read is empty. -/
def loadDefault (setup : ResolverSetup) (state : ResolverState) (answer : RemoteAnswer) :
    SharedCatalog × ResolverState :=
  match answer.toOption.bind fun bytes => (setup.parse bytes).toOption with
  | some catalog =>
      let (shared, state) := state.share catalog
      (shared, { state.makeGraph shared with default := .loaded shared })
  | none =>
      let (shared, state) := state.share .empty
      (shared, { state with default := .loaded shared })

def askInstalled (state : ResolverState) (index : Nat) (identity : RuntimeIdentity) :
    ResolverState :=
  (state.note .installed (some identity)).setPhase index .generating

/-- Looks for a fresh entry once more and, if there is none, begins the refresh. -/
def enter (setup : ResolverSetup) (state : ResolverState) (index : Nat)
    (identity : RuntimeIdentity) : ResolverState :=
  match state.freshEntry? setup identity with
  | some entry => state.setPhase index (.done entry.snapshot)
  | none =>
      if identity.isBeta then state.askInstalled index identity
      else
        (state.note .remote (some identity)).setPhase index
          (.fetching (state.entry? identity))

/-- Takes the default catalog, or has it loaded. -/
def takeDefault (state : ResolverState) (index : Nat) (identity : RuntimeIdentity) :
    Option ResolverState :=
  match state.default with
  | .unasked => some { state.note .default none with default := .asked }
  | .asked => none
  | .loaded shared =>
      let (snapshot, state) := state.snapDefault identity shared
      some (state.setPhase index (.storing ⟨snapshot, none⟩))

def store (state : ResolverState) (index : Nat) (identity : RuntimeIdentity)
    (entry : CacheEntry) : ResolverState :=
  { state with cache := state.cache.insert identity entry }.setPhase index (.done entry.snapshot)

def proceed (setup : ResolverSetup) (state : ResolverState) (index : Nat) :
    Option ResolverState :=
  (state.requests[index]?).bind fun request =>
    match request.phase with
    | .arriving =>
        match state.freshEntry? setup request.identity with
        | some entry => some (state.setPhase index (.done entry.snapshot))
        | none => some (state.setPhase index .waiting)
    | .waiting =>
        if state.isBusy request.identity then none else some (state.setPhase index .entering)
    | .entering => some (state.enter setup index request.identity)
    | .defaulting => state.takeDefault index request.identity
    | .storing entry => some (state.store index request.identity entry)
    | .fetching _ | .generating | .done _ => none

def remoteAnswers (setup : ResolverSetup) (state : ResolverState) (index : Nat)
    (answer : RemoteAnswer) : Option ResolverState :=
  (state.requests[index]?).bind fun request =>
    match request.phase with
    | .fetching previous =>
        match answer.toOption.bind setup.usable? with
        | some catalog =>
            let (snapshot, published) := state.publish request.identity .remote catalog
            some (published.setPhase index (.storing ⟨snapshot, some state.clock⟩))
        | none =>
            match kept? previous with
            | some entry => some (state.setPhase index (.storing entry))
            | none => some (state.askInstalled index request.identity)
    | _ => none

def installedAnswers (setup : ResolverSetup) (state : ResolverState) (index : Nat)
    (answer : InstalledAnswer) : Option ResolverState :=
  (state.requests[index]?).bind fun request =>
    match request.phase with
    | .generating =>
        match (answer.toOption.bind id).bind setup.usable? with
        | some catalog =>
            let (snapshot, published) := state.publish request.identity .installed catalog
            some (published.setPhase index (.storing ⟨snapshot, none⟩))
        | none => some (state.setPhase index .defaulting)
    | _ => none

def defaultAnswers (setup : ResolverSetup) (state : ResolverState) (answer : RemoteAnswer) :
    Option ResolverState :=
  match state.default with
  | .asked => some (state.loadDefault setup answer).2
  | .unasked | .loaded _ => none

def evict (state : ResolverState) : ResolverState :=
  { state with cache := ∅ }

def apply (setup : ResolverSetup) (state : ResolverState) :
    ResolverEvent → Option ResolverState
  | .arrive identity => some (state.arrive identity)
  | .proceed index => state.proceed setup index
  | .remoteAnswers index answer => state.remoteAnswers setup index answer
  | .installedAnswers index answer => state.installedAnswers setup index answer
  | .defaultAnswers answer => state.defaultAnswers setup answer
  | .pass milliseconds => some (state.pass milliseconds)
  | .evict => some state.evict

/-- The state after a run, if every event of it is possible. -/
def run (setup : ResolverSetup) (state : ResolverState) :
    List ResolverEvent → Option ResolverState
  | [] => some state
  | event :: events => (state.apply setup event).bind fun next => next.run setup events

end ResolverState

end FeatureCheck
