import FeatureCheck.Resolver.Step

/-!
# Timelines

A schedule for several requests at once, under a clock that jumps to the next thing that is due.
Requests go on as soon as they can, earlier ones first. Of things due at one time, the eviction
comes first, then arrivals, and then answers.
-/

namespace FeatureCheck

set_option autoImplicit false

inductive Due where
  | answer (request : Nat) (event : ResolverEvent)
  | arrival (place : Nat) (identity : RuntimeIdentity)
  | eviction

def Due.rank : Due → Nat
  | .eviction => 0
  | .arrival .. => 1
  | .answer .. => 2

structure Timeline where
  state : ResolverState
  /-- What is due, soonest first. -/
  agenda : List (Nat × Due)
  /-- Places of the requests that have arrived, in order of arrival. -/
  arrived : List Nat

namespace Timeline

/-- Puts something on the agenda, behind what is due before it or with it. -/
def schedule (time : Nat) (due : Due) : List (Nat × Due) → List (Nat × Due)
  | [] => [(time, due)]
  | (other, item) :: agenda =>
      if time < other ∨ time = other ∧ due.rank < item.rank then
        (time, due) :: (other, item) :: agenda
      else (other, item) :: schedule time due agenda

def answerTo (sources : Sources) (request : Nat) (call : Call) : Delayed ResolverEvent :=
  match call.source, call.identity with
  | .remote, some identity =>
      let remote := sources.remote identity
      ⟨.remoteAnswers request remote.answer, remote.latency⟩
  | .installed, _ =>
      ⟨.installedAnswers request sources.installed.answer, sources.installed.latency⟩
  | _, _ => ⟨.defaultAnswers sources.default.answer, sources.default.latency⟩

/-- Goes on to a state that a step of a request leads to, and awaits the call made in it. -/
def follow (sources : Sources) (timeline : Timeline) (request : Nat) (next : ResolverState) :
    Timeline :=
  if timeline.state.calls.length < next.calls.length then
    match next.calls.head? with
    | some call =>
        let answer := answerTo sources request call
        { timeline with
          state := next
          agenda := schedule (next.clock + answer.latency) (.answer request answer.answer)
            timeline.agenda }
    | none => { timeline with state := next }
  else { timeline with state := next }

/-- The first request that can go on, and the state it leads to. -/
def proceed? (setup : ResolverSetup) (state : ResolverState) : Option (Nat × ResolverState) :=
  (List.range state.requests.length).findSome? fun request =>
    (state.proceed setup request).map fun next => (request, next)

def perform (setup : ResolverSetup) (sources : Sources) (timeline : Timeline) (time : Nat) :
    Due → Timeline
  | .answer request event =>
      let state := timeline.state.pass (time - timeline.state.clock)
      follow sources { timeline with state := state } request
        ((state.apply setup event).getD state)
  | .arrival place identity =>
      { timeline with
        state := (timeline.state.pass (time - timeline.state.clock)).arrive identity
        arrived := timeline.arrived ++ [place] }
  | .eviction =>
      { timeline with state := (timeline.state.pass (time - timeline.state.clock)).evict }

/-- Goes on until nothing is left to do, for at most so many steps. -/
def run (setup : ResolverSetup) (sources : Sources) : Nat → Timeline → Timeline
  | 0, timeline => timeline
  | steps + 1, timeline =>
      match proceed? setup timeline.state with
      | some (request, next) => run setup sources steps (timeline.follow sources request next)
      | none =>
          match timeline.agenda with
          | [] => timeline
          | (time, due) :: agenda =>
              run setup sources steps
                ({ timeline with agenda := agenda }.perform setup sources time due)

def snapshot? (timeline : Timeline) (place : Nat) : Option Snapshot := do
  let request ← timeline.state.requests[← timeline.arrived.idxOf? place]?
  match request.phase with
  | .done snapshot => some snapshot
  | _ => none

/-- The steps that one request takes at most. -/
def stepsPerRequest : Nat := 12

/-- Resolves requests that arrive so many milliseconds from now, with an eviction if one is set. -/
def resolveAll (setup : ResolverSetup) (sources : Sources) (state : ResolverState)
    (requests : List (Nat × RuntimeIdentity)) (evictAfter : Option Nat) :
    List (Option Snapshot) × ResolverState :=
  let arrivals := requests.zipIdx.map fun ((after, identity), place) =>
    (state.clock + after, Due.arrival place identity)
  let evictions := evictAfter.toList.map fun after => (state.clock + after, Due.eviction)
  let agenda := (arrivals ++ evictions).foldl (fun agenda (time, due) =>
    schedule time due agenda) []
  let start : Timeline := ⟨{ state with requests := [] }, agenda, []⟩
  let final := start.run setup sources (stepsPerRequest * requests.length + 2)
  ((List.range requests.length).map final.snapshot?, { final.state with requests := [] })

end Timeline

end FeatureCheck
