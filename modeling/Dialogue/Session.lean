import Dialogue.Run.Resumption
import Dialogue.Run.Walk
import Dialogue.RunStore

/-!
# Sessions

A session holds one run of a flow at a time. It is started, it is sent answers, and it is reset to
a new run; a call in the wrong state changes nothing. An operation that needs an effect is left
pending until the outcome is there, and other calls may come in between. A reset discards the run
but not its pending operation, which then ends without going on.
-/
namespace Dialogue

/-- An operation that waits for the outcome of an effect, and the run it belongs to. -/
structure Pending where
  run : String
  /-- The run that was observed when the effect was asked for; its event goes there. -/
  observed : String
  node : Node
  request : EffectRequest

/-- What a caller gets from an operation. -/
inductive Outcome where
  | returned (snapshot : Snapshot)
  | waiting (p : Pending)
  /-- The flow goes round for ever. -/
  | endless

structure Session where
  engine : Engine
  current : Run
  /-- The runs before the current one, latest first. -/
  discarded : List Run := []
  /-- The run that events are recorded for: the one that was started last. -/
  observed : String := Observer.unbound
  events : List RunEvent := []
  /-- The requests for effects, in the order in which they were made. -/
  requests : List EffectRequest := []
  store : Option RunStore := none
  /-- How many log entries of the current run are in the store. -/
  persisted : Nat := 0

namespace Session

/-- The id of a session's run by its number. -/
def runId (number : Nat) : String := s!"run-{number}"

def make (engine : Engine) (store : Option RunStore) : Session :=
  { engine := engine, current := { id := runId 0 }, store := store }

/-- The run of an operation, current or discarded. -/
def run? (s : Session) (id : String) : Option Run :=
  if s.current.id = id then some s.current else s.discarded.find? (·.id = id)

def setRun (s : Session) (run : Run) : Session :=
  if s.current.id = run.id then { s with current := run }
  else { s with discarded := s.discarded.map fun r => if r.id = run.id then run else r }

/-- Records events for a run. -/
def emitFor (s : Session) (run : String) (events : List Event) : Session :=
  { s with events := s.events ++ events.map fun e => ⟨run, e⟩ }

/-- Records events for the run that is observed. -/
def emit (s : Session) (events : List Event) : Session := s.emitFor s.observed events

/-- Saves the current run and what is new in its log. What the store does not take is tried again
the next time, and nobody is told; a closed store takes nothing. -/
def persist (s : Session) (id : String) : Session :=
  match s.store with
  | none => s
  | some store =>
    if id ≠ s.current.id ∨ store.closed then s
    else
      let new := s.current.log.drop s.persisted
      match store.append id new s.persisted with
      | (store, some _) => { s with store := some store }
      | (store, none) =>
        { s with
          store := some (match store.save s.current.snapshot s.engine.flow.id with
            | .ok store => store
            | .error _ => store)
          persisted := s.persisted + new.length }

/-- Ends an operation: the run is saved if it is still the current one. -/
def finish (s : Session) (run : Run) : Session × Outcome :=
  ((s.setRun run).persist run.id, .returned run.snapshot)

/-- Takes over what a leg of a walk did. -/
def absorb (s : Session) (leg : Leg) : Session × Outcome :=
  let s := s.emit leg.events
  match leg.stop with
  | .returned => s.finish leg.run
  | .awaiting node request =>
    ({ s.setRun leg.run with requests := s.requests ++ [request] },
      .waiting ⟨leg.run.id, s.observed, node, request⟩)
  | .endless => (s.setRun leg.run, .endless)

/-- A call that changes nothing. -/
def unchanged (s : Session) : Session × Outcome := (s, .returned s.current.snapshot)

def missingStart : String := "Nó de início não encontrado"

/-- Starts the current run, if it has not been. -/
def start (s : Session) : Session × Outcome :=
  let settings := s.engine.settings
  match s.current.begin? (.str settings.contactName) (.str settings.contactPhone) with
  | .error _ => s.unchanged
  | .ok run =>
    let s := { s with observed := run.id }
    let s := s.emit [.runStarted s.engine.flow.id s.engine.mode]
    match s.engine.flow.startNode? with
    | none =>
      let run := (run.say .system s!"Erro: {missingStart}" none).fail missingStart
      (s.emit [.runFailed missingStart]).finish run
    | some node => s.absorb (s.engine.continueFrom node run)

/-- What an answer does at the step that waits for it. -/
inductive Taken where
  | walkOn (run : Run) (next : Option Node)
  | waitMore (run : Run)
  | failed (run : Run) (events : List Event)

/-- Takes up the answer at the suspended step. A step of another kind cannot take one. -/
def take (e : Engine) (node : Node) (run : Run) (text : String) : Taken :=
  match node.kind? with
  | some .input =>
    match e.bindInput node run text with
    | .ok (run, next) => .walkOn run next
    | .error f =>
      let run := run.failAt node f
      .failed run [.runFailed run.failure]
  | some .condition =>
    match e.routeCondition node run text with
    | .ok (run, step) => if step.wait then .waitMore run else .walkOn run step.next
    | .error f =>
      let run := run.failAt node f
      .failed run [.runFailed run.failure]
  | _ =>
    let error := s!"Nó \x27{node.id}\x27 do tipo \x27{node.type}\x27 não aguarda entrada"
    .failed ((run.say .system s!"Erro: {error}" node.id).fail error) []

/-- Whether the run waits for an answer at a step of the flow. -/
def takesAnswer (s : Session) : Bool :=
  !s.current.processing && s.current.resume?.isOk
    && (s.current.current.bind s.engine.flow.node?).isSome

/-- Sends an answer to the current run, if it waits for one. -/
def send (s : Session) (text : String) : Session × Outcome :=
  if s.current.processing then s.unchanged
  else match s.current.resume? with
  | .error _ => s.unchanged
  | .ok _ =>
    match s.current.current.bind s.engine.flow.node? with
    | none =>
      let shown := (Json.ofOption s.current.current).display
      s.finish (s.current.fail s!"Nó atual \x27{shown}\x27 não encontrado")
    | some node =>
      let run := { s.current.say .user text none with status := .running }
      let s := s.emit [.runResumed node.id node.type]
      match take s.engine node run text with
      | .walkOn run next => s.absorb (s.engine.continueFrom next run)
      | .waitMore run => s.finish run.suspend
      | .failed run events => (s.emit events).finish run

/-- Discards the current run and puts a new one in its place. -/
def reset (s : Session) : Session :=
  { s with
    discarded := { s.current with cancelled := true } :: s.discarded
    current := { id := runId (s.discarded.length + 1) }
    persisted := 0 }

/-- Goes on with a pending operation when the outcome of its effect is there. -/
def answer (s : Session) (p : Pending) (outcome : EffectOutcome) : Session × Outcome :=
  match s.run? p.run with
  | none => s.unchanged
  | some run =>
    let s := s.emitFor p.observed [Engine.measured p.node p.request outcome]
    s.absorb (s.engine.takeUp p.node p.request outcome run)

end Session
end Dialogue
