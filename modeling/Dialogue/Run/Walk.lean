import Dialogue.Run.Visit

/-!
# Walking through a flow

A walk visits one step after the other until a step waits for an answer, the run ends, or an
effect is needed. Between two effects the way through the steps is fixed, so a walk that comes to
more steps than the flow has goes round for ever; `steps` bounds a walk and says so.
-/
namespace Dialogue

/-- How a stretch of a walk ended. -/
inductive Stop where
  /-- Control is back at the caller. -/
  | returned
  /-- The walk goes on when the effect's outcome is there. -/
  | awaiting (node : Node) (request : EffectRequest)
  /-- The bound on the number of steps was reached. -/
  | endless

/-- What a stretch of a walk did. -/
structure Leg where
  run : Run
  events : List Event
  stop : Stop

namespace Run

/-- The event for a run that has ended. -/
def terminalEvents (run : Run) : List Event :=
  match run.status with
  | .completed => [.runCompleted run.visited.length]
  | .failed => [.runFailed run.failure]
  | _ => []

/-- The walk is over. -/
def released (run : Run) : Run := { run with processing := false }

end Run

namespace Leg

def returned (run : Run) (events : List Event) : Leg := ⟨run.released, events, .returned⟩

/-- Puts earlier events before those of the leg. -/
def after (events : List Event) (leg : Leg) : Leg := { leg with events := events ++ leg.events }

end Leg

namespace Engine

/-- The walk came to an end of the flow. -/
def endOfFlow (run : Run) : Leg :=
  if run.status = .running ∧ run.cancelled = false then
    let run := (run.say .system "Fluxo concluído (sem mais nós)" none).complete
    .returned run run.terminalEvents
  else .returned run []

/-- What follows a visit: the run waits, it has ended, or `walk` takes it to the next step. -/
def proceed (walk : Option Node → Run → Leg) (node : Node) (run : Run) (events : List Event)
    (step : Step) : Leg :=
  if step.wait then .returned run.suspend (events ++ [.runSuspended node.id])
  else if run.isTerminal then .returned run (events ++ run.terminalEvents)
  else (walk step.next run).after events

/-- Walks from a step. A cancelled run enters no further one. -/
def walk (e : Engine) : Nat → Option Node → Run → Leg
  | _, none, run => endOfFlow run
  | 0, some _, run => ⟨run, [], .endless⟩
  | steps + 1, some node, run =>
    if run.cancelled then .returned run []
    else match e.visit node run with
      | .asking run request => ⟨run, [], .awaiting node request⟩
      | .done run events step => proceed (e.walk steps) node run events step

/-- The steps a walk can take without an effect and without going round, and those to spare. -/
def bound (e : Engine) : Nat := e.flow.nodes.length + e.spare + 1

/-- Walks from a step, unless a walk of the run is under way. -/
def continueFrom (e : Engine) (node : Option Node) (run : Run) : Leg :=
  if run.processing then ⟨run, [], .returned⟩
  else e.walk e.bound node { run with processing := true }

/-- Takes up a walk that waited for an effect. -/
def takeUp (e : Engine) (node : Node) (request : EffectRequest) (outcome : EffectOutcome)
    (run : Run) : Leg :=
  let (run, events, step) := e.conclude node request outcome run
  proceed (e.walk e.bound) node run events step

end Engine
end Dialogue
