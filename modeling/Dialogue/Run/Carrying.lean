import Dialogue.Run.Walk

/-!
# Carrying out steps over a gateway

A visit or a walk together with the gateway that serves its effects at once.
-/
namespace Dialogue.Engine

/-- Visits a step to its end. -/
def visitOver (e : Engine) (g : Gateway) (node : Node) (run : Run) :
    (Run × List Event × Step) × Gateway :=
  match e.visit node run with
  | .done run events step => ((run, events, step), g)
  | .asking run request =>
    let (outcome, g) := g.invoke request
    let (run, events, step) := e.conclude node request outcome run
    ((run, measured node request outcome :: events, step), g)

/-- Serves the effects of a walk, at most `effects` of them. -/
def legOver (e : Engine) : Nat → Gateway → Leg → Leg × Gateway
  | 0, g, leg => (leg, g)
  | effects + 1, g, leg =>
    match leg.stop with
    | .awaiting node request =>
      let (outcome, g) := g.invoke request
      let (next, g) := e.legOver effects g (e.takeUp node request outcome leg.run)
      (next.after (leg.events ++ [measured node request outcome]), g)
    | _ => (leg, g)

end Dialogue.Engine
