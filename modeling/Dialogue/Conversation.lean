import Dialogue.Session

/-!
# Conversations

A session together with the gateway that serves its effects. An operation is carried through to
its end, or begun in the background, where a gateway that blocks holds it until it is opened.
-/
namespace Dialogue

namespace Gateway

/-- How many outcomes of a gateway may differ from the ones after them. -/
def variety : Gateway → Nat
  | effects _ t => t.responses.length
  | arranged results _ => results.length
  | refusing _ => 0

end Gateway

/-- An operation begun in the background. -/
inductive Background where
  /-- The operation is over, with the status that it returned; one that goes round for ever has
  none. -/
  | ended (status : Option Status)
  /-- The gateway has the request and keeps its outcome back. -/
  | held (p : Pending) (outcome : EffectOutcome)

structure Conversation where
  session : Session
  gateway : Gateway
  /-- Whether the gateway blocks operations in the background. -/
  blocking : Bool := false
  /-- The operations begun in the background since the gateway was last opened. -/
  background : List Background := []

namespace Conversation

/-- The effects an operation can need without going round: once every outcome has been seen, a
round through all steps meets nothing new. -/
def bound (c : Conversation) : Nat :=
  (c.session.engine.flow.nodes.length + 1) * (c.gateway.variety + 3)

/-- Serves the effects of an operation until it ends. -/
def serve : Nat → Gateway → Session × Outcome → Gateway × Session × Outcome
  | 0, g, r => (g, r)
  | effects + 1, g, (s, .waiting p) =>
    let (outcome, g) := g.invoke p.request
    serve effects g (s.answer p outcome)
  | _ + 1, g, r => (g, r)

/-- Carries an operation through. What comes back says whether it ever returns. -/
def carry (c : Conversation) (op : Session → Session × Outcome) : Conversation × Outcome :=
  let (g, s, o) := serve c.bound c.gateway (op c.session)
  ({ c with session := s, gateway := g }, o)

def start (c : Conversation) : Conversation × Outcome := c.carry Session.start

def send (c : Conversation) (text : String) : Conversation × Outcome := c.carry (·.send text)

def reset (c : Conversation) : Conversation := { c with session := c.session.reset }

def statusOf : Outcome → Option Status
  | .returned snapshot => some snapshot.status
  | _ => none

/-- Begins an operation in the background. -/
def begin (c : Conversation) (op : Session → Session × Outcome) : Conversation :=
  if c.blocking then
    match op c.session with
    | (s, .waiting p) =>
      let (outcome, g) := c.gateway.invoke p.request
      { c with session := s, gateway := g, background := c.background ++ [.held p outcome] }
    | (s, o) => { c with session := s, background := c.background ++ [.ended (statusOf o)] }
  else
    let (c, o) := c.carry op
    { c with background := c.background ++ [.ended (statusOf o)] }

/-- The number of operations that are held. -/
def waiting (c : Conversation) : Nat :=
  c.background.countP fun b => match b with
    | .held .. => true
    | .ended _ => false

/-- Ends one operation that was begun in the background. -/
def finish (c : Conversation) : Background → Conversation × Option Status
  | .ended status => (c, status)
  | .held p outcome =>
    let (c, o) := c.carry (·.answer p outcome)
    (c, statusOf o)

/-- Opens the gateway: what is held goes on in the order in which it was begun, each operation to
its end. The statuses they end with come in the same order. -/
def release (c : Conversation) : Conversation × List Status :=
  c.background.foldl (fun (c, statuses) b =>
    let (c, status) := c.finish b
    (c, statuses ++ status.toList)) ({ c with background := [] }, [])

end Conversation
end Dialogue
