import Dialogue.Flow.Config

/-!
# Flows

A flow is a graph of steps. Steps are found by their id; what leaves a step are the edges that
name it as their source, in the order in which they were declared.
-/
namespace Dialogue

/-- A step of a flow. -/
structure Node where
  id : String
  type : String
  label : String
  config : NodeConfig
  deriving DecidableEq, Inhabited

/-- The kind of a step, where its type is the exact name of one. -/
def Node.kind? (n : Node) : Option NodeKind := NodeKind.ofName? n.type

/-- A way from one step to another. A selector ties it to a branch of a condition. -/
structure Edge where
  id : Option String
  source : String
  target : String
  selector : Option String
  label : Option String
  deriving DecidableEq, Inhabited

structure Flow where
  id : String
  name : String
  description : String
  department : Option String
  nodes : List Node
  edges : List Edge
  deriving DecidableEq, Inhabited

namespace Flow

def node? (flow : Flow) (id : String) : Option Node := flow.nodes.find? (·.id = id)

def startNode? (flow : Flow) : Option Node := flow.nodes.find? (·.type = NodeKind.start.name)

def outgoing (flow : Flow) (id : String) : List Edge := flow.edges.filter (·.source = id)

end Flow
end Dialogue
