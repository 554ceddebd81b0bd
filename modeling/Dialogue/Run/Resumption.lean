import Dialogue.Run.Visit

/-!
# Taking up an answer

What the answer to a suspended step does: an input keeps its value in a variable, a condition
chooses a way out by it.
-/
namespace Dialogue.Engine

/-- Keeps the answer of an input step. -/
def bindInput (e : Engine) (node : Node) (run : Run) (text : String) :
    Except Failure (Run × Option Node) :=
  match node.config.input? with
  | some fields => do
    let value := Answer.coerce text (.ofValue fields.expected)
    let name ← fields.variableName.said
    let run ← run.setVariable? name value
    let run := run.note node s!"Entrada capturada: {name}" true (.str text)
      (.object [("value", value), ("expected_type", fields.expected)])
    pure (run, e.flow.next? node)
  | none => .error (.wrongConfig node.config.kindName "expected_type")

/-- Goes to the chosen step; without one, says so and waits. -/
def leaveBy (node : Node) (run : Run) : Option Node → Run × Step
  | some next => (run, ⟨some next, false⟩)
  | none => (run.say .system "Nenhuma saída disponível para a condição" node.id, ⟨none, true⟩)

def branchTaken (e : Engine) (node : Node) (run : Run) (text : String) (index : Nat)
    (branch : Branch) : Run × Step :=
  let label := if branch.label = "" then branch.id else branch.label
  let run := run.say .system s!"Branch selecionada: {label}" node.id
  let edge := e.flow.branchEdge? node (toString index) branch
  let next := match edge with
    | some edge => e.flow.node? edge.target
    | none => e.flow.firstTarget? node
  let run := run.note node s!"Branch selecionada: {label}" true (.str text)
    (.object [("branch_id", .str branch.id), ("branch_index", .int index),
      ("matched_edge", .bool edge.isSome)])
  leaveBy node run next

def askAgain (node : Node) (run : Run) (text : String) : Run × Step :=
  let run := run.say .system "Nenhuma branch correspondente, aguardando nova resposta" node.id
  (run.note node "Nenhuma branch correspondente" true (.str text) .null, ⟨none, true⟩)

def firstWayOut (e : Engine) (node : Node) (run : Run) (text : String) : Run × Step :=
  let run := run.say .system "Nenhuma branch correspondente, usando primeira disponível" node.id
  let next := e.flow.next? node
  let run := run.note node "Nenhuma branch correspondente (primeira disponível)" true (.str text)
    (.object [("fallback_node_id", Json.ofOption (next.map (·.id)))])
  leaveBy node run next

/-- Chooses the way out of a condition by the answer. -/
def routeCondition (e : Engine) (node : Node) (run : Run) (text : String) :
    Except Failure (Run × Step) :=
  match node.config with
  | .condition c =>
    match resolveBranch text c.branches with
    | some i =>
      match c.branches[i]? with
      | some branch => .ok (e.branchTaken node run text i branch)
      | none => .ok (e.firstWayOut node run text)
    | none =>
      .ok (match e.settings.unmatchedPolicy with
        | .wait => askAgain node run text
        | .firstEdge => e.firstWayOut node run text)
  | c => .error (.wrongConfig c.kindName "branches")

end Dialogue.Engine
