import Dialogue.Flow.Basic
import Dialogue.Run.Failure
import Dialogue.Run.Record
import Dialogue.Variables

/-!
# The state of a run

A run starts once, is suspended and resumed, and ends by completing or failing. Every change goes
through one of the transitions below.
-/
namespace Dialogue

structure Run where
  id : String
  status : Status := .idle
  current : Option String := none
  vars : Variables := []
  messages : List Message := []
  log : List LogEntry := []
  /-- The steps that were entered, each once, in the order of their first entry. -/
  visited : List String := []
  failure : Option String := none
  /-- Set while a walk through the flow is under way. -/
  processing : Bool := false
  /-- Set when the run is discarded: it enters no further step. -/
  cancelled : Bool := false
  deriving DecidableEq, Inhabited

namespace Run

def isTerminal (r : Run) : Bool := r.status.isTerminal

def begin? (r : Run) (contactName contactPhone : Json) : Except Failure Run :=
  if r.status = .idle then
    .ok { r with status := .running, vars := r.vars.seed contactName contactPhone }
  else .error (.notIdle r.id r.status)

def enter (r : Run) (id : String) : Run :=
  { r with
    current := some id
    visited := if r.visited.contains id then r.visited else r.visited ++ [id] }

def suspend (r : Run) : Run := if r.status = .running then { r with status := .waiting } else r

def resume? (r : Run) : Except Failure Run :=
  if r.status = .waiting then .ok { r with status := .running }
  else .error (.notWaiting r.id r.status)

def complete (r : Run) : Run :=
  if r.isTerminal then r else { r with status := .completed, current := none }

def failBy (r : Run) (reason : Option String) : Run :=
  { r with status := .failed, failure := reason, current := none }

def fail (r : Run) (error : String) : Run := r.failBy (some error)

def say (r : Run) (speaker : Speaker) (content : String) (nodeId : Option String) : Run :=
  { r with messages := r.messages ++ [⟨speaker, content, nodeId, .midnight⟩] }

/-- Notes what was done at a step. Simulated steps take no time. -/
def note (r : Run) (node : Node) (action : String) (success : Bool) (input output : Json) : Run :=
  { r with
    log := r.log ++ [⟨node.id, node.type, node.label, action, input, output, .zero, success⟩] }

def setVariable? (r : Run) (name : String) (value : Json) : Except Failure Run :=
  match r.vars.set? name value with
  | some vars => .ok { r with vars := vars }
  | none => .error .blankVariable

/-- The duration that is kept of a measured one: never negative, in thousandths. -/
def keptDuration (measured : Number.Binary64) : Number.Binary64 :=
  (if measured.isNonneg || measured = .nan then measured else .zero).roundTo 3

def snapshot (r : Run) : Snapshot :=
  ⟨r.id, r.status, r.current, r.vars, r.messages, r.log, r.visited, r.failure⟩

end Run
end Dialogue
