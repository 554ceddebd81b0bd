import Dialogue.Json.Basic
import Dialogue.Run.Failure
import Dialogue.Settings
import Dialogue.Text.UpperCase

/-!
# Events for operators

What operators are told about runs, one record for each event. A record names the event, the run
and the trace; the event's own fields come after these and may replace them.
-/
namespace Dialogue

inductive Level where
  | debug | info | warning | error | critical
  deriving DecidableEq, Inhabited

namespace Level

def name : Level → String
  | debug => "DEBUG"
  | info => "INFO"
  | warning => "WARNING"
  | error => "ERROR"
  | critical => "CRITICAL"

/-- The names of levels. One of them stands below every level, and its records go nowhere. -/
def names : List (String × Option Level) :=
  [("DEBUG", some debug), ("INFO", some info), ("WARNING", some warning), ("WARN", some warning),
   ("ERROR", some error), ("CRITICAL", some critical), ("FATAL", some critical), ("NOTSET", none)]

def ofName? (s : String) : Option (Option Level) := names.lookup (Text.upper s)

end Level

/-- An event of a run. -/
inductive Event where
  | runStarted (flowId : String) (mode : Mode)
  | nodeProcessed (nodeId nodeType : String) (next : Option String) (wait : Bool)
  | runSuspended (nodeId : String)
  | runResumed (nodeId nodeType : String)
  | runCompleted (visited : Nat)
  | runFailed (error : Option String)
  /-- An effect was asked for. Only a gateway that gives up leaves an error here. -/
  | effectMeasured (effect nodeId : String) (mode : Mode) (error : Option String)
  deriving DecidableEq, Inhabited

namespace Event

def name : Event → String
  | runStarted .. => "run_started"
  | nodeProcessed .. => "node_processed"
  | runSuspended .. => "run_suspended"
  | runResumed .. => "run_resumed"
  | runCompleted .. => "run_completed"
  | runFailed .. => "run_failed"
  | effectMeasured .. => "execution_metric"

def fields : Event → List (String × Json)
  | runStarted flowId mode => [("flow_id", .str flowId), ("mode", .str mode.name)]
  | nodeProcessed id type next wait =>
    [("node_id", .str id), ("node_type", .str type), ("next_node_id", Json.ofOption next),
     ("wait_for_input", .bool wait)]
  | runSuspended id => [("node_id", .str id)]
  | runResumed id type => [("node_id", .str id), ("node_type", .str type)]
  | runCompleted n => [("visited_nodes", .int n)]
  | runFailed error => [("error", Json.ofOption error)]
  | effectMeasured effect id mode error =>
    [("operation", .str ("effect." ++ effect)), ("node_id", .str id), ("mode", .str mode.name),
     ("success", .bool error.isNone)] ++
    match error with
    | some e => [("error", .str e)]
    | none => []

def level : Event → Level
  | runFailed _ => .warning
  | effectMeasured _ _ _ (some _) => .warning
  | _ => .info

end Event

/-- An event and the id of the run it was recorded for. -/
structure RunEvent where
  run : String
  event : Event
  deriving DecidableEq, Inhabited

/-- A record as operators see it. -/
structure EventRecord where
  level : Level
  fields : List (String × Json)
  deriving DecidableEq

/-- Tags records with a run and a trace. -/
structure Observer where
  runId : Json
  traceId : Json
  deriving DecidableEq

namespace Observer

/-- The run of records that belong to none. -/
def unbound : String := "unbound"

/-- An observer of a run; an id that is nothing stands for none. -/
def make (runId traceId : Json) : Observer :=
  ⟨if runId.isTruthy then runId else .str unbound, traceId⟩

def forRun (o : Observer) (runId : Json) : Observer := make runId o.traceId

/-- A record of an event, unless its level keeps it from going anywhere. It is written as JSON
before its level is looked at. -/
def record (o : Observer) (event : Json) (payload : List (String × Json)) (level : String) :
    Except Failure (Option EventRecord) :=
  let fields := Bindings.merge
    [("event", event), ("run_id", o.runId), ("trace_id", o.traceId)] payload
  match (Json.object fields).fault?, Level.ofName? level with
  | some f, _ => .error (.unwritable f)
  | none, none => .error .unknownLevel
  | none, some none => .ok none
  | none, some (some l) => .ok (some ⟨l, fields⟩)

/-- The record of an operation that was timed, with the error it ended in, if any. -/
def measure (o : Observer) (operation : Json) (metadata : List (String × Json))
    (error : Option String) : Except Failure (Option EventRecord) :=
  let fields := Bindings.merge [("operation", operation)] metadata
  let metric : Json := .str "execution_metric"
  match error with
  | none => o.record metric (Bindings.put "success" (.bool true) fields) "INFO"
  | some e =>
    o.record metric
      (Bindings.put "error" (.str e) (Bindings.put "success" (.bool false) fields)) "WARNING"

end Observer
end Dialogue
