import Dialogue.Calendar.ClockTime
import Dialogue.Check.Field
import Dialogue.Run.Status

/-!
# Records of a run

The lines of a transcript, the entries of an execution log, and the snapshot of a run that callers
are shown, with the checks under which records are taken from outside.
-/
namespace Dialogue
open Check

/-- A moment given as a text or as a count. -/
def ClockTime.check : Json → Checked ClockTime
  | .str s => match ofText s with
    | .ok t => .ok t
    | .error .yearZero => Checked.fault (.unreadableTime .yearZero) (.str s)
    | .error c => Checked.fault (.unreadableDate c) (.str s)
  | .int n =>
    if (Number.Binary64.ofInt? n).isNone then Checked.fault .notTime (.int n)
    else counted (.int n) (ofCount n 0)
  | .float x => counted (.float x) (ofNumber x)
  | v => Checked.fault .notTime v
where
  counted (v : Json) : Except Calendar.Complaint ClockTime → Checked ClockTime
    | .ok t => .ok t
    | .error c => Checked.fault (.unreadableTime c) v

/-- Who speaks in a line of a transcript. -/
inductive Speaker where
  | bot | user | system
  deriving DecidableEq, Inhabited

def Speaker.name : Speaker → String
  | bot => "bot"
  | user => "user"
  | system => "system"

def Speaker.all : List Speaker := [bot, user, system]

/-- A line of a transcript. -/
structure Message where
  speaker : Speaker
  content : String
  nodeId : Option String
  time : ClockTime := .midnight
  deriving DecidableEq, Inhabited

def Message.check : Json → Checked Message :=
  model "TranscriptMessage" fun fs =>
    (fun _ speaker content time nodeId => (⟨speaker, content, nodeId, time⟩ : Message))
        <$> required ["id"] text fs
      |>.both (required ["type"] (oneOf Speaker.name Speaker.all) fs)
      |>.both (required ["content"] text fs)
      |>.both (field ["timestamp"] ClockTime.check .midnight fs)
      |>.both (field ["node_id"] (optional text) none fs)

/-- What the processing of a step left in the execution log. -/
structure LogEntry where
  nodeId : String
  nodeType : String
  nodeLabel : String
  action : String
  input : Json
  output : Json
  /-- Milliseconds. -/
  duration : Number.Binary64
  success : Bool
  deriving DecidableEq, Inhabited

def LogEntry.check : Json → Checked LogEntry :=
  model "ExecutionLogEntry" fun fs =>
    (fun nodeId nodeType nodeLabel action input output duration _ success =>
        (⟨nodeId, nodeType, nodeLabel, action, input, output, duration, success⟩ : LogEntry))
        <$> required ["node_id"] text fs
      |>.both (required ["node_type"] text fs)
      |>.both (required ["node_label"] text fs)
      |>.both (required ["action"] text fs)
      |>.both (field ["input"] anything .null fs)
      |>.both (field ["output"] anything .null fs)
      |>.both (field ["duration_ms"] nonnegative .zero fs)
      |>.both (field ["timestamp"] ClockTime.check .midnight fs)
      |>.both (field ["success"] truth true fs)

/-- What callers see of a run. -/
structure Snapshot where
  runId : String
  status : Status
  current : Option String
  vars : List (String × Json)
  messages : List Message
  log : List LogEntry
  visited : List String
  failure : Option String
  deriving DecidableEq, Inhabited

def Snapshot.check : Json → Checked Snapshot :=
  model "RunSnapshot" fun fs =>
    Snapshot.mk <$> required ["run_id"] text fs
      |>.both (required ["status"] (oneOf Status.name Status.all) fs)
      |>.both (field ["current_node_id"] (optional text) none fs)
      |>.both (field ["variables"] record [] fs)
      |>.both (field ["messages"] (listOf Message.check) [] fs)
      |>.both (field ["execution_log"] (listOf LogEntry.check) [] fs)
      |>.both (field ["visited_nodes"] (listOf text) [] fs)
      |>.both (field ["error"] (optional text) none fs)

end Dialogue
