/-!
# The status of a run
-/
namespace Dialogue

/-- Where a run stands. The last two are final. -/
inductive Status where
  | idle | running | waiting | completed | failed
  deriving DecidableEq, Inhabited

namespace Status

def name : Status → String
  | idle => "idle"
  | running => "running"
  | waiting => "waiting_input"
  | completed => "completed"
  | failed => "error"

def all : List Status := [idle, running, waiting, completed, failed]

def isTerminal : Status → Bool
  | completed | failed => true
  | _ => false

end Status
end Dialogue
