import Dialogue.Console.Arguments
import Dialogue.Console.Shell
import Dialogue.Flow.File

/-!
# The program

From its arguments, its environment and the files it can read to the views that it shows: a
session over a flow, the list of the built-in flows, or the reason why there is neither.
-/
namespace Dialogue.Console

/-- Why there is no flow to run. -/
inductive LoadError where
  | unknownTemplate (id : String)
  | noFile (e : FileError)
  | refused (text : String) (e : FlowFileError)

def LoadError.reason : LoadError → String
  | unknownTemplate id => Template.unknownMessage id
  | noFile e => e.message
  | refused text e => e.message text

/-- Whether the program has no answer to a failure and breaks off. -/
def LoadError.breaksOff : LoadError → Bool
  | refused _ e => e.isDepth
  | _ => false

/-- An argument that is given and not empty. -/
def given? (argument : Option String) : Option String := argument.filter (· ≠ "")

namespace RunRequest

/-- The flow that is asked for. -/
def load (r : RunRequest) (disk : Disk) : Except LoadError Flow :=
  match given? r.flowPath with
  | some path => do
    let text ← (disk.read path).mapError .noFile
    (Flow.load text).mapError (.refused text)
  | none =>
    let id := (given? r.template).getD Template.defaultId
    match Template.find? id with
    | some t => .ok t.flow
    | none => .error (.unknownTemplate id)

/-- The settings that the arguments set. -/
def overrides (r : RunRequest) : List (String × Json) :=
  [("use_real_integrations", if r.useReal then .bool true else .null),
    ("contact_name", Json.ofOption r.contactName), ("contact_phone", Json.ofOption r.contactPhone)]

end RunRequest

/-- How the program begins. -/
inductive Opening where
  /-- It shows something and ends with an exit code. -/
  | ended (code : Nat) (views : List View)
  | refused (e : OpeningError)
  | brokenOff (reason : String)
  | session (s : Shell)

/-- The exit code for arguments that make no sense. -/
def misuseCode : Nat := 2

/-- The exit code for a flow that cannot be loaded. -/
def loadFailureCode : Nat := 1

def Request.opening (r : Request) (disk : Disk) (env : Environment)
    (transport : Http.Transport) : Opening :=
  match r with
  | .help => .ended 0 []
  | .templates => .ended 0 [.templates Template.all]
  | .run r =>
    match r.load disk with
    | .error e =>
      if e.breaksOff then .brokenOff e.reason
      else .ended loadFailureCode [.loadFailure e.reason]
    | .ok flow =>
      match Shell.make flow env r.overrides (r.store.getD "") disk transport with
      | .error e => .refused e
      | .ok shell => .session shell

end Dialogue.Console
