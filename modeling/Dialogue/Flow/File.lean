import Dialogue.Flow.Accept
import Dialogue.Json.Reader

/-!
# Flow files

A flow file is a JSON text in the shape that the editor exports. Line ends of every kind count as
one line feed.
-/
namespace Dialogue

/-- Why a flow file was refused. -/
inductive FlowFileError where
  | unreadable (m : Json.Misread)
  | notObject
  | rejected (issues : List Check.Issue)
  deriving DecidableEq

/-- Line ends as line feeds. -/
def unixLines : List Char → List Char
  | [] => []
  | '\r' :: '\n' :: rest => '\n' :: unixLines rest
  | '\r' :: rest => '\n' :: unixLines rest
  | c :: rest => c :: unixLines rest

def Flow.load (file : String) : Except FlowFileError Flow :=
  match Json.read (unixLines file.toList) with
  | .error m => .error (.unreadable m)
  | .ok (.object fields) =>
    match Flow.check (.object fields) with
    | .ok flow => .ok flow
    | .error issues => .error (.rejected issues)
  | .ok _ => .error .notObject

/-- Whether a file was nested too deep to be read, which no check foresees. -/
def FlowFileError.isDepth : FlowFileError → Bool
  | unreadable m => m.complaint.isDepth
  | _ => false

/-- The message for a file that holds `text`. -/
def FlowFileError.message (text : String) : FlowFileError → String
  | unreadable m => m.message (unixLines text.toList)
  | notObject => "Flow file must contain a JSON object"
  | rejected issues => Check.report "FlowDefinition" issues

end Dialogue
