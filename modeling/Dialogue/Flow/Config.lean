import Dialogue.Answer

/-!
# Step configurations

What each kind of step in a flow can be told, with what it does when it is told nothing.
-/
namespace Dialogue

/-- A value a step may assign to a variable. -/
inductive Scalar where
  | null
  | str (s : String)
  | int (n : Int)
  | float (x : Number.Binary64)
  | bool (b : Bool)
  deriving DecidableEq, Inhabited

def Scalar.toJson : Scalar → Json
  | null => .null
  | str s => .str s
  | int n => .int n
  | float x => .float x
  | bool b => .bool b

inductive HttpMethod where
  | get | post | put | patch | delete
  deriving DecidableEq, Inhabited

namespace HttpMethod

def name : HttpMethod → String
  | get => "GET"
  | post => "POST"
  | put => "PUT"
  | patch => "PATCH"
  | delete => "DELETE"

def all : List HttpMethod := [get, post, put, patch, delete]

end HttpMethod

inductive DelayUnit where
  | seconds | minutes | hours
  deriving DecidableEq, Inhabited

namespace DelayUnit

def name : DelayUnit → String
  | seconds => "seconds"
  | minutes => "minutes"
  | hours => "hours"

def all : List DelayUnit := [seconds, minutes, hours]

end DelayUnit

/-- The entry of a flow. What triggers it is for the channel. -/
structure StartConfig where
  trigger : String
  keywords : List String
  templateId : Option String
  deriving DecidableEq, Inhabited

structure MessageConfig where
  text : String
  /-- Seconds a live channel waits before it sends. -/
  delay : Number.Binary64
  useClientName : Bool
  deriving DecidableEq, Inhabited

structure InputConfig where
  prompt : String
  variableName : String
  expected : AnswerKind
  deriving DecidableEq, Inhabited

/-- What an input step reads of its configuration; where that was not checked, any values. -/
structure InputFields where
  prompt : Json := .str ""
  variableName : Json := .str "resposta"
  expected : Json := .str AnswerKind.text.name
  deriving DecidableEq, Inhabited

def InputConfig.fields (c : InputConfig) : InputFields :=
  ⟨.str c.prompt, .str c.variableName, .str c.expected.name⟩

/-- One way out of a condition. Earlier branches are tried first. -/
structure Branch where
  id : String
  label : String
  value : String
  keywords : Option (List String)
  deriving DecidableEq, Inhabited

structure ConditionConfig where
  conditionType : String
  branches : List Branch
  deriving DecidableEq, Inhabited

structure ActionConfig where
  actionType : String
  variableName : Option String
  variableValue : Scalar
  vistaFields : List (String × Json)
  tagId : Option String
  contactFields : List (String × Json)
  deriving DecidableEq, Inhabited

structure EscalationConfig where
  department : String
  priority : String
  reason : String
  deriving DecidableEq, Inhabited

structure IntegrationConfig where
  integrationType : String
  url : Option String
  method : HttpMethod
  headers : List (String × String)
  body : Option String
  deriving DecidableEq, Inhabited

structure DelayConfig where
  duration : Number.Binary64
  unit : DelayUnit
  deriving DecidableEq, Inhabited

structure EndConfig where
  message : String
  closeConversation : Bool
  deriving DecidableEq, Inhabited

/-- The kinds of steps that a run knows how to take. -/
inductive NodeKind where
  | start | message | input | condition | action | escalation | integration | delay | finish
  deriving DecidableEq, Inhabited

namespace NodeKind

def name : NodeKind → String
  | start => "start"
  | message => "message"
  | input => "input"
  | condition => "condition"
  | action => "action"
  | escalation => "escalation"
  | integration => "integration"
  | delay => "delay"
  | finish => "end"

def all : List NodeKind :=
  [start, message, input, condition, action, escalation, integration, delay, finish]

def ofName? (n : String) : Option NodeKind := all.find? (·.name = n)

theorem ofName?_name (k : NodeKind) : ofName? k.name = some k := by cases k <;> rfl

theorem name_of_ofName? {n : String} {k : NodeKind} (h : ofName? n = some k) : k.name = n := by
  simpa using List.find?_some h

/-- What messages call the configuration of a kind. -/
def configName : NodeKind → String
  | start => "StartConfig"
  | message => "MessageConfig"
  | input => "InputConfig"
  | condition => "ConditionConfig"
  | action => "ActionConfig"
  | escalation => "EscalationConfig"
  | integration => "IntegrationConfig"
  | delay => "DelayConfig"
  | finish => "EndConfig"

end NodeKind

/-- The configuration of a step; that of a kind nobody knows is kept as it was given. -/
inductive NodeConfig where
  | start (config : StartConfig)
  | message (config : MessageConfig)
  | input (config : InputConfig)
  /-- An input step's that was not checked. -/
  | unchecked (fields : InputFields)
  | condition (config : ConditionConfig)
  | action (config : ActionConfig)
  | escalation (config : EscalationConfig)
  | integration (config : IntegrationConfig)
  | delay (config : DelayConfig)
  | finish (config : EndConfig)
  | raw (value : Json)
  deriving DecidableEq, Inhabited

namespace NodeConfig

def kind? : NodeConfig → Option NodeKind
  | start _ => some .start
  | message _ => some .message
  | input _ | unchecked _ => some .input
  | condition _ => some .condition
  | action _ => some .action
  | escalation _ => some .escalation
  | integration _ => some .integration
  | delay _ => some .delay
  | finish _ => some .finish
  | raw _ => none

/-- What messages call the configuration. -/
def kindName (c : NodeConfig) : String :=
  match c with
  | raw v => v.kindName
  | c => (c.kind?.map NodeKind.configName).getD ""

/-- What an input step reads of the configuration. -/
def input? : NodeConfig → Option InputFields
  | input c => some c.fields
  | unchecked fields => some fields
  | _ => none

end NodeConfig
end Dialogue
