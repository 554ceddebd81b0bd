import Dialogue.Check.Field
import Dialogue.Flow.Shown
import Dialogue.Text.Blank

/-!
# Accepting a flow

A flow is checked once, when it is given. A step may be written flat or in the shape of the visual
editor, which wraps the label and the configuration; the fields of a configuration have a short
name and one in camel case, which goes first.
-/
namespace Dialogue
open Check

namespace StartConfig

def check : Json → Checked StartConfig :=
  model "StartConfig" fun fs =>
    StartConfig.mk <$> field ["trigger"] text "first_message" fs
      |>.both (field ["keywords"] (listOf text) [] fs)
      |>.both (field ["templateId", "template_id"] (optional text) none fs)

end StartConfig

namespace MessageConfig

def check : Json → Checked MessageConfig :=
  model "MessageConfig" fun fs =>
    MessageConfig.mk <$> field ["text"] Check.text "" fs
      |>.both (field ["delay"] nonnegative .zero fs)
      |>.both (field ["useClientName", "use_client_name"] truth false fs)

end MessageConfig

namespace InputConfig

/-- The name of the variable an answer is kept in, without the blanks around it. -/
def answerName (v : Json) : Checked String := do
  let s ← nonempty v
  let name := Text.trim s
  if name = "" then Checked.fault (.breach .blankVariable) v else pure name

def check : Json → Checked InputConfig :=
  model "InputConfig" fun fs =>
    InputConfig.mk <$> field ["prompt"] text "" fs
      |>.both (field ["variableName", "variable_name"] answerName "resposta" fs)
      |>.both (field ["expectedType", "expected_type"] (oneOf AnswerKind.name AnswerKind.all)
        .text fs)

end InputConfig

namespace Branch

def check : Json → Checked Branch :=
  model "ConditionBranch" fun fs =>
    Branch.mk <$> required ["id"] text fs
      |>.both (field ["label"] text "" fs)
      |>.both (field ["value"] text "" fs)
      |>.both (field ["keywords"] (optional (listOf text)) none fs)

end Branch

namespace ConditionConfig

def check : Json → Checked ConditionConfig :=
  model "ConditionConfig" fun fs => do
    let c ← ConditionConfig.mk <$> field ["conditionType", "condition_type"] text "keyword" fs
      |>.both (field ["branches"] (listOf Branch.check) [] fs)
    if (c.branches.map (·.id)).Nodup then pure c
    else Checked.fault (.breach .sameBranchIds) (.object fs)

end ConditionConfig

namespace Scalar

/-- A value that is no scalar is none of the four kinds, and each of them says so. -/
def check : Json → Checked Scalar
  | .null => .ok .null
  | .str s => .ok (.str s)
  | .int n => .ok (.int n)
  | .float x => .ok (.float x)
  | .bool b => .ok (.bool b)
  | v => .error [⟨.notText, [.key "str"], .ofJson v⟩, ⟨.notInteger, [.key "int"], .ofJson v⟩,
      ⟨.notNumber, [.key "float"], .ofJson v⟩, ⟨.notTruth, [.key "bool"], .ofJson v⟩]

end Scalar

namespace ActionConfig

def check : Json → Checked ActionConfig :=
  model "ActionConfig" fun fs =>
    ActionConfig.mk <$> field ["actionType", "action_type"] text "set_variable" fs
      |>.both (field ["variableName", "variable_name"] (optional text) none fs)
      |>.both (field ["variableValue", "variable_value"] Scalar.check .null fs)
      |>.both (field ["vistaFields", "vista_fields"] record [] fs)
      |>.both (field ["tagId", "tag_id"] (optional text) none fs)
      |>.both (field ["contactFields", "contact_fields"] record [] fs)

end ActionConfig

namespace EscalationConfig

def check : Json → Checked EscalationConfig :=
  model "EscalationConfig" fun fs =>
    EscalationConfig.mk <$> field ["department"] text "vendas" fs
      |>.both (field ["priority"] text "medium" fs)
      |>.both (field ["reason"] text "" fs)

end EscalationConfig

namespace IntegrationConfig

def check : Json → Checked IntegrationConfig :=
  model "IntegrationConfig" fun fs =>
    IntegrationConfig.mk <$> field ["integrationType", "integration_type"] text "webhook" fs
      |>.both (field ["url"] (optional text) none fs)
      |>.both (field ["method"] (oneOf HttpMethod.name HttpMethod.all) .post fs)
      |>.both (field ["headers"] (recordOf text) [] fs)
      |>.both (field ["body"] (optional text) none fs)

end IntegrationConfig

namespace DelayConfig

def check : Json → Checked DelayConfig :=
  model "DelayConfig" fun fs =>
    DelayConfig.mk <$> field ["duration"] nonnegative (.ofInt 1) fs
      |>.both (field ["unit"] (oneOf DelayUnit.name DelayUnit.all) .seconds fs)

end DelayConfig

namespace EndConfig

def check : Json → Checked EndConfig :=
  model "EndConfig" fun fs =>
    EndConfig.mk <$> field ["message"] text "" fs
      |>.both (field ["closeConversation", "close_conversation"] truth false fs)

end EndConfig

namespace NodeConfig

/-- The configuration of a step of a known kind. -/
def check : NodeKind → Json → Checked NodeConfig
  | .start, v => .start <$> StartConfig.check v
  | .message, v => .message <$> MessageConfig.check v
  | .input, v => .input <$> InputConfig.check v
  | .condition, v => .condition <$> ConditionConfig.check v
  | .action, v => .action <$> ActionConfig.check v
  | .escalation, v => .escalation <$> EscalationConfig.check v
  | .integration, v => .integration <$> IntegrationConfig.check v
  | .delay, v => .delay <$> DelayConfig.check v
  | .finish, v => .finish <$> EndConfig.check v

end NodeConfig

namespace Node

/-- Adds a field that is not given yet. -/
def setDefault (name : String) (v : Json) (fs : Fields) : Fields :=
  if Bindings.has name fs then fs else Bindings.put name v fs

/-- The fields of a step in flat form: what the editor wraps in `data` is moved out, where it is
not given beside it. -/
def flatten (fs : Fields) : Fields :=
  let inner := Bindings.get? "data" fs
  let fs := Bindings.erase "position" (Bindings.erase "data" fs)
  match inner with
  | some (.object editor) =>
    let given (name : String) (empty : Json) : Json :=
      match Bindings.get? name editor with
      | some v => if v.isTruthy then v else empty
      | none => empty
    let fs := setDefault "label" (given "label" (.str "")) fs
    setDefault "config" (given "config" (.object [])) fs
  | _ => fs

/-- The type as a text, without the blanks around it. -/
def typeText (fs : Fields) : String :=
  match Bindings.get? "type" fs with
  | some v => Text.trim v.display
  | none => ""

/-- What keeps the type from having a text. -/
def typeFault? (fs : Fields) : Option TextFault := (Bindings.get? "type" fs).bind Json.fault?

/-- The fields of a step of a type with a label and a configuration: the type stands in for the
one, an empty one for the other. -/
def completed (type : String) (fs : Fields) : Fields :=
  let label := match Bindings.get? "label" fs with
    | some v => if v.isTruthy then v else .str type
    | none => .str type
  let config := match Bindings.get? "config" fs with
    | none | some .null => .object []
    | some v => v
  Bindings.put "config" config (Bindings.put "label" label fs)

/-- A step as reports show it once its configuration has passed. -/
def shown (fs : Fields) (config : NodeConfig) : Given :=
  if config.hasText && fs.all fun f => f.1 = "config" || f.2.hasText then
    ⟨Json.recordText (fs.map fun f =>
      (f.1, if f.1 = "config" then config.shownText else f.2.quoted)), "dict"⟩
  else .untold "dict"

/-- A step of a type from all its fields. One whose configuration has an issue reports nothing
else. -/
def assembled (type : String) (fs : Fields) : Checked Node := do
  let raw := (Bindings.get? "config" fs).getD .null
  let config ← match NodeKind.ofName? type with
    | some kind => NodeConfig.check kind raw
    | none => pure (.raw raw)
  let whole := shown fs config
  Node.mk <$> requiredIn whole ["id"] text fs
    |>.both (requiredIn whole ["type"] text fs)
    |>.both (requiredIn whole ["label"] text fs)
    |>.both (.ok config)

def check : Json → Checked Node :=
  model "FlowNode" fun given =>
    let fs := flatten given
    match typeFault? fs with
    | some f => Checked.fault (.breach (.unsayable f)) (.object given)
    | none => assembled (typeText fs) (completed (typeText fs) fs)

/-- Gives a step a configuration that is not checked any more. Only input steps and steps of
unknown kinds take one for inputs. -/
def withInput (n : Node) (c : InputFields) : Checked Node :=
  match NodeKind.ofName? (Text.trim n.type) with
  | none | some .input => .ok { n with config := .unchecked c }
  | some kind =>
    let config := NodeConfig.unchecked c
    let name := NodeKind.input.configName
    Checked.refuse (.notModel kind.configName)
      (if config.hasText then ⟨config.shownText, name⟩ else .untold name)

end Node

namespace Edge

def check : Json → Checked Edge :=
  model "FlowEdge" fun fs =>
    Edge.mk <$> field ["id"] (optional text) none fs
      |>.both (required ["source"] text fs)
      |>.both (required ["target"] text fs)
      |>.both (field ["branch_selector", "branchSelector", "sourceHandle"] (optional text) none fs)
      |>.both (field ["label"] (optional text) none fs)

end Edge

namespace Flow

/-- The first end of an edge that names no step. -/
def Edge.loose? (ids : List String) (e : Edge) : Option Breach :=
  if !ids.contains e.source then some (.unknownSource e.source)
  else if !ids.contains e.target then some (.unknownTarget e.target)
  else none

/-- The first rule of a graph that is broken. Edges are held against the ids without the blanks
around them. -/
def breach? (flow : Flow) : Option Breach :=
  let ids := flow.nodes.map fun n => Text.trim n.id
  let starts := (flow.nodes.filter fun n => n.type = NodeKind.start.name).map (·.id)
  if ids.contains "" then some .emptyNodeId
  else if ¬ ids.Nodup then some .sameNodeIds
  else (flow.edges.findSome? (Edge.loose? ids)).orElse fun _ =>
    match starts with
    | [] => none
    | [start] =>
      if flow.edges.any (·.target = start) then some .startHasIncoming else none
    | _ => some (.severalStarts starts)

def check : Json → Checked Flow :=
  model "FlowDefinition" fun fs => do
    let flow ← Flow.mk <$> field ["id"] text "" fs
      |>.both (field ["name"] text "" fs)
      |>.both (field ["description"] text "" fs)
      |>.both (field ["department"] (optional text) none fs)
      |>.both (field ["nodes"] (listOf Node.check) [] fs)
      |>.both (field ["edges"] (listOf Edge.check) [] fs)
    match flow.breach? with
    | some b => Checked.fault (.breach b) (.object fs)
    | none => pure flow

end Flow
end Dialogue
