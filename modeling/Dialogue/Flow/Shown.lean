import Dialogue.Flow.Basic
import Dialogue.Json.Display
import Dialogue.Json.Limits

/-!
# Configurations in reports

A configuration that passed its checks is shown by its name with its fields in brackets.
-/
namespace Dialogue

/-- A value of a named kind with its fields, which are given by their texts. -/
def instanceText (name : String) (fields : List (String × String)) : String :=
  name ++ "(" ++ ", ".intercalate (fields.map fun f => f.1 ++ "=" ++ f.2) ++ ")"

/-- A value of a named kind whose fields are all plain. -/
def plainText (name : String) (fields : List (String × Json)) : String :=
  instanceText name (fields.map fun f => (f.1, f.2.quoted))

def Branch.fields (b : Branch) : List (String × Json) :=
  [("id", .str b.id), ("label", .str b.label), ("value", .str b.value),
    ("keywords", match b.keywords with
      | some words => .ofTexts words
      | none => .null)]

def Branch.shownText (b : Branch) : String := plainText "ConditionBranch" b.fields

namespace NodeConfig

/-- The fields of a configuration; a branch is an object among them. -/
def fields : NodeConfig → List (String × Json)
  | start c =>
    [("trigger", .str c.trigger), ("keywords", .ofTexts c.keywords),
      ("template_id", .ofOption c.templateId)]
  | message c =>
    [("text", .str c.text), ("delay", .float c.delay), ("use_client_name", .bool c.useClientName)]
  | input c => inputFields c.fields
  | unchecked c => inputFields c
  | condition c =>
    [("condition_type", .str c.conditionType),
      ("branches", .list (c.branches.map fun b => .object b.fields))]
  | action c =>
    [("action_type", .str c.actionType), ("variable_name", .ofOption c.variableName),
      ("variable_value", c.variableValue.toJson), ("vista_fields", .object c.vistaFields),
      ("tag_id", .ofOption c.tagId), ("contact_fields", .object c.contactFields)]
  | escalation c =>
    [("department", .str c.department), ("priority", .str c.priority), ("reason", .str c.reason)]
  | integration c =>
    [("integration_type", .str c.integrationType), ("url", .ofOption c.url),
      ("method", .str c.method.name),
      ("headers", .object (c.headers.map fun h => (h.1, .str h.2))), ("body", .ofOption c.body)]
  | delay c => [("duration", .float c.duration), ("unit", .str c.unit.name)]
  | finish c => [("message", .str c.message), ("close_conversation", .bool c.closeConversation)]
  | raw (.object fields) => fields
  | raw _ => []
where
  inputFields (c : InputFields) : List (String × Json) :=
    [("prompt", c.prompt), ("variable_name", c.variableName), ("expected_type", c.expected)]

def hasText : NodeConfig → Bool
  | raw v => v.hasText
  | c => c.fields.all (·.2.hasText)

def shownText (c : NodeConfig) : String :=
  match c with
  | raw v => v.quoted
  | condition cond =>
    instanceText c.kindName
      [("condition_type", (Json.str cond.conditionType).quoted),
        ("branches", "[" ++ ", ".intercalate (cond.branches.map Branch.shownText) ++ "]")]
  | c => plainText c.kindName c.fields

end NodeConfig
end Dialogue
