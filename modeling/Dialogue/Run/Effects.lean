import Dialogue.Effect.Gateway
import Dialogue.Event
import Dialogue.Json.Writer
import Dialogue.Run.Handler

/-!
# Steps that need an effect

The update of a property in the CRM and the call of an integration. Each says what it is about to
do, asks for the effect, and concludes when the result is there. Nothing of a result but its
success reaches the way the run takes, unless its data are to be told and have no text.
-/
namespace Dialogue

/-- The property an update is for when neither the step nor a variable names one. -/
def defaultProperty : String := "TEST-001"

def propertyVariable : String := "codigo_imovel"

/-- A value that says something, as a text; otherwise nothing. -/
def shownOr (fallback : String) (v : Json) : String := if v.isTruthy then v.display else fallback

/-- The code of the property to update: the step's, unless a token in it was left open. -/
def propertyCode (vars : Variables) (fields : Payload) : String :=
  let code := shownOr "" (fields.get "propertyCode")
  if code = "" ∨ hasToken code then
    shownOr defaultProperty ((Bindings.get? propertyVariable vars).getD .null)
  else code

/-- What keeps the code of the property from having a text. -/
def codeFault? (vars : Variables) (fields : Payload) : Option TextFault :=
  match (fields.get "propertyCode").fault? with
  | some f => some f
  | none =>
    let code := shownOr "" (fields.get "propertyCode")
    if code = "" ∨ hasToken code then
      ((Bindings.get? propertyVariable vars).getD .null).fault?
    else none

namespace Engine

def fillField (e : Engine) (run : Run) : Json → Json
  | .str s => .str (e.fill run s)
  | v => v

/-- The code comes first; a field of that name takes its place. -/
def vistaPayload (e : Engine) (run : Run) (config : ActionConfig) : Payload :=
  let fields := config.vistaFields.map fun f => (f.1, e.fillField run f.2)
  Bindings.merge [("codigo", .str (propertyCode run.vars fields))]
    (Bindings.erase "propertyCode" fields)

def fieldFault? (e : Engine) (run : Run) : Json → Option TextFault
  | .str s => e.fillFault? run s
  | _ => none

/-- What keeps the fields of an update from being filled, or its code from having a text. -/
def vistaFault? (e : Engine) (run : Run) (config : ActionConfig) : Option TextFault :=
  (config.vistaFields.findSome? fun f => e.fieldFault? run f.2).or
    (codeFault? run.vars (config.vistaFields.map fun f => (f.1, e.fillField run f.2)))

/-- A text to be filled, or null where there is none. -/
def fillOption (e : Engine) (run : Run) : Option String → Json
  | none => .null
  | some s => if s = "" then .null else .str (e.fill run s)

def integrationPayload (e : Engine) (run : Run) (config : IntegrationConfig) : Payload :=
  [("integration_type", .str config.integrationType), ("url", e.fillOption run config.url),
   ("method", .str config.method.name),
   ("headers", .object (config.headers.map fun h => (h.1, .str h.2))),
   ("body", e.fillOption run config.body)]

/-- What keeps the address or the body of an integration from being filled. -/
def integrationFault? (e : Engine) (run : Run) (config : IntegrationConfig) :
    Option TextFault :=
  (config.url.bind (e.fillFault? run)).or (config.body.bind (e.fillFault? run))

/-- What a run says before it asks for an update. -/
def announceVista (e : Engine) (node : Node) (run : Run) : Run :=
  run.say .system (match e.mode with
    | .real => "Chamando API Vista (modo real)..."
    | .mock => "[MOCK] Atualizando Vista...") node.id

def announceIntegration (e : Engine) (node : Node) (config : IntegrationConfig) (run : Run) :
    Run :=
  run.say .system (match e.mode with
    | .real =>
      let url := config.url.getD ""
      let shown := if url = "" then "(sem URL)" else url
      s!"Chamando {config.integrationType}: {shown}"
    | .mock => s!"[MOCK] Integração {config.integrationType}") node.id

/-- Under the halting policy a failed effect fails the run. -/
def haltsOn (e : Engine) (result : EffectResult) : Option String :=
  if e.settings.failurePolicy = .halt then
    let reason := result.failure.getD ""
    some (if reason = "" then "Falha em efeito externo" else reason)
  else none

/-- After a failed effect: the run fails, or goes on as if nothing had happened. -/
def afterFailure (e : Engine) (node : Node) (run : Run) (result : EffectResult) : Run × Step :=
  match e.haltsOn result with
  | some reason => (run.fail reason, {})
  | none => (run, e.onward node)

def failureText (result : EffectResult) : String := (Json.ofOption result.failure).display

def failureOutput (result : EffectResult) : Json :=
  .object [("error", Json.ofOption result.failure)]

/-- What an update that succeeded is announced by. -/
def vistaSuccess (mode : Mode) (data : Json) : Except Failure String :=
  match mode with
  | .real => ("Vista atualizado: " ++ ·) <$> data.written
  | .mock =>
    let message := (data.field? "message").getD .null
    if message.isTruthy then message.said else .ok "[MOCK] Vista atualizado"

/-- The step cannot be carried out where its success cannot be told. -/
def concludeVista (e : Engine) (node : Node) (config : ActionConfig) (run : Run)
    (result : EffectResult) : Except Failure (Run × Step) :=
  let input := Json.object config.vistaFields
  if result.success then do
    let text ← vistaSuccess e.mode result.data
    let run := run.say .system text node.id
    pure (run.note node s!"Vista atualizado ({e.mode.name})" true input result.data,
      e.onward node)
  else
    let run := run.say .system s!"Erro Vista: {failureText result}" node.id
    pure (e.afterFailure node (run.note node "Erro Vista" false input (failureOutput result))
      result)

def concludeIntegration (e : Engine) (node : Node) (config : IntegrationConfig)
    (payload : Payload) (run : Run) (result : EffectResult) : Run × Step :=
  let type := config.integrationType
  let input := Json.object payload
  if result.success then
    let action := match e.mode with
      | .real => s!"Integração: {type}"
      | .mock => s!"Integração mock: {type}"
    (run.note node action true input result.data, e.onward node)
  else
    let run := run.say .system s!"Erro na integração {type}: {failureText result}" node.id
    e.afterFailure node
      (run.note node s!"Erro na integração: {type}" false input (failureOutput result)) result

end Engine
end Dialogue
