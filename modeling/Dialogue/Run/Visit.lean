import Dialogue.Number.Layout
import Dialogue.Run.Effects
import Dialogue.Untyped

/-!
# Visiting a step

Entering a step and doing what it says. A visit ends with the step the run goes to, or with a
request for an effect; a step that cannot be carried out fails the run.
-/
namespace Dialogue

/-- How far the visit of a step got. -/
inductive Visit where
  | done (run : Run) (events : List Event) (step : Step)
  | asking (run : Run) (request : EffectRequest)

/-- A failure in the middle of a step, and the run as it was by then. -/
structure Raised where
  run : Run
  failure : Failure

/-- Notes that a step could not be carried out. -/
def Run.failAt (run : Run) (node : Node) (f : Failure) : Run :=
  let run := run.note node s!"Erro: {f.report}" false .null .null
  (run.say .system s!"Erro no nó \x27{node.label}\x27: {f.report}" node.id).fail f.report

/-- The event that tells where a visit led. -/
def Node.processed (node : Node) (step : Step) : Event :=
  .nodeProcessed node.id node.type (step.next.map (·.id)) step.wait

namespace Visit

def failed (run : Run) (node : Node) (f : Failure) : Visit := .done (run.failAt node f) [] {}

def finished (run : Run) (node : Node) (step : Step) : Visit :=
  .done run [node.processed step] step

/-- A failure in the middle of a step is noted at the step. -/
def caught (node : Node) : Except Raised Visit → Visit
  | .ok visit => visit
  | .error raised => .failed raised.run node raised.failure

end Visit

namespace Engine

def visitStart (e : Engine) (node : Node) (run : Run) : Visit :=
  let run := run.note node "Fluxo iniciado" true .null .null
  .finished (run.say .system "Fluxo iniciado" node.id) node (e.onward node)

def visitMessage (e : Engine) (node : Node) (config : MessageConfig) (run : Run) :
    Except Raised Visit :=
  match e.filled run (if config.text = "" then "[Mensagem vazia]" else config.text) with
  | .error f => .error ⟨run, f⟩
  | .ok text =>
    let run := run.say .bot text node.id
    let run := run.note node "Mensagem enviada" true .null (.object [("text", .str text)])
    let run := if config.delay.isPositive then
        run.say .system s!"Aguardando {config.delay.generalText}s (ignorado no modo teste)" node.id
      else run
    .ok (.finished run node (e.onward node))

/-- Says a text of the flow, completed for the run. -/
def sayFilled (e : Engine) (node : Node) (run : Run) (text : String) : Except Failure Run :=
  (run.say .bot · node.id) <$> e.filled run text

/-- Says the prompt of an input step or the last words of a run; what counts as nothing is left
out. -/
def prompt (e : Engine) (node : Node) (run : Run) (prompt : Json) : Except Failure Run :=
  if prompt.isTruthy then Untyped.searched prompt >>= e.sayFilled node run else pure run

def visitInput (e : Engine) (node : Node) (fields : InputFields) (run : Run) :
    Except Raised Visit :=
  match e.prompt node run fields.prompt with
  | .error f => .error ⟨run, f⟩
  | .ok run =>
    match fields.variableName.said with
    | .error f => .error ⟨run, f⟩
    | .ok name =>
      let run := run.say .system s!"Aguardando entrada: {name}" node.id
      let run := run.note node s!"Aguardando input: {name}" true .null
        (.object [("expected_type", fields.expected)])
      .ok (.finished run node { wait := true })

def visitCondition (node : Node) (config : ConditionConfig) (run : Run) : Visit :=
  let run := run.note node s!"Condição: {config.conditionType}" true .null .null
  let run := run.say .system
    s!"Condição: aguardando resposta para avaliar ({config.conditionType})" node.id
  .finished run node { wait := true }

/-- The name an assignment without one binds. -/
def defaultVariable : String := "var"

def assignedName (config : ActionConfig) : String :=
  let name := config.variableName.getD ""
  if name = "" then defaultVariable else name

def visitAssignment (e : Engine) (node : Node) (config : ActionConfig) (run : Run) :
    Except Raised Visit :=
  let name := assignedName config
  let value := config.variableValue.toJson
  match run.setVariable? name value with
  | .error f => .error ⟨run, f⟩
  | .ok run =>
    .ok (.finished (run.note node s!"Variável definida: {name}" true .null
      (.object [(name, value)])) node (e.onward node))

/-- The kinds of actions that are more than a remark. -/
def assignment : String := "set_variable"

/-- Asks for an effect, unless its payload needs a text that there is none of. -/
def ask (fault : Option TextFault) (run : Run) (request : EffectRequest) : Except Raised Visit :=
  match fault with
  | some f => .error ⟨run, .unsayable f⟩
  | none => .ok (.asking run request)

def visitAction (e : Engine) (node : Node) (config : ActionConfig) (run : Run) :
    Except Raised Visit :=
  if config.actionType = updateVista then
    ask (e.vistaFault? run config) (e.announceVista node run)
      ⟨updateVista, e.mode, e.vistaPayload run config⟩
  else if config.actionType = assignment then e.visitAssignment node config run
  else .ok (.finished (run.note node s!"Ação: {config.actionType}" true .null .null) node
    (e.onward node))

def visitEscalation (e : Engine) (node : Node) (config : EscalationConfig) (run : Run) : Visit :=
  let run := run.say .system
    s!"Escalado para {config.department} (prioridade: {config.priority})" node.id
  let run := run.note node s!"Escalado para {config.department}" true .null
    (.object [("department", .str config.department), ("priority", .str config.priority),
      ("reason", .str config.reason)])
  .finished run node (e.onward node)

def visitIntegration (e : Engine) (node : Node) (config : IntegrationConfig) (run : Run) :
    Except Raised Visit :=
  ask (e.integrationFault? run config) (e.announceIntegration node config run)
    ⟨integration, e.mode, e.integrationPayload run config⟩

def visitDelay (e : Engine) (node : Node) (config : DelayConfig) (run : Run) : Visit :=
  let text := s!"{config.duration.generalText} {config.unit.name}"
  let run := run.say .system s!"[Delay: {text}] (pulado no modo teste)" node.id
  .finished (run.note node s!"Delay: {text}" true .null .null) node (e.onward node)

def visitEnd (e : Engine) (node : Node) (config : EndConfig) (run : Run) :
    Except Raised Visit :=
  match e.prompt node run (.str config.message) with
  | .error f => .error ⟨run, f⟩
  | .ok run =>
    let run := run.say .system "Fluxo concluído" node.id
    let run := run.note node "Fluxo finalizado" true .null
      (.object [("close_conversation", .bool config.closeConversation)])
    .ok (.finished run.complete node {})

def visitUnknown (e : Engine) (node : Node) (run : Run) : Visit :=
  .finished (run.note node s!"Tipo não suportado: {node.type}" false .null .null) node
    (e.onward node)

/-- The first setting that a step of a kind looks for. -/
def firstSetting : NodeKind → String
  | .start => "trigger"
  | .message => "text"
  | .input => "prompt"
  | .condition => "condition_type"
  | .action => "action_type"
  | .escalation => "department"
  | .integration => "integration_type"
  | .delay => "duration"
  | .finish => "message"

/-- What the built-in kinds of steps do. A start needs no configuration. -/
def visitBuiltin (e : Engine) (node : Node) (kind : NodeKind) (run : Run) : Except Raised Visit :=
  match kind, node.config with
  | .start, _ => .ok (e.visitStart node run)
  | .message, .message c => e.visitMessage node c run
  | .input, .input c => e.visitInput node c.fields run
  | .input, .unchecked fields => e.visitInput node fields run
  | .condition, .condition c => .ok (visitCondition node c run)
  | .action, .action c => e.visitAction node c run
  | .escalation, .escalation c => .ok (e.visitEscalation node c run)
  | .integration, .integration c => e.visitIntegration node c run
  | .delay, .delay c => .ok (e.visitDelay node c run)
  | .finish, .finish c => e.visitEnd node c run
  | kind, c => .error ⟨run, .wrongConfig c.kindName (firstSetting kind)⟩

def visitHandled (e : Engine) (node : Node) (handler : Handler) (run : Run) :
    Except Raised Visit :=
  let (run, reply) := handler e.flow node run
  match reply with
  | .raised f => .error ⟨run, f⟩
  | .value kind => .error ⟨run, .unsupportedReply node.type kind⟩
  | .nothing => .ok (.finished run node (e.onward node))
  | .step s => .ok (.finished run node s)

/-- Does what a step says that was entered. A handler for its type goes before what is built in. -/
def attempt (e : Engine) (node : Node) (run : Run) : Except Raised Visit :=
  match Bindings.get? node.type e.handlers with
  | some handler => e.visitHandled node handler run
  | none =>
    match node.kind? with
    | some kind => e.visitBuiltin node kind run
    | none => .ok (e.visitUnknown node run)

def visit (e : Engine) (node : Node) (run : Run) : Visit :=
  .caught node (e.attempt node (run.enter node.id))

/-- The event that an effect was served. -/
def measured (node : Node) (request : EffectRequest) (outcome : EffectOutcome) : Event :=
  .effectMeasured request.effect node.id request.mode (match outcome with
    | .ok _ => none
    | .error f => some f.message)

/-- What a step makes of the outcome of its effect. -/
def serve (e : Engine) (node : Node) (request : EffectRequest) (outcome : EffectOutcome)
    (run : Run) : Except Failure (Run × Step) :=
  match outcome with
  | .error f => .error f
  | .ok result =>
    match node.config with
    | .action c => e.concludeVista node c run result
    | .integration c => .ok (e.concludeIntegration node c request.payload run result)
    | _ => .ok (run, e.onward node)

/-- Takes up a visit when the outcome of its effect is there. -/
def conclude (e : Engine) (node : Node) (request : EffectRequest) (outcome : EffectOutcome)
    (run : Run) : Run × List Event × Step :=
  match e.serve node request outcome run with
  | .error f => (run.failAt node f, [], {})
  | .ok (run, step) => (run, [node.processed step], step)

end Engine
end Dialogue
