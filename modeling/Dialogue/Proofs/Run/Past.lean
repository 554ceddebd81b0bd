import Dialogue.Proofs.Run.Processing

/-!
# The past of a run

Nothing looks at what a run has said and noted before: with any past put before it, a run goes the
same way, says and notes the same, and asks for the same (`walk_upon`, `takeUp_upon`, `take_upon`).
-/
namespace Dialogue

/-- What a run said and noted before. -/
structure Past where
  messages : List Message := []
  log : List LogEntry := []

namespace Run

/-- The run with a past put before what it said and noted. -/
def upon (p : Past) (r : Run) : Run :=
  { r with messages := p.messages ++ r.messages, log := p.log ++ r.log }

variable (p : Past) (r : Run)

@[simp] theorem upon_none : r.upon {} = r := rfl

@[simp] theorem status_upon : (r.upon p).status = r.status := rfl

@[simp] theorem vars_upon : (r.upon p).vars = r.vars := rfl

@[simp] theorem failure_upon : (r.upon p).failure = r.failure := rfl

@[simp] theorem cancelled_upon : (r.upon p).cancelled = r.cancelled := rfl

@[simp] theorem isTerminal_upon : (r.upon p).isTerminal = r.isTerminal := rfl

@[simp] theorem terminalEvents_upon : (r.upon p).terminalEvents = r.terminalEvents := rfl

@[simp] theorem say_upon (speaker : Speaker) (content : String) (nodeId : Option String) :
    (r.upon p).say speaker content nodeId = (r.say speaker content nodeId).upon p := by
  simp [say, upon]

@[simp] theorem note_upon (node : Node) (action : String) (success : Bool) (input output : Json) :
    (r.upon p).note node action success input output =
      (r.note node action success input output).upon p := by
  simp [note, upon]

@[simp] theorem enter_upon (id : String) : (r.upon p).enter id = (r.enter id).upon p := rfl

@[simp] theorem fail_upon (error : String) : (r.upon p).fail error = (r.fail error).upon p := rfl

@[simp] theorem released_upon : (r.upon p).released = r.released.upon p := rfl

@[simp] theorem suspend_upon : (r.upon p).suspend = r.suspend.upon p := by
  by_cases h : r.status = .running
  · rw [suspend, suspend, if_pos h, if_pos (show (r.upon p).status = .running from h)]
    rfl
  · rw [suspend, suspend, if_neg h, if_neg (show (r.upon p).status ≠ .running from h)]

@[simp] theorem complete_upon : (r.upon p).complete = r.complete.upon p := by
  by_cases h : r.isTerminal = true
  · rw [complete, complete, if_pos h, if_pos (show (r.upon p).isTerminal = true from h)]
  · rw [complete, complete, if_neg h, if_neg (show (r.upon p).isTerminal ≠ true from h)]
    rfl

@[simp] theorem failAt_upon (node : Node) (f : Failure) :
    (r.upon p).failAt node f = (r.failAt node f).upon p := by
  simp [failAt]

end Run

def Visit.upon (p : Past) : Visit → Visit
  | .done run events step => .done (run.upon p) events step
  | .asking run request => .asking (run.upon p) request

def Leg.upon (p : Past) (leg : Leg) : Leg := { leg with run := leg.run.upon p }

def Session.Taken.upon (p : Past) : Session.Taken → Session.Taken
  | .walkOn run next => .walkOn (run.upon p) next
  | .waitMore run => .waitMore (run.upon p)
  | .failed run events => .failed (run.upon p) events

theorem Leg.after_upon (p : Past) (events : List Event) (leg : Leg) :
    (leg.upon p).after events = (leg.after events).upon p := rfl

theorem Leg.returned_upon (p : Past) (run : Run) (events : List Event) :
    Leg.returned (run.upon p) events = (Leg.returned run events).upon p := rfl

theorem Visit.finished_upon (p : Past) (run : Run) (node : Node) (step : Step) :
    Visit.finished (run.upon p) node step = (Visit.finished run node step).upon p := rfl

namespace Engine

variable {e : Engine} {node : Node} (p : Past) (run : Run)

@[simp] theorem fill_upon (e : Engine) (p : Past) (run : Run) : e.fill (run.upon p) = e.fill run :=
  rfl

theorem vistaPayload_upon (e : Engine) (p : Past) (run : Run) (c : ActionConfig) :
    e.vistaPayload (run.upon p) c = e.vistaPayload run c := rfl

theorem integrationPayload_upon (e : Engine) (p : Past) (run : Run) (c : IntegrationConfig) :
    e.integrationPayload (run.upon p) c = e.integrationPayload run c := rfl

theorem filled_upon (e : Engine) (p : Past) (run : Run) : e.filled (run.upon p) = e.filled run :=
  rfl

theorem vistaFault?_upon (e : Engine) (p : Past) (run : Run) (c : ActionConfig) :
    e.vistaFault? (run.upon p) c = e.vistaFault? run c := rfl

theorem integrationFault?_upon (e : Engine) (p : Past) (run : Run) (c : IntegrationConfig) :
    e.integrationFault? (run.upon p) c = e.integrationFault? run c := rfl

private theorem prompt_upon (v : Json) :
    e.prompt node (run.upon p) v = (Run.upon p) <$> e.prompt node run v := by
  unfold prompt
  split
  · cases Untyped.searched v with
    | error f => rfl
    | ok text =>
        show e.sayFilled node (run.upon p) text = Run.upon p <$> e.sayFilled node run text
        simp only [sayFilled, filled_upon]
        cases e.filled run text with
        | error f => rfl
        | ok content => exact congrArg Except.ok (run.say_upon p .bot content node.id)
  · rfl

private theorem visitMessage_upon (c : MessageConfig) :
    Visit.caught node (e.visitMessage node c (run.upon p)) =
      (Visit.caught node (e.visitMessage node c run)).upon p := by
  simp only [visitMessage, filled_upon]
  cases e.filled run (if c.text = "" then "[Mensagem vazia]" else c.text) with
  | error f => simp [Visit.caught, Visit.failed, Visit.upon]
  | ok text =>
      simp only [Run.say_upon, Run.note_upon]
      split <;> simp [Visit.caught, Visit.finished_upon]

private theorem visitInput_upon (fields : InputFields) :
    Visit.caught node (e.visitInput node fields (run.upon p)) =
      (Visit.caught node (e.visitInput node fields run)).upon p := by
  simp only [visitInput, prompt_upon]
  cases e.prompt node run fields.prompt with
  | error f => simp [Functor.map, Except.map, Visit.caught, Visit.failed, Visit.upon]
  | ok r =>
      simp only [Functor.map, Except.map]
      cases fields.variableName.said with
      | error f => simp [Visit.caught, Visit.failed, Visit.upon]
      | ok name => simp [Visit.caught, Visit.finished_upon]

private theorem visitEnd_upon (c : EndConfig) :
    Visit.caught node (e.visitEnd node c (run.upon p)) =
      (Visit.caught node (e.visitEnd node c run)).upon p := by
  simp only [visitEnd, prompt_upon]
  cases e.prompt node run (.str c.message) with
  | error f => simp [Functor.map, Except.map, Visit.caught, Visit.failed, Visit.upon]
  | ok r => simp [Functor.map, Except.map, Visit.caught, Visit.finished_upon]

private theorem ask_upon (fault : Option TextFault) (request : EffectRequest) :
    Visit.caught node (ask fault (run.upon p) request) =
      (Visit.caught node (ask fault run request)).upon p := by
  cases fault <;> simp [ask, Visit.caught, Visit.failed, Visit.upon]

private theorem visitAssignment_upon (c : ActionConfig) :
    Visit.caught node (e.visitAssignment node c (run.upon p)) =
      (Visit.caught node (e.visitAssignment node c run)).upon p := by
  simp only [visitAssignment, Run.setVariable?, Run.vars_upon]
  cases run.vars.set? (assignedName c) c.variableValue.toJson with
  | none => simp [Visit.caught, Visit.failed, Visit.upon]
  | some vars =>
      have hnote := Run.note_upon p { run with vars := vars } node
        s!"Variável definida: {assignedName c}" true .null
        (.object [(assignedName c, c.variableValue.toJson)])
      exact congrArg (fun r => Visit.finished r node (e.onward node)) hnote

private theorem visitBuiltin_upon (kind : NodeKind) :
    Visit.caught node (e.visitBuiltin node kind (run.upon p)) =
      (Visit.caught node (e.visitBuiltin node kind run)).upon p := by
  unfold visitBuiltin
  split
  · simp [visitStart, Visit.caught, Visit.finished_upon]
  · exact visitMessage_upon p run _
  · exact visitInput_upon p run _
  · exact visitInput_upon p run _
  · simp [visitCondition, Visit.caught, Visit.finished_upon]
  · unfold visitAction
    split
    · simp only [announceVista, vistaPayload_upon, vistaFault?_upon, Run.say_upon]
      exact ask_upon p _ _ _
    · split
      · exact visitAssignment_upon p run _
      · simp [Visit.caught, Visit.finished_upon]
  · simp [visitEscalation, Visit.caught, Visit.finished_upon]
  · simp only [visitIntegration, announceIntegration, integrationPayload_upon,
      integrationFault?_upon, Run.say_upon]
    exact ask_upon p _ _ _
  · simp [visitDelay, Visit.caught, Visit.finished_upon]
  · exact visitEnd_upon p run _
  · simp [Visit.caught, Visit.failed, Visit.upon]

theorem visit_upon (hh : e.handlers = []) (p : Past) (run : Run) :
    e.visit node (run.upon p) = (e.visit node run).upon p := by
  simp only [visit, attempt, unhandled hh node, Run.enter_upon]
  cases node.kind? with
  | some kind => exact visitBuiltin_upon p (run.enter node.id) kind
  | none => simp [visitUnknown, Visit.caught, Visit.finished_upon]

theorem endOfFlow_upon : endOfFlow (run.upon p) = (endOfFlow run).upon p := by
  by_cases h : run.status = .running ∧ run.cancelled = false
  · simp [endOfFlow, h, Leg.returned_upon]
  · rw [endOfFlow, endOfFlow, if_neg h,
      if_neg (show ¬ ((run.upon p).status = .running ∧ (run.upon p).cancelled = false) from h),
      Leg.returned_upon]

theorem proceed_upon {walk : Option Node → Run → Leg} {step : Step}
    (hw : ∀ r : Run, walk step.next (r.upon p) = (walk step.next r).upon p) (node : Node)
    (events : List Event) :
    proceed walk node (run.upon p) events step = (proceed walk node run events step).upon p := by
  by_cases hwait : step.wait = true
  · simp [proceed, hwait, Leg.returned_upon]
  · by_cases hterminal : run.isTerminal = true
    · simp [proceed, hwait, hterminal, Leg.returned_upon]
    · simp [proceed, hwait, hterminal, hw, Leg.after_upon]

theorem walk_upon (hh : e.handlers = []) (p : Past) (steps : Nat) (next : Option Node)
    (run : Run) : e.walk steps next (run.upon p) = (e.walk steps next run).upon p := by
  -- on the bound; each visit takes the past along
  induction steps generalizing next run with
  | zero =>
      cases next with
      | none => exact endOfFlow_upon p run
      | some node => rfl
  | succ steps ih =>
      cases next with
      | none => exact endOfFlow_upon p run
      | some node =>
          simp only [walk, Run.cancelled_upon, visit_upon hh]
          by_cases hc : run.cancelled = true
          · simp [hc, Leg.returned_upon]
          · simp only [if_neg hc]
            cases e.visit node run with
            | asking r request => rfl
            | done r events step => exact proceed_upon p r (ih step.next) node events

theorem continueFrom_upon (hh : e.handlers = []) (p : Past) (next : Option Node) (run : Run) :
    e.continueFrom next (run.upon p) = (e.continueFrom next run).upon p := by
  by_cases h : run.processing = true
  · rw [continueFrom, continueFrom, if_pos h, if_pos (show (run.upon p).processing = true from h)]
    rfl
  · rw [continueFrom, continueFrom, if_neg h, if_neg (show (run.upon p).processing ≠ true from h)]
    exact walk_upon hh p e.bound next { run with processing := true }

private theorem afterFailure_upon (result : EffectResult) :
    e.afterFailure node (run.upon p) result =
      ((e.afterFailure node run result).1.upon p, (e.afterFailure node run result).2) := by
  unfold afterFailure
  split <;> rfl

private theorem concludeVista_upon (c : ActionConfig) (result : EffectResult) :
    e.concludeVista node c (run.upon p) result =
      (fun left => (left.1.upon p, left.2)) <$> e.concludeVista node c run result := by
  unfold concludeVista
  split
  · cases vistaSuccess e.mode result.data with
    | error f => rfl
    | ok text => simp [bind, Except.bind, pure, Except.pure, Functor.map, Except.map]
  · simp [afterFailure_upon, pure, Except.pure, Functor.map, Except.map]

private theorem concludeIntegration_upon (c : IntegrationConfig) (payload : Payload)
    (result : EffectResult) : e.concludeIntegration node c payload (run.upon p) result =
      ((e.concludeIntegration node c payload run result).1.upon p,
        (e.concludeIntegration node c payload run result).2) := by
  unfold concludeIntegration
  split
  · simp
  · simp [afterFailure_upon]

private theorem serve_upon (request : EffectRequest) (outcome : EffectOutcome) :
    e.serve node request outcome (run.upon p) =
      (fun left => (left.1.upon p, left.2)) <$> e.serve node request outcome run := by
  cases outcome with
  | error f => rfl
  | ok result =>
      unfold serve
      dsimp only
      split
      · exact concludeVista_upon p run _ result
      · rw [concludeIntegration_upon]
        rfl
      · rfl

theorem conclude_upon (e : Engine) (p : Past) (node : Node) (request : EffectRequest)
    (outcome : EffectOutcome) (run : Run) :
    e.conclude node request outcome (run.upon p) =
      ((e.conclude node request outcome run).1.upon p,
        (e.conclude node request outcome run).2) := by
  simp only [conclude, serve_upon]
  cases e.serve node request outcome run with
  | error f => simp [Functor.map, Except.map]
  | ok left => rfl

theorem takeUp_upon (hh : e.handlers = []) (p : Past) (node : Node) (request : EffectRequest)
    (outcome : EffectOutcome) (run : Run) :
    e.takeUp node request outcome (run.upon p) = (e.takeUp node request outcome run).upon p := by
  simp only [takeUp, conclude_upon]
  exact proceed_upon p _ (walk_upon hh p e.bound _) node _

end Engine
end Dialogue
