import Dialogue.Proofs.Run.Processing
import Dialogue.Run.Walk
import Mathlib.Data.List.Forall2

/-!
# Rehearsing a run

Under the policy that goes on after a failed effect, a run whose effects are simulated goes the way
of one whose effects are carried out or fail: what comes of an effect reaches the lines of the
system and the log entry of its own step, and nothing else (`walk_alike`, `takeUp_alike`). Only
data without a text could stop the one run and not the other.
-/
namespace Dialogue

/-- A step that asks for an effect when it is visited. -/
def Node.callsOut (node : Node) : Bool :=
  match node.kind?, node.config with
  | some .action, .action c => c.actionType = updateVista
  | some .integration, .integration _ => true
  | _, _ => false

theorem Node.seeksEffect_of_callsOut {node : Node} (h : node.callsOut = true) :
    node.SeeksEffect := by
  unfold callsOut at h
  split at h
  · exact .inl ⟨_, ‹_›⟩
  · exact .inr ⟨_, ‹_›⟩
  · cases h

namespace LogEntry

def callsOut (flow : Flow) (x : LogEntry) : Bool :=
  flow.nodes.any fun n => n.id = x.nodeId && n.callsOut

/-- An entry without what came of an effect. -/
def outline (flow : Flow) (x : LogEntry) : LogEntry :=
  if x.callsOut flow then { x with action := "", input := .null, output := .null, success := true }
  else x

theorem outline_of_callsOut {flow : Flow} {node : Node} (hn : node ∈ flow.nodes)
    (ho : node.callsOut = true) (label action : String) (input output : Json)
    (duration : Number.Binary64) (success : Bool) :
    outline flow ⟨node.id, node.type, label, action, input, output, duration, success⟩ =
      ⟨node.id, node.type, label, "", .null, .null, duration, true⟩ := by
  have hany : callsOut flow
      ⟨node.id, node.type, label, action, input, output, duration, success⟩ = true :=
    List.any_eq_true.mpr ⟨node, hn, by simp [ho]⟩
  rw [outline, if_pos hany]

/-- Two entries that say the same, unless they are of a step that asks for an effect. -/
structure Agrees (flow : Flow) (x y : LogEntry) : Prop where
  id : y.nodeId = x.nodeId
  type : y.nodeType = x.nodeType
  told : x.callsOut flow = false → y.action = x.action ∧ y.input = x.input ∧
    y.output = x.output ∧ y.success = x.success

end LogEntry

namespace Run

/-- The lines of the bot and of the contact. -/
def spoken (r : Run) : List Message := r.messages.filter (·.speaker ≠ .system)

/-- A run without the lines of the system and without what came of its effects. -/
def outline (flow : Flow) (r : Run) : Run :=
  { r with messages := r.spoken, log := r.log.map (·.outline flow) }

/-- Two runs that only what came of their effects may tell apart. -/
def Alike (flow : Flow) (r s : Run) : Prop := r.outline flow = s.outline flow

namespace Alike

variable {flow : Flow} {node : Node} {r s t : Run}

theorem refl (r : Run) : r.Alike flow r := rfl

theorem symm (h : r.Alike flow s) : s.Alike flow r := Eq.symm h

theorem trans (h : r.Alike flow s) (h' : s.Alike flow t) : r.Alike flow t := Eq.trans h h'

theorem map {f : Run → Run} (hf : ∀ r, (f r).outline flow = f (r.outline flow))
    (h : r.Alike flow s) : (f r).Alike flow (f s) := by
  rw [Alike, hf, hf, h]

theorem see {α : Type} (h : r.Alike flow s) (f : Run → α)
    (hf : ∀ r, f (r.outline flow) = f r) : f r = f s := by
  rw [← hf r, h, hf s]

theorem id (h : r.Alike flow s) : r.id = s.id := h.see Run.id fun _ => rfl

theorem status (h : r.Alike flow s) : r.status = s.status := h.see Run.status fun _ => rfl

theorem current (h : r.Alike flow s) : r.current = s.current := h.see Run.current fun _ => rfl

theorem vars (h : r.Alike flow s) : r.vars = s.vars := h.see Run.vars fun _ => rfl

theorem processing (h : r.Alike flow s) : r.processing = s.processing :=
  h.see Run.processing fun _ => rfl

theorem cancelled (h : r.Alike flow s) : r.cancelled = s.cancelled :=
  h.see Run.cancelled fun _ => rfl

theorem isTerminal (h : r.Alike flow s) : r.isTerminal = s.isTerminal :=
  h.see Run.isTerminal fun _ => rfl

theorem enter (h : r.Alike flow s) (id : String) : (r.enter id).Alike flow (s.enter id) :=
  h.map (f := fun r => r.enter id) fun _ => rfl

theorem fail (h : r.Alike flow s) (error : String) : (r.fail error).Alike flow (s.fail error) :=
  h.map (f := fun r => r.fail error) fun _ => rfl

theorem released (h : r.Alike flow s) : r.released.Alike flow s.released :=
  h.map (f := Run.released) fun _ => rfl

theorem suspend (h : r.Alike flow s) : r.suspend.Alike flow s.suspend := by
  refine h.map (f := Run.suspend) fun r => ?_
  show (if r.status = .running then _ else r).outline flow = if r.status = .running then _ else _
  split <;> rfl

theorem complete (h : r.Alike flow s) : r.complete.Alike flow s.complete := by
  refine h.map (f := Run.complete) fun r => ?_
  show (if r.isTerminal then r else _).outline flow = if r.isTerminal then _ else _
  split <;> rfl

theorem bind (h : r.Alike flow s) (vars : Variables) :
    Run.Alike flow { r with vars := vars } { s with vars := vars } :=
  h.map (f := fun r => { r with vars := vars }) fun _ => rfl

theorem remark (flow : Flow) (r : Run) (content : String) (nodeId : Option String) :
    (r.say .system content nodeId).Alike flow r := by
  simp [Alike, outline, spoken, Run.say, List.filter_append]

theorem say (h : r.Alike flow s) (speaker : Speaker) (content : String)
    (nodeId : Option String) : (r.say speaker content nodeId).Alike flow
      (s.say speaker content nodeId) := by
  by_cases hs : speaker = .system
  · subst hs
    exact ((remark flow r _ _).trans h).trans (remark flow s _ _).symm
  · refine h.map (f := fun r => r.say speaker content nodeId) fun r => ?_
    simp [outline, spoken, Run.say, List.filter_append, hs]

theorem outline_note (flow : Flow) (node : Node) (r : Run) (action : String) (success : Bool)
    (input output : Json) : (r.note node action success input output).outline flow =
      { r.outline flow with
        log := (r.outline flow).log ++ [LogEntry.outline flow
          ⟨node.id, node.type, node.label, action, input, output, .zero, success⟩] } := by
  simp [outline, spoken, Run.note]

theorem note (h : r.Alike flow s) (node : Node) (action : String) (success : Bool)
    (input output : Json) : (r.note node action success input output).Alike flow
      (s.note node action success input output) := by
  rw [Alike, outline_note, outline_note, h]

/-- Of a step that asks for an effect, an entry shows no more than that it was there. -/
theorem note_of_callsOut (hn : node ∈ flow.nodes) (ho : node.callsOut = true) (r : Run)
    (action : String) (success : Bool) (input output : Json) :
    (r.note node action success input output).Alike flow (r.note node "" true .null .null) := by
  simp only [Alike, outline_note, LogEntry.outline_of_callsOut hn ho]

theorem failAt (h : r.Alike flow s) (node : Node) (f : Failure) :
    (r.failAt node f).Alike flow (s.failAt node f) :=
  ((h.note node _ _ _ _).say _ _ _).fail _

end Alike

end Run

/-- Visits that only the mode and what came of earlier effects may tell apart. -/
inductive Visit.Alike (flow : Flow) (node : Node) : Visit → Visit → Prop where
  | done {r s : Run} (h : r.Alike flow s) (events : List Event) (step : Step) :
      Visit.Alike flow node (.done r events step) (.done s events step)
  | asking {r s : Run} (h : r.Alike flow s) (ho : node.callsOut = true)
      (request twin : EffectRequest) :
      Visit.Alike flow node (.asking r request) (.asking s twin)

/-- Ways for a leg to end that only requests for effects may tell apart. -/
inductive Stop.Alike (flow : Flow) : Stop → Stop → Prop where
  | returned : Stop.Alike flow .returned .returned
  | awaiting {node : Node} (hn : node ∈ flow.nodes) (ho : node.callsOut = true)
      (request twin : EffectRequest) :
      Stop.Alike flow (.awaiting node request) (.awaiting node twin)
  | endless : Stop.Alike flow .endless .endless

structure Leg.Alike (flow : Flow) (leg twin : Leg) : Prop where
  run : leg.run.Alike flow twin.run
  stop : leg.stop.Alike flow twin.stop

theorem Leg.Alike.after {flow : Flow} {leg twin : Leg} (h : leg.Alike flow twin)
    (events more : List Event) : (leg.after events).Alike flow (twin.after more) :=
  ⟨h.run, h.stop⟩

theorem Leg.Alike.of_returned {flow : Flow} {r s : Run} (h : r.Alike flow s)
    (events more : List Event) : Leg.Alike flow (.returned r events) (.returned s more) :=
  ⟨h.released, .returned⟩

namespace Engine

/-- The same engine with its effects simulated or carried out. -/
def inMode (e : Engine) (real : Bool) : Engine :=
  { e with settings := { e.settings with useReal := real } }

variable {e : Engine} {node : Node} {r s : Run} {real live : Bool}

theorem fill_alike (real live : Bool) (h : r.Alike e.flow s) :
    (e.inMode real).fill r = (e.inMode live).fill s := by
  funext text
  simp only [fill, h.vars, inMode]

theorem fillFault?_alike (real live : Bool) (h : r.Alike e.flow s) :
    (e.inMode real).fillFault? r = (e.inMode live).fillFault? s := by
  funext text
  simp only [fillFault?, h.vars, inMode]

theorem filled_alike (real live : Bool) (h : r.Alike e.flow s) (text : String) :
    (e.inMode real).filled r text = (e.inMode live).filled s text := by
  simp only [filled, h.vars, inMode]

theorem fillField_alike (real live : Bool) (h : r.Alike e.flow s) :
    (e.inMode real).fillField r = (e.inMode live).fillField s := by
  funext v
  unfold fillField
  split
  · rw [fill_alike real live h]
  · rfl

theorem vistaFault?_alike (real live : Bool) (h : r.Alike e.flow s) (c : ActionConfig) :
    (e.inMode real).vistaFault? r c = (e.inMode live).vistaFault? s c := by
  have hfield : (e.inMode real).fieldFault? r = (e.inMode live).fieldFault? s := by
    funext v
    unfold fieldFault?
    split
    · rw [fillFault?_alike real live h]
    · rfl
  rw [vistaFault?, vistaFault?, hfield, fillField_alike real live h, h.vars]

theorem integrationFault?_alike (real live : Bool) (h : r.Alike e.flow s)
    (c : IntegrationConfig) :
    (e.inMode real).integrationFault? r c = (e.inMode live).integrationFault? s c := by
  rw [integrationFault?, integrationFault?, fillFault?_alike real live h]

private theorem visitMessage_alike (h : r.Alike e.flow s) (c : MessageConfig) :
    Visit.Alike e.flow node (.caught node ((e.inMode real).visitMessage node c r))
      (.caught node ((e.inMode live).visitMessage node c s)) := by
  simp only [visitMessage, filled_alike real live h]
  cases (e.inMode live).filled s (if c.text = "" then "[Mensagem vazia]" else c.text) with
  | error f => exact .done (h.failAt node f) _ _
  | ok text =>
      have hsaid := (h.say .bot text (some node.id)).note node "Mensagem enviada" true .null
        (.object [("text", .str text)])
      dsimp only
      split
      · exact .done (hsaid.say _ _ _) _ _
      · exact .done hsaid _ _

/-- What is said ahead of a question or at the end is said in both or fails in both. -/
private theorem prompt_alike (real live : Bool) (node : Node) (h : r.Alike e.flow s)
    (prompt : Json) :
    (∃ f, (e.inMode real).prompt node r prompt = .error f ∧
      (e.inMode live).prompt node s prompt = .error f) ∨
    ∃ r' s', (e.inMode real).prompt node r prompt = .ok r' ∧
      (e.inMode live).prompt node s prompt = .ok s' ∧ r'.Alike e.flow s' := by
  unfold Engine.prompt
  by_cases htruthy : prompt.isTruthy = true
  · rw [if_pos htruthy, if_pos htruthy]
    cases Untyped.searched prompt with
    | error f => exact .inl ⟨f, rfl, rfl⟩
    | ok text =>
        show (∃ f, (e.inMode real).sayFilled node r text = .error f ∧
            (e.inMode live).sayFilled node s text = .error f) ∨ _
        rw [sayFilled, sayFilled, filled_alike real live h]
        cases hfilled : (e.inMode live).filled s text with
        | error f => exact .inl ⟨f, rfl, rfl⟩
        | ok content =>
            refine .inr ⟨r.say .bot content node.id, s.say .bot content node.id, ?_, ?_,
              h.say _ _ _⟩
            · show (e.inMode real).sayFilled node r text = _
              rw [sayFilled, filled_alike real live h, hfilled]
              rfl
            · show (e.inMode live).sayFilled node s text = _
              rw [sayFilled, hfilled]
              rfl
  · rw [if_neg htruthy, if_neg htruthy]
    exact .inr ⟨r, s, rfl, rfl, h⟩

private theorem visitInput_alike (h : r.Alike e.flow s) (fields : InputFields) :
    Visit.Alike e.flow node (.caught node ((e.inMode real).visitInput node fields r))
      (.caught node ((e.inMode live).visitInput node fields s)) := by
  unfold visitInput
  obtain ⟨f, hreal, hlive⟩ | ⟨r', s', hreal, hlive, h'⟩ :=
    prompt_alike real live node h fields.prompt
  · rw [hreal, hlive]
    exact .done (h.failAt node f) _ _
  · rw [hreal, hlive]
    dsimp only
    cases fields.variableName.said with
    | error f => exact .done (h'.failAt node f) _ _
    | ok name => exact .done ((h'.say _ _ _).note _ _ _ _ _) _ _

private theorem visitEnd_alike (h : r.Alike e.flow s) (c : EndConfig) :
    Visit.Alike e.flow node (.caught node ((e.inMode real).visitEnd node c r))
      (.caught node ((e.inMode live).visitEnd node c s)) := by
  unfold visitEnd
  obtain ⟨f, hreal, hlive⟩ | ⟨r', s', hreal, hlive, h'⟩ :=
    prompt_alike real live node h (.str c.message)
  · rw [hreal, hlive]
    exact .done (h.failAt node f) _ _
  · rw [hreal, hlive]
    exact .done ((h'.say _ _ _).note _ _ _ _ _).complete _ _

private theorem ask_alike (h : r.Alike e.flow s) (ho : node.callsOut = true)
    (content other : String) (fault : Option TextFault) (request twin : EffectRequest) :
    Visit.Alike e.flow node
      (.caught node (ask fault (r.say .system content node.id) request))
      (.caught node (ask fault (s.say .system other node.id) twin)) := by
  have hsaid : (r.say .system content node.id).Alike e.flow (s.say .system other node.id) :=
    ((Run.Alike.remark _ r _ _).trans h).trans (Run.Alike.remark _ s _ _).symm
  cases fault with
  | some f => exact .done (hsaid.failAt node _) _ _
  | none => exact .asking hsaid ho _ _

private theorem visitAssignment_alike (h : r.Alike e.flow s) (c : ActionConfig) :
    Visit.Alike e.flow node (.caught node ((e.inMode real).visitAssignment node c r))
      (.caught node ((e.inMode live).visitAssignment node c s)) := by
  simp only [visitAssignment, Run.setVariable?, h.vars]
  cases s.vars.set? (assignedName c) c.variableValue.toJson with
  | some vars => exact .done ((h.bind vars).note _ _ _ _ _) _ _
  | none => exact .done (h.failAt _ _) _ _

private theorem visitBuiltin_alike (h : r.Alike e.flow s) {kind : NodeKind}
    (hk : node.kind? = some kind) :
    Visit.Alike e.flow node (.caught node ((e.inMode real).visitBuiltin node kind r))
      (.caught node ((e.inMode live).visitBuiltin node kind s)) := by
  unfold visitBuiltin
  split
  · exact .done ((h.note _ _ _ _ _).say _ _ _) _ _
  · exact visitMessage_alike h _
  · exact visitInput_alike h _
  · exact visitInput_alike h _
  · exact .done ((h.note _ _ _ _ _).say _ _ _) _ _
  · rename_i c hc
    unfold visitAction
    split
    · rename_i hv
      have ho : node.callsOut = true := by simp [Node.callsOut, hk, hc, hv]
      rw [vistaFault?_alike real live h]
      exact ask_alike h ho _ _ _ _ _
    · split
      · exact visitAssignment_alike h c
      · exact .done (h.note _ _ _ _ _) _ _
  · exact .done ((h.say _ _ _).note _ _ _ _ _) _ _
  · rename_i c hc
    have ho : node.callsOut = true := by simp [Node.callsOut, hk, hc]
    unfold visitIntegration
    rw [integrationFault?_alike real live h]
    exact ask_alike h ho _ _ _ _ _
  · exact .done ((h.say _ _ _).note _ _ _ _ _) _ _
  · exact visitEnd_alike h _
  · exact .done (h.failAt _ _) _ _

theorem visit_alike (hh : e.handlers = []) (real live : Bool) (node : Node)
    (h : r.Alike e.flow s) :
    Visit.Alike e.flow node ((e.inMode real).visit node r) ((e.inMode live).visit node s) := by
  have hnone (real : Bool) : Bindings.get? node.type (e.inMode real).handlers = none := by
    simp [inMode, hh, Bindings.get?]
  simp only [visit, attempt, hnone]
  cases hk : node.kind? with
  | some kind => exact visitBuiltin_alike (h.enter node.id) hk
  | none => exact .done ((h.enter node.id).note _ _ _ _ _) _ _

theorem mem_of_visit (hh : e.handlers = []) (node : Node) (run : Run) :
    ∀ r events step, e.visit node run = .done r events step →
      ∀ n ∈ step.next, n ∈ e.flow.nodes := by
  intro r events step hv
  have hvisit := visit_visited (unhandled hh node) run
  rw [hv] at hvisit
  cases hvisit with
  | settled h =>
      cases h with
      | concluded h =>
          cases h with
          | onward => exact fun _ hn => Flow.mem_of_next? hn
          | halts => simp
          | breaks => simp
      | waits => simp
      | completes => simp

private theorem afterFailure_alike (hp : e.settings.failurePolicy = .proceed) (r : Run)
    (result : EffectResult) :
    (e.inMode real).afterFailure node r result = (r, e.onward node) := by
  simp [afterFailure, haltsOn, inMode, hp, onward]

/-- An effect that is answered leaves the same behind under the policy that goes on, whatever it
answers, if it can be told. -/
theorem conclude_alike (hp : e.settings.failurePolicy = .proceed) (real : Bool)
    (hn : node ∈ e.flow.nodes) (ho : node.callsOut = true) (request : EffectRequest)
    {result : EffectResult} (ht : (e.inMode real).obstacle? node (.ok result) = none) (r : Run) :
    ((e.inMode real).conclude node request (.ok result) r).1.Alike e.flow
        (r.note node "" true .null .null) ∧
      ((e.inMode real).conclude node request (.ok result) r).2.2 = e.onward node := by
  have hnoted (content action : String) (success : Bool) (input output : Json) :
      ((r.say .system content node.id).note node action success input output).Alike e.flow
        (r.note node "" true .null .null) :=
    (Run.Alike.note_of_callsOut hn ho _ _ _ _ _).trans ((Run.Alike.remark _ r _ _).note ..)
  rcases Node.seeksEffect_of_callsOut ho with ⟨c, hc⟩ | ⟨c, hc⟩
  · simp only [conclude, serve, hc, concludeVista]
    by_cases hsuccess : result.success = true
    · simp only [if_pos hsuccess]
      cases htext : vistaSuccess (e.inMode real).mode result.data with
      | error f => simp [obstacle?, hc, hsuccess, htext] at ht
      | ok text => exact ⟨hnoted _ _ _ _ _, rfl⟩
    · simp only [if_neg hsuccess]
      rw [afterFailure_alike hp]
      exact ⟨hnoted _ _ _ _ _, rfl⟩
  · simp only [conclude, serve, hc, concludeIntegration]
    split
    · exact ⟨Run.Alike.note_of_callsOut hn ho _ _ _ _ _, rfl⟩
    · rw [afterFailure_alike hp]
      exact ⟨hnoted _ _ _ _ _, rfl⟩

theorem endOfFlow_alike {flow : Flow} (h : r.Alike flow s) :
    (endOfFlow r).Alike flow (endOfFlow s) := by
  simp only [endOfFlow, h.status, h.cancelled]
  split
  · exact .of_returned (h.say _ _ _).complete _ _
  · exact .of_returned h _ _

theorem proceed_alike {flow : Flow} {walk twin : Option Node → Run → Leg} {step : Step}
    (hw : ∀ r s : Run, r.Alike flow s → (walk step.next r).Alike flow (twin step.next s))
    (h : r.Alike flow s) (node : Node) (events more : List Event) :
    (proceed walk node r events step).Alike flow (proceed twin node s more step) := by
  simp only [proceed, h.isTerminal]
  split
  · exact .of_returned h.suspend _ _
  · split
    · exact .of_returned h _ _
    · exact (hw r s h).after _ _

theorem walk_alike (hh : e.handlers = []) (real live : Bool) (steps : Nat) (next : Option Node)
    (hn : ∀ n ∈ next, n ∈ e.flow.nodes) (h : r.Alike e.flow s) :
    ((e.inMode real).walk steps next r).Alike e.flow ((e.inMode live).walk steps next s) := by
  -- on the bound; after each step the runs are alike and go on to the same step
  induction steps generalizing next r s with
  | zero =>
      cases next with
      | none => exact endOfFlow_alike h
      | some node => exact ⟨h, .endless⟩
  | succ steps ih =>
      cases next with
      | none => exact endOfFlow_alike h
      | some node =>
          simp only [walk, h.cancelled]
          split
          · exact .of_returned h _ _
          · have hnext := mem_of_visit (e := e.inMode real) hh node r
            have hvisit := visit_alike hh real live node h
            generalize (e.inMode real).visit node r = visit at hnext hvisit ⊢
            generalize (e.inMode live).visit node s = twin at hvisit ⊢
            cases hvisit with
            | done h events step =>
                exact proceed_alike (fun r s => ih step.next (hnext _ _ _ rfl)) h node _ _
            | asking h ho => exact ⟨h, .awaiting (hn node rfl) ho _ _⟩

theorem continueFrom_alike (hh : e.handlers = []) (real live : Bool) {next : Option Node}
    (hn : ∀ n ∈ next, n ∈ e.flow.nodes) (h : r.Alike e.flow s) :
    ((e.inMode real).continueFrom next r).Alike e.flow
      ((e.inMode live).continueFrom next s) := by
  simp only [continueFrom, h.processing]
  split
  · exact ⟨h, .returned⟩
  · exact walk_alike hh real live _ next hn
      (h.map (f := fun r => { r with processing := true }) fun _ => rfl)

theorem takeUp_alike (hh : e.handlers = []) (hp : e.settings.failurePolicy = .proceed)
    (real live : Bool) (hn : node ∈ e.flow.nodes) (ho : node.callsOut = true)
    (h : r.Alike e.flow s) (request twin : EffectRequest) {result other : EffectResult}
    (ht : (e.inMode real).obstacle? node (.ok result) = none)
    (ht' : (e.inMode live).obstacle? node (.ok other) = none) :
    ((e.inMode real).takeUp node request (.ok result) r).Alike e.flow
      ((e.inMode live).takeUp node twin (.ok other) s) := by
  obtain ⟨hleft, honward⟩ := conclude_alike hp real hn ho request ht r
  obtain ⟨hright, honward'⟩ := conclude_alike hp live hn ho twin ht' s
  have halike := (hleft.trans (h.note node _ _ _ _)).trans hright.symm
  simp only [takeUp]
  rw [honward, honward']
  have hnext : ∀ n ∈ (e.onward node).next, n ∈ e.flow.nodes := fun _ hn => Flow.mem_of_next? hn
  exact proceed_alike (fun r s => walk_alike hh real live _ _ hnext) halike node _ _

end Engine
end Dialogue
