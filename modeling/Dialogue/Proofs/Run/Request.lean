import Dialogue.Run.Walk

/-!
# What a step asks for

Only two kinds of steps ask for an effect, and what they hand over is made from their configuration
and the variables alone (`visit_asking`). What a leg of a walk waits for is the request of its step
(`walk_requests`, `takeUp_requests`).
-/
namespace Dialogue

namespace Engine

variable {e : Engine} {node : Node} {run r : Run} {request : EffectRequest}

/-- The request that a step makes of a run. -/
inductive Asking (e : Engine) (node : Node) (run : Run) : EffectRequest → Prop where
  | vista {config : ActionConfig} (hc : node.config = .action config) :
      Asking e node run ⟨updateVista, e.mode, e.vistaPayload run config⟩
  | integration {config : IntegrationConfig} (hc : node.config = .integration config) :
      Asking e node run ⟨integration, e.mode, e.integrationPayload run config⟩

theorem ask_eq_ok {fault : Option TextFault} {asked : EffectRequest} {visit : Visit} :
    ask fault run asked = .ok visit ↔ fault = none ∧ visit = .asking run asked := by
  cases fault with
  | none => simp [ask, eq_comm]
  | some f => simp [ask]

theorem ask_eq_error {fault : Option TextFault} {asked : EffectRequest} {raised : Raised} :
    ask fault run asked = .error raised ↔
      fault.map (fun f => ⟨run, .unsayable f⟩) = some raised := by
  cases fault with
  | none => simp [ask]
  | some f => simp [ask]

theorem visit_integration {config : IntegrationConfig}
    (hh : Bindings.get? node.type e.handlers = none) (hk : node.kind? = some .integration)
    (hc : node.config = .integration config)
    (hf : e.integrationFault? (run.enter node.id) config = none) :
    e.visit node run = .asking (e.announceIntegration node config (run.enter node.id))
      ⟨integration, e.mode, e.integrationPayload (run.enter node.id) config⟩ := by
  simp only [visit, attempt, hh, hk, visitBuiltin, hc, visitIntegration, hf]
  rfl

theorem visitBuiltin_asking {kind : NodeKind}
    (h : e.visitBuiltin node kind run = .ok (.asking r request)) : Asking e node run request := by
  unfold visitBuiltin at h
  split at h
  case h_6 config hc =>
    unfold visitAction at h
    split at h
    · cases (ask_eq_ok.mp h).2
      exact .vista hc
    · split at h
      · unfold visitAssignment at h
        dsimp only at h
        split at h <;> cases h
      · cases h
  case h_8 config hc =>
    cases (ask_eq_ok.mp h).2
    exact .integration hc
  case h_2 =>
    unfold visitMessage at h
    split at h <;> cases h
  case h_3 | h_4 =>
    unfold visitInput at h
    split at h
    · cases h
    · split at h <;> cases h
  case h_10 =>
    unfold visitEnd at h
    split at h <;> cases h
  all_goals cases h

theorem attempt_asking (h : e.attempt node run = .ok (.asking r request)) :
    Asking e node run request := by
  unfold attempt at h
  split at h
  · unfold visitHandled at h
    dsimp only at h
    split at h <;> cases h
  · split at h
    · exact visitBuiltin_asking h
    · cases h

theorem visit_asking (h : e.visit node run = .asking r request) : Asking e node run request := by
  have hattempt : e.attempt node (run.enter node.id) = .ok (.asking r request) := by
    unfold visit at h
    cases hattempt : e.attempt node (run.enter node.id) with
    | error raised =>
        rw [hattempt] at h
        cases h
    | ok visit =>
        rw [hattempt] at h
        exact congrArg Except.ok h
  -- entering a step leaves the variables as they are
  cases attempt_asking hattempt with
  | vista hc => exact .vista hc
  | integration hc => exact .integration hc

end Engine

/-- What a leg waits for is what a step asks for. -/
def Leg.Requests (e : Engine) (leg : Leg) : Prop :=
  ∀ node request, leg.stop = .awaiting node request → ∃ run, e.Asking node run request

namespace Leg

variable {e : Engine} {leg : Leg}

theorem requests_of_returned (h : leg.stop = .returned) : leg.Requests e := by
  intro node request hstop
  rw [h] at hstop
  cases hstop

theorem Requests.after (h : leg.Requests e) (events : List Event) :
    (leg.after events).Requests e := h

end Leg

namespace Engine

theorem proceed_requests {e : Engine} {walk : Option Node → Run → Leg}
    (hw : ∀ next r, (walk next r).Requests e) (node : Node) (run : Run) (events : List Event)
    (step : Step) : (proceed walk node run events step).Requests e := by
  unfold proceed
  split
  · exact Leg.requests_of_returned rfl
  · split
    · exact Leg.requests_of_returned rfl
    · exact (hw step.next run).after events

theorem endOfFlow_requests (e : Engine) (run : Run) : (endOfFlow run).Requests e := by
  unfold endOfFlow
  split <;> exact Leg.requests_of_returned rfl

theorem walk_requests (e : Engine) (steps : Nat) (next : Option Node) (run : Run) :
    (e.walk steps next run).Requests e := by
  induction steps generalizing next run with
  | zero =>
      cases next with
      | none => exact e.endOfFlow_requests run
      | some node => simp [Leg.Requests, walk]
  | succ steps ih =>
      cases next with
      | none => exact e.endOfFlow_requests run
      | some node =>
          simp only [walk]
          split
          · exact Leg.requests_of_returned rfl
          · cases hvisit : e.visit node run with
            | done r events step => exact proceed_requests ih node r events step
            | asking r request =>
                rintro _ _ ⟨⟩
                exact ⟨run, visit_asking hvisit⟩

theorem continueFrom_requests (e : Engine) (next : Option Node) (run : Run) :
    (e.continueFrom next run).Requests e := by
  unfold continueFrom
  split
  · exact Leg.requests_of_returned rfl
  · exact walk_requests e e.bound next _

theorem takeUp_requests (e : Engine) (node : Node) (request : EffectRequest)
    (outcome : EffectOutcome) (run : Run) :
    (e.takeUp node request outcome run).Requests e :=
  proceed_requests (walk_requests e e.bound) node _ _ _

end Engine

end Dialogue
