import Dialogue.Proofs.Run.Trail

/-!
# The policies for effects that fail

An engine looks at its policy only when an effect has failed: under either policy a walk is the same
(`walk_under`), and so is what follows an effect that succeeded (`takeUp_under`). When an effect has
failed, the step says and notes the same under both, and then the run goes on or fails
(`conclude_failed`).
-/
namespace Dialogue

open Run (Remarked Lasting)

/-- What a run that a failed effect halts remembers. -/
def EffectResult.reason (result : EffectResult) : String :=
  if result.failure.getD "" = "" then "Falha em efeito externo" else result.failure.getD ""

namespace Engine

/-- What engines have in common that carry out every step alike. -/
structure Agrees (e e' : Engine) : Prop where
  flow : e'.flow = e.flow
  handlers : e'.handlers = e.handlers
  mode : e'.mode = e.mode
  contactName : e'.settings.contactName = e.settings.contactName

variable {e e' : Engine} {node : Node} {run : Run}

namespace Agrees

theorem onward (h : e.Agrees e') : e'.onward = e.onward := by
  funext node
  simp only [Engine.onward, h.flow]

theorem fill (h : e.Agrees e') : e'.fill = e.fill := by
  funext run text
  simp only [Engine.fill, h.contactName]

theorem fillField (h : e.Agrees e') : e'.fillField = e.fillField := by
  funext run v
  cases v <;> simp only [Engine.fillField, h.fill]

theorem fillOption (h : e.Agrees e') : e'.fillOption = e.fillOption := by
  funext run text
  cases text <;> simp only [Engine.fillOption, h.fill]

theorem fillFault? (h : e.Agrees e') : e'.fillFault? = e.fillFault? := by
  funext run text
  simp only [Engine.fillFault?, h.contactName]

theorem filled (h : e.Agrees e') : e'.filled = e.filled := by
  funext run text
  simp only [Engine.filled, h.contactName]

theorem fieldFault? (h : e.Agrees e') : e'.fieldFault? = e.fieldFault? := by
  funext run v
  cases v <;> simp only [Engine.fieldFault?, h.fillFault?]

theorem prompt (h : e.Agrees e') : e'.prompt = e.prompt := by
  funext node run v
  have hsay : e'.sayFilled node run = e.sayFilled node run := by
    funext text
    simp only [sayFilled, h.filled]
  simp only [Engine.prompt, hsay]

theorem visit (h : e.Agrees e') (node : Node) (run : Run) :
    e'.visit node run = e.visit node run := by
  simp only [Engine.visit, attempt, visitHandled, visitBuiltin, visitStart, visitMessage,
    visitInput, visitAction, visitAssignment, visitEscalation, visitIntegration, visitDelay,
    visitEnd, visitUnknown, vistaPayload, vistaFault?, integrationPayload, integrationFault?,
    announceVista, announceIntegration, h.flow, h.handlers, h.mode, h.onward, h.fillField,
    h.fillOption, h.fillFault?, h.filled, h.fieldFault?, h.prompt]

theorem walk (h : e.Agrees e') (steps : Nat) : e'.walk steps = e.walk steps := by
  induction steps with
  | zero =>
      funext next run
      cases next <;> rfl
  | succ steps ih =>
      funext next run
      cases next with
      | none => rfl
      | some node => simp only [Engine.walk, ih, h.visit]

theorem stages (h : e.Agrees e') (steps : Nat) : e'.stages steps = e.stages steps := by
  induction steps with
  | zero =>
      funext next run
      cases next <;> rfl
  | succ steps ih =>
      funext next run
      cases next with
      | none => rfl
      | some node => simp only [Engine.stages, ih, h.visit]

end Agrees

/-- The engine with a policy for effects that fail. -/
def under (e : Engine) (policy : FailurePolicy) : Engine :=
  { e with settings := { e.settings with failurePolicy := policy } }

theorem agrees_under (e : Engine) (policy : FailurePolicy) : e.Agrees (e.under policy) :=
  ⟨rfl, rfl, rfl, rfl⟩

theorem walk_under (e : Engine) (policy : FailurePolicy) (steps : Nat) :
    (e.under policy).walk steps = e.walk steps := (e.agrees_under policy).walk steps

theorem continueFrom_under (e : Engine) (policy : FailurePolicy) (next : Option Node) (run : Run) :
    (e.under policy).continueFrom next run = e.continueFrom next run := by
  unfold continueFrom
  rw [walk_under]
  rfl

theorem conclude_under (e : Engine) (policy : FailurePolicy) {result : EffectResult}
    (hs : result.success = true) (node : Node) (request : EffectRequest) (run : Run) :
    (e.under policy).conclude node request (.ok result) run =
      e.conclude node request (.ok result) run := by
  have hagrees := e.agrees_under policy
  simp only [conclude, serve, concludeVista, concludeIntegration, hs, if_true, hagrees.mode,
    hagrees.onward]

theorem takeUp_under (e : Engine) (policy : FailurePolicy) {result : EffectResult}
    (hs : result.success = true) (node : Node) (request : EffectRequest) (run : Run) :
    (e.under policy).takeUp node request (.ok result) run =
      e.takeUp node request (.ok result) run := by
  unfold takeUp
  rw [conclude_under e policy hs, walk_under]
  rfl

/-- What a step whose effect failed says and notes under either policy, before the run goes on or
fails. -/
theorem conclude_failed (e : Engine) (hs : node.SeeksEffect) {result : EffectResult}
    (hf : result.success = false) (request : EffectRequest) (run : Run) :
    ∃ r, Remarked node false run r ∧
      (e.under .proceed).conclude node request (.ok result) run =
        (r, [node.processed (e.onward node)], e.onward node) ∧
      (e.under .halt).conclude node request (.ok result) run =
        (r.fail result.reason, [node.processed {}], {}) := by
  rcases hs with ⟨c, hc⟩ | ⟨c, hc⟩
  · refine ⟨_, (Remarked.note (run.say .system s!"Erro Vista: {failureText result}" node.id) node
      "Erro Vista" false (.object c.vistaFields) (failureOutput result)).after_say, ?_, ?_⟩
    · simp only [conclude, serve, hc, concludeVista, hf]
      rfl
    · simp only [conclude, serve, hc, concludeVista, hf]
      rfl
  · refine ⟨_, (Remarked.note (run.say .system
      s!"Erro na integração {c.integrationType}: {failureText result}" node.id) node
      s!"Erro na integração: {c.integrationType}" false (.object request.payload)
      (failureOutput result)).after_say, ?_, ?_⟩
    · simp only [conclude, serve, hc, concludeIntegration, hf]
      rfl
    · simp only [conclude, serve, hc, concludeIntegration, hf]
      rfl

/-- Taken up with an effect that failed, a run has failed under one policy; under the other it goes
on from what it would have been. -/
theorem takeUp_failed (e : Engine) (hs : node.SeeksEffect) {result : EffectResult}
    (hf : result.success = false) (request : EffectRequest) (run : Run) :
    ∃ r events, Remarked node false run r ∧
      (e.under .halt).takeUp node request (.ok result) run =
        .returned (r.fail result.reason) events ∧
      ∀ R, Lasting R → e.Keeping R →
        R r ((e.under .proceed).takeUp node request (.ok result) run).run := by
  obtain ⟨r, hr, hproceed, hhalt⟩ := e.conclude_failed hs hf request run
  refine ⟨r, [node.processed {}] ++ (r.fail result.reason).terminalEvents, hr, ?_, ?_⟩
  · rw [takeUp, hhalt]
    rfl
  · intro R hR hk
    rw [takeUp, hproceed, walk_under]
    exact (proceed_keeps hR (walk_keeps hR hk _) node r _ _).run

/-- A result that a step is passed with: no failure that halts the run, and one that can be
told. -/
structure Passes (e : Engine) (node : Node) (result : EffectResult) : Prop where
  goes : result.success = true ∨ e.settings.failurePolicy = .proceed
  told : e.obstacle? node (.ok result) = none

theorem exists_takeUp_eq (e : Engine) (hseeks : node.SeeksEffect) {result : EffectResult}
    (hpass : e.Passes node result) (request : EffectRequest) (run : Run) :
    ∃ r, Remarked node result.success run r ∧
      e.takeUp node request (.ok result) run =
        proceed (e.walk e.bound) node r [node.processed (e.onward node)] (e.onward node) := by
  have hserved := conclude_served e hseeks request (.ok result) run
  unfold takeUp
  generalize e.conclude node request (.ok result) run = left at hserved ⊢
  cases hserved with
  | onward h => exact ⟨_, h, rfl⟩
  | breaks ho =>
      rw [hpass.told] at ho
      cases ho
  | halts h hf hreason =>
      rcases hpass.goes with hsuccess | hproceeds
      · rw [hf] at hsuccess
        cases hsuccess
      · simp [haltsOn, hproceeds] at hreason

end Engine
end Dialogue
