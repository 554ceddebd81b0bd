import Dialogue.Proofs.Run.Rehearsal
import Dialogue.Proofs.Run.Wording

/-!
# Steps that demand an effect

An update of the CRM and a call of an integration demand one effect each time they are visited, made
from the configuration and the variables alone, and no other step demands any. They ask for it
unless a text of the payload cannot be made (`attempt_eq_asking_iff`).
-/
namespace Dialogue.Engine

variable {e : Engine} {node : Node} {run r s : Run} {request : EffectRequest}

/-- The effect that a step demands of a run, if it demands one. -/
def demand? (e : Engine) (node : Node) (run : Run) : Option EffectRequest :=
  match node.kind?, node.config with
  | some .action, .action c =>
    if c.actionType = updateVista then some ⟨updateVista, e.mode, e.vistaPayload run c⟩ else none
  | some .integration, .integration c =>
    some ⟨integration, e.mode, e.integrationPayload run c⟩
  | _, _ => none

theorem isSome_demand? (e : Engine) (node : Node) (run : Run) :
    (e.demand? node run).isSome = node.callsOut := by
  unfold demand?
  split
  · rename_i c hk hc
    by_cases hu : c.actionType = updateVista <;> simp [Node.callsOut, hk, hc, hu]
  · rename_i c hk hc
    simp [Node.callsOut, hk, hc]
  · rename_i hv hi
    unfold Node.callsOut
    split
    · exact absurd ‹_› (hv _ ‹_›)
    · exact absurd ‹_› (hi _ ‹_›)
    · rfl

private theorem visitMessage_ne_asking {c : MessageConfig} :
    ¬ ∃ r, e.visitMessage node c run = .ok (.asking r request) := by
  rintro ⟨r, h⟩
  unfold visitMessage at h
  split at h <;> cases h

private theorem visitInput_ne_asking {fields : InputFields} :
    ¬ ∃ r, e.visitInput node fields run = .ok (.asking r request) := by
  rintro ⟨r, h⟩
  unfold visitInput at h
  split at h
  · cases h
  · split at h <;> cases h

private theorem visitEnd_ne_asking {c : EndConfig} :
    ¬ ∃ r, e.visitEnd node c run = .ok (.asking r request) := by
  rintro ⟨r, h⟩
  unfold visitEnd at h
  split at h <;> cases h

private theorem exists_ask_iff {fault : Option TextFault} {asked : EffectRequest} :
    (∃ r, ask fault run asked = .ok (.asking r request)) ↔ asked = request ∧ fault = none := by
  simp only [ask_eq_ok, Visit.asking.injEq]
  constructor
  · rintro ⟨r, hnone, -, rfl⟩
    exact ⟨rfl, hnone⟩
  · rintro ⟨rfl, hnone⟩
    exact ⟨run, hnone, rfl, rfl⟩

private theorem visitAction_eq_asking_iff {c : ActionConfig} (hk : node.kind? = some .action)
    (hc : node.config = .action c) :
    (∃ r, e.visitAction node c run = .ok (.asking r request)) ↔
      e.demand? node run = some request ∧ e.wordless? node run = none := by
  unfold visitAction demand? wordless?
  rw [hk, hc]
  dsimp only
  split
  · rw [exists_ask_iff, Option.some.injEq, Option.map_eq_none_iff]
  · have hassign : ¬ ∃ r, e.visitAssignment node c run = .ok (.asking r request) := by
      rintro ⟨r, h⟩
      unfold visitAssignment at h
      dsimp only at h
      split at h <;> cases h
    split
    · simpa using hassign
    · simp [Visit.finished]

private theorem visitIntegration_eq_asking_iff {c : IntegrationConfig}
    (hk : node.kind? = some .integration) (hc : node.config = .integration c) :
    (∃ r, e.visitIntegration node c run = .ok (.asking r request)) ↔
      e.demand? node run = some request ∧ e.wordless? node run = none := by
  unfold visitIntegration demand? wordless?
  rw [hk, hc, exists_ask_iff, Option.some.injEq, Option.map_eq_none_iff]

private theorem visitBuiltin_eq_asking_iff {kind : NodeKind} (hk : node.kind? = some kind) :
    (∃ r, e.visitBuiltin node kind run = .ok (.asking r request)) ↔
      e.demand? node run = some request ∧ e.wordless? node run = none := by
  unfold visitBuiltin
  split
  case h_2 => simpa [demand?, hk] using visitMessage_ne_asking
  case h_3 | h_4 => simpa [demand?, hk] using visitInput_ne_asking
  case h_6 c hc => exact visitAction_eq_asking_iff hk hc
  case h_8 c hc => exact visitIntegration_eq_asking_iff hk hc
  case h_10 => simpa [demand?, hk] using visitEnd_ne_asking
  case h_11 hv _ hi _ _ =>
    -- a configuration that its kind cannot do anything by
    have hnone : e.demand? node run = none := by
      unfold demand?
      rw [hk]
      split
      · exact (hv _ (Option.some.inj ‹_›) ‹_›).elim
      · exact (hi _ (Option.some.inj ‹_›) ‹_›).elim
      · rfl
    simp [hnone]
  all_goals simp [demand?, hk, visitStart, visitCondition, visitEscalation, visitDelay,
    Visit.finished]

/-- Where no handler is for a step, it asks for just the effect that it demands, if it can put it
into words. -/
theorem attempt_eq_asking_iff (hh : Bindings.get? node.type e.handlers = none) :
    (∃ r, e.attempt node run = .ok (.asking r request)) ↔
      e.demand? node run = some request ∧ e.wordless? node run = none := by
  simp only [attempt, hh]
  cases hk : node.kind? with
  | some kind => exact visitBuiltin_eq_asking_iff hk
  | none => simp [demand?, hk, visitUnknown, Visit.finished]

theorem callsOut_iff (hh : Bindings.get? node.type e.handlers = none) (run : Run) :
    (∃ r request, e.attempt node run = .ok (.asking r request)) ↔
      node.callsOut = true ∧ e.wordless? node run = none := by
  rw [exists_comm]
  simp only [attempt_eq_asking_iff hh, exists_and_right]
  rw [← isSome_demand? e node run, Option.isSome_iff_exists]

end Dialogue.Engine
