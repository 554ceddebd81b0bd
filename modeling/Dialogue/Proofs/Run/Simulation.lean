import Dialogue.Proofs.Run.Policy
import Dialogue.Proofs.Run.Request

/-!
# Simulated effects

Steps ask only for the two built-in effects, and in the mode of their engine (`Asking.regular`). The
built-in gateway answers such a request in the mode `mock` by the request alone, with a success, and
is as it was before (`invoke_builtin`).
-/
namespace Dialogue

/-- A request for one of the effects of steps, in a mode. -/
structure EffectRequest.Regular (mode : Mode) (r : EffectRequest) : Prop where
  mode : r.mode = mode
  effect : r.effect = updateVista ∨ r.effect = integration

/-- What the mock implementation of the effect makes of a request. -/
def EffectRequest.simulated (r : EffectRequest) : EffectResult :=
  if r.effect = updateVista then mockVista r.payload else mockIntegration r.payload

theorem EffectRequest.simulated_success (r : EffectRequest) : r.simulated.success = true := by
  unfold simulated
  split <;> rfl

namespace Gateway

theorem invoke_builtin {r : EffectRequest} (h : r.Regular .mock) (url token : String)
    (t : Http.Transport) :
    (builtin url token t).invoke r = (.ok r.simulated, builtin url token t) := by
  obtain ⟨effect, mode, payload⟩ := r
  obtain ⟨rfl, rfl | rfl⟩ := h <;> rfl

end Gateway

theorem Engine.Asking.regular {e : Engine} {node : Node} {run : Run} {request : EffectRequest}
    (h : e.Asking node run request) : request.Regular e.mode := by
  cases h with
  | vista => exact ⟨rfl, .inl rfl⟩
  | integration => exact ⟨rfl, .inr rfl⟩

end Dialogue
