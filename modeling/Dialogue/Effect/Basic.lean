import Dialogue.Json.Display
import Dialogue.Settings

/-!
# Effects

What a run asks of the outside, and what it is told. A run never learns how an effect was carried
out, only its result.
-/
namespace Dialogue

/-- Fields of an object. -/
abbrev Payload := List (String × Json)

/-- A request for an effect of a type. -/
structure EffectRequest where
  effect : String
  mode : Mode
  payload : Payload
  deriving DecidableEq, Inhabited

structure EffectResult where
  success : Bool
  data : Json := .null
  failure : Option String := none
  deriving DecidableEq, Inhabited

namespace EffectResult
open Check

def check : Json → Checked EffectResult :=
  model "EffectResult" fun fs =>
    EffectResult.mk <$> required ["success"] truth fs
      |>.both (field ["data"] anything .null fs)
      |>.both (field ["error"] (optional text) none fs)

def failed (message : String) : EffectResult := ⟨false, .null, some message⟩

end EffectResult

/-- The two effects that steps of a flow ask for. -/
def updateVista : String := "update_vista"

def integration : String := "integration"

/-- The value of a field of a payload, null where it is not given. -/
def Payload.get (name : String) (p : Payload) : Json := (Bindings.get? name p).getD .null

end Dialogue
