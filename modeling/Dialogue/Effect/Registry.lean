import Dialogue.Effect.Basic
import Dialogue.Run.Failure
import Dialogue.Text.Blank

/-!
# Registry of effects

Which implementation serves an effect in a mode. A type is registered as its text without the
blanks around it and looked up as it is. Types and modes may be any values but lists and objects,
which cannot be looked up.
-/
namespace Dialogue

/-- Implementations under an effect and a mode, in the order of their first registration. -/
abbrev Registry (α : Type) := List ((String × Json) × α)

namespace Registry

variable {α : Type}

/-- The integer by which a number or a truth value is looked up. -/
def integer? : Json → Option Int
  | .bool b => some (if b then 1 else 0)
  | .int n => some n
  | .float x => x.toInt?
  | _ => none

/-- Whether two values are the same for a lookup: numbers by their values, and no value is the
same as one that is not a number. -/
def sameKey (a b : Json) : Bool :=
  match integer? a, integer? b with
  | some m, some n => m = n
  | _, _ => a = b && a != .float .nan

def put (type : String) (mode : Json) (impl : α) : Registry α → Registry α
  | [] => [((type, mode), impl)]
  | (k, old) :: rest =>
    if k.1 = type && sameKey k.2 mode then (k, impl) :: rest
    else (k, old) :: put type mode impl rest

def get? (type : String) (mode : Json) (r : Registry α) : Option α :=
  (r.find? fun e => e.1.1 = type && sameKey e.1.2 mode).map Prod.snd

/-- A value that can be looked up. -/
def asKey : Json → Except Failure Json
  | .list items => .error (.unhashable (Json.list items).kindName)
  | .object fields => .error (.unhashable (Json.object fields).kindName)
  | v => .ok v

def register (effect mode : Json) (impl : α) (r : Registry α) : Except Failure (Registry α) := do
  let type := Text.trim (← effect.said)
  if type = "" then throw .blankEffectType
  let mode ← asKey mode
  pure (put type mode impl r)

/-- What is registered for an effect, if anything is. Only texts are registered. -/
def resolve (effect mode : Json) (r : Registry α) : Except Failure (Option α) := do
  let effect ← asKey effect
  let mode ← asKey mode
  match effect with
  | .str type => pure (get? type mode r)
  | _ => pure none

def keys (r : Registry α) : List (String × Json) := r.map Prod.fst

end Registry
end Dialogue
