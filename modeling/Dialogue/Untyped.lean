import Dialogue.Effect.Registry
import Dialogue.Flow.Branching
import Dialogue.Variables

/-!
# Values where texts are meant

A host may hand over any value where a text is meant. Where a value that counts as nothing is as
good as no text it is taken as that; any other value that is no text is refused by what was to be
done with it.
-/
namespace Dialogue.Untyped

/-- A text, of which `part` is used. -/
def text (part : String) : Json → Except Failure String
  | .str s => .ok s
  | v => .error (.wrongConfig v.kindName part)

/-- A text to search in. -/
def searched : Json → Except Failure String
  | .str s => .ok s
  | v => if v.isTruthy then .error (.unsearchable v.kindName) else .ok ""

def hasToken (v : Json) : Except Failure Bool := Dialogue.hasToken <$> searched v

/-- A text with its tokens replaced; nothing stays what it is. -/
def interpolate (vars : Variables) (contact : String) (v : Json) : Except Failure Json :=
  if v.isTruthy then do
    let text ← searched v
    .str <$> (vars.complete contact text).mapError .unsayable
  else .ok v

def coerce (v : Json) (kind : AnswerKind) : Except Failure Json :=
  (Answer.coerce · kind) <$> text "strip" v

def resolveBranch (v : Json) (branches : List Branch) : Except Failure (Option Nat) :=
  if v.isTruthy then (Dialogue.resolveBranch · branches) <$> text "lower" v else .ok none

/-- The value of a name, which may be any value that can be looked up. -/
def get? (vars : Variables) (name : Json) : Except Failure (Option Json) := do
  match ← Registry.asKey name with
  | .str s => pure (Bindings.get? s vars)
  | _ => pure none

end Dialogue.Untyped
