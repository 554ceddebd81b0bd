import Dialogue.Token
import Dialogue.Text.Blank
import Dialogue.Json.Display
import Dialogue.Json.Limits

/-!
# Variables of a run

The values gathered during a run, in the order in which their names first came up, and the
replacement of tokens by them. A token without a value stays as it is, and what replaces a token
is not searched for tokens again. A text cannot be completed by a value that has no text.
-/
namespace Dialogue

abbrev Variables := List (String × Json)

namespace Variables

def contactKey : String := "nome"

def phoneKey : String := "telefone"

/-- The names whose tokens stand for the contact. -/
def contactKeys : List String := ["nome", "name"]

/-- The two values every run begins with. -/
def seed (contactName contactPhone : Json) (vars : Variables) : Variables :=
  Bindings.put phoneKey contactPhone (Bindings.put contactKey contactName vars)

/-- Binds a name without the blanks around it; a blank name is refused. -/
def set? (name : String) (value : Json) (vars : Variables) : Option Variables :=
  let key := Text.trim name
  if key = "" then none else some (Bindings.put key value vars)

/-- Whether a name has no value, or one that leaves a blank in a greeting. -/
def isVacant (name : String) (vars : Variables) : Bool :=
  match Bindings.get? name vars with
  | none => true
  | some .null => true
  | some (.str s) => s == ""
  | some _ => false

/-- Whether a name stands for the contact: it is meant so and not overridden. -/
def namesContact (vars : Variables) (contact : String) (name : String) : Bool :=
  contactKeys.contains name && isVacant name vars && contact != ""

/-- The text for a name: the contact's name where that is meant, else the value. -/
def resolve? (vars : Variables) (contact : String) (name : String) : Option String :=
  if namesContact vars contact name then some contact
  else (Bindings.get? name vars).map Json.spoken

/-- What a piece of a text becomes. -/
def render (vars : Variables) (contact : String) : Piece → List Char
  | .plain c => [c]
  | .token name =>
    match resolve? vars contact (String.ofList name) with
    | some s => s.toList
    | none => (Piece.token name).source

def interpolate (vars : Variables) (contact : String) (text : String) : String :=
  String.ofList ((pieces text.toList).flatMap (render vars contact))

/-- What keeps a piece of a text from being replaced. -/
def pieceFault? (vars : Variables) (contact : String) : Piece → Option TextFault
  | .plain _ => none
  | .token name =>
    if namesContact vars contact (String.ofList name) then none
    else (Bindings.get? (String.ofList name) vars).bind Json.fault?

/-- What keeps a text from being completed. -/
def fault? (vars : Variables) (contact : String) (text : String) : Option TextFault :=
  (pieces text.toList).findSome? (pieceFault? vars contact)

/-- A text with its tokens replaced, if their values have texts. -/
def complete (vars : Variables) (contact : String) (text : String) : Except TextFault String :=
  match fault? vars contact text with
  | some f => .error f
  | none => .ok (interpolate vars contact text)

end Variables
end Dialogue
