import Dialogue.Bindings
import Dialogue.Number.Binary64

/-!
# JSON values

Objects keep the order of their names, integers have any size, and a number written with a point
or an exponent is a double.
-/
namespace Dialogue

inductive Json where
  | null
  | bool (b : Bool)
  | int (n : Int)
  | float (x : Number.Binary64)
  | str (s : String)
  | list (items : List Json)
  | object (fields : List (String × Json))
  deriving Inhabited

namespace Json

/-- A text or null. -/
def ofOption : Option String → Json
  | some s => .str s
  | none => .null

def ofTexts (texts : List String) : Json := .list (texts.map .str)

/-- The value of a field of an object. -/
def field? (name : String) : Json → Option Json
  | object fields => Bindings.get? name fields
  | _ => none

/-- Whether a value counts as something: not null, false, zero or empty. -/
def isTruthy : Json → Bool
  | null => false
  | bool b => b
  | int n => n != 0
  | float x => !x.isZero
  | str s => s != ""
  | list items => !items.isEmpty
  | object fields => !fields.isEmpty

/-- The name by which messages call the kind of a value. -/
def kindName : Json → String
  | null => "NoneType"
  | bool _ => "bool"
  | int _ => "int"
  | float _ => "float"
  | str _ => "str"
  | list _ => "list"
  | object _ => "dict"

mutual

def decEq : (a b : Json) → Decidable (a = b)
  | null, b => by cases b <;> first | exact isTrue rfl | exact isFalse (by simp)
  | bool x, b => by
    cases b with
    | bool y => exact decidable_of_iff (x = y) (by simp)
    | _ => exact isFalse (by simp)
  | int x, b => by
    cases b with
    | int y => exact decidable_of_iff (x = y) (by simp)
    | _ => exact isFalse (by simp)
  | float x, b => by
    cases b with
    | float y => exact decidable_of_iff (x = y) (by simp)
    | _ => exact isFalse (by simp)
  | str x, b => by
    cases b with
    | str y => exact decidable_of_iff (x = y) (by simp)
    | _ => exact isFalse (by simp)
  | list xs, b =>
    match b with
    | list ys => match decEqItems xs ys with
      | isTrue h => isTrue (by simp [h])
      | isFalse h => isFalse (by simp [h])
    | null | bool _ | int _ | float _ | str _ | object _ => isFalse (by simp)
  | object xs, b =>
    match b with
    | object ys => match decEqFields xs ys with
      | isTrue h => isTrue (by simp [h])
      | isFalse h => isFalse (by simp [h])
    | null | bool _ | int _ | float _ | str _ | list _ => isFalse (by simp)

def decEqItems : (xs ys : List Json) → Decidable (xs = ys)
  | [], [] => isTrue rfl
  | [], _ :: _ => isFalse (by simp)
  | _ :: _, [] => isFalse (by simp)
  | x :: xs, y :: ys =>
    match decEq x y, decEqItems xs ys with
    | isTrue h, isTrue k => isTrue (by simp [h, k])
    | isFalse h, _ => isFalse (by simp [h])
    | _, isFalse k => isFalse (by simp [k])

def decEqFields : (xs ys : List (String × Json)) → Decidable (xs = ys)
  | [], [] => isTrue rfl
  | [], _ :: _ => isFalse (by simp)
  | _ :: _, [] => isFalse (by simp)
  | (n, x) :: xs, (m, y) :: ys =>
    if l : n = m then
      match decEq x y, decEqFields xs ys with
      | isTrue h, isTrue k => isTrue (by simp [l, h, k])
      | isFalse h, _ => isFalse (by simp [h])
      | _, isFalse k => isFalse (by simp [k])
    else isFalse (by simp [l])

end

instance : DecidableEq Json := decEq

end Json
end Dialogue
