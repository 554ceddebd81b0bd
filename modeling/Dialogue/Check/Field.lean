import Dialogue.Check.Issue
import Dialogue.Number.Reading

/-!
# Checks of single values and of fields

A text is never made from anything else. Numbers are also read from texts and truth values, and
truth values from the usual words and from zero and one. A field may have several names, and the
first of them that is given counts.
-/
namespace Dialogue.Check
open Checked

abbrev Fields := List (String × Json)

def text : Json → Checked String
  | .str s => .ok s
  | v => fault .notText v

def nonempty (v : Json) : Checked String := do
  let s ← text v
  if s = "" then fault .emptyText v else pure s

/-- A value that may also be null. -/
def optional {α : Type} (check : Json → Checked α) : Json → Checked (Option α)
  | .null => .ok none
  | v => some <$> check v

def anything (v : Json) : Checked Json := .ok v

def number : Json → Checked Number.Binary64
  | .float x => .ok x
  | .bool b => .ok (.ofInt (if b then 1 else 0))
  | .int n => match Number.Binary64.ofInt? n with
    | some x => .ok x
    | none => fault .notNumber (.int n)
  | .str s => match Number.lenient? s with
    | some x => .ok x
    | none => fault .unreadableNumber (.str s)
  | v => fault .notNumber v

def nonnegative (v : Json) : Checked Number.Binary64 := do
  let x ← number v
  if x.isNonneg then pure x else fault .negative v

def trueWords : List String := ["true", "t", "yes", "y", "on", "1"]

def falseWords : List String := ["false", "f", "no", "n", "off", "0"]

/-- The integers a truth value can stand for lie within 64 bits; a larger one is no truth value
at all. -/
def isSmall (n : Int) : Bool := -(Nat.pow 2 63 : Nat) ≤ n && n < (Nat.pow 2 63 : Nat)

/-- The truth value that `n` stands for, where `n` is the whole part of `v`. -/
def truthOfInt (v : Json) (n : Int) : Checked Bool :=
  if n = 0 then .ok false
  else if n = 1 then .ok true
  else if isSmall n then fault .unreadableTruth v
  else fault .notTruth v

def truth (v : Json) : Checked Bool :=
  match v with
  | .bool b => .ok b
  | .int n => truthOfInt v n
  | .float x => match x.toInt? with
    | some n => truthOfInt v n
    | none => fault .notTruth v
  | .str s =>
    let word := s.map Char.toLower
    if trueWords.contains word then .ok true
    else if falseWords.contains word then .ok false
    else fault .unreadableTruth v
  | _ => fault .notTruth v

def oneOf {α : Type} (name : α → String) (values : List α) : Json → Checked α
  | .str s => match values.find? (name · = s) with
    | some a => .ok a
    | none => fault (.notListed (values.map name)) (.str s)
  | v => fault (.notListed (values.map name)) v

def listOf {α : Type} (check : Json → Checked α) : Json → Checked (List α)
  | .list items => all (items.mapIdx fun i v => (check v).under (.item i))
  | v => fault .notList v

def record : Json → Checked Fields
  | .object fields => .ok fields
  | v => fault .notRecord v

def recordOf {α : Type} (check : Json → Checked α) : Json → Checked (List (String × α))
  | .object fields => all (fields.map fun f => ((f.1, ·) <$> check f.2).under (.key f.1))
  | v => fault .notRecord v

/-- The fields of an object that is to become a `model`. -/
def model {α : Type} (name : String) (check : Fields → Checked α) : Json → Checked α
  | .object fields => check fields
  | v => fault (.notModel name) v

/-- The first of the names that is given, with its value. -/
def pick (names : List String) (fields : Fields) : Option (String × Json) :=
  names.findSome? fun n => (Bindings.get? n fields).map (n, ·)

/-- A field that must be given. The fault of one that is not is that of the whole value. -/
def requiredIn {α : Type} (whole : Given) (names : List String) (check : Json → Checked α)
    (fields : Fields) : Checked α :=
  match pick names fields with
  | some (n, v) => (check v).under (.key n)
  | none => (refuse .missing whole).under (.key (names.headD ""))

def required {α : Type} (names : List String) (check : Json → Checked α) (fields : Fields) :
    Checked α :=
  requiredIn (.ofJson (.object fields)) names check fields

/-- A field with a value for when it is not given. -/
def field {α : Type} (names : List String) (check : Json → Checked α) (default : α)
    (fields : Fields) : Checked α :=
  match pick names fields with
  | some (n, v) => (check v).under (.key n)
  | none => .ok default

end Dialogue.Check
