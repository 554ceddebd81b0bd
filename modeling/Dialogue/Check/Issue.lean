import Dialogue.Calendar.Date
import Dialogue.Json.Display
import Dialogue.Json.Limits

/-!
# Issues with given data

What is wrong with a value, and where it stands. Checks of several fields report the issues of all
of them.
-/
namespace Dialogue.Check

/-- The place of a value inside another: the name of a field or the number of an item. -/
inductive Step where
  | key (name : String)
  | item (index : Nat)
  deriving DecidableEq

/-- Rules that tie values together or go beyond their kind. -/
inductive Breach where
  | blankVariable
  | sameBranchIds
  | emptyNodeId
  | sameNodeIds
  | unknownSource (id : String)
  | unknownTarget (id : String)
  | severalStarts (ids : List String)
  | startHasIncoming
  /-- The type of a step is a value without a text. -/
  | unsayable (f : TextFault)
  deriving DecidableEq

def Breach.message : Breach → String
  | blankVariable => "variableName must not be blank"
  | sameBranchIds => "Condition branch ids must be unique"
  | emptyNodeId => "Flow nodes must use non-empty ids"
  | sameNodeIds => "Flow node ids must be unique"
  | unknownSource id => s!"Edge source \x27{id}\x27 not found in nodes"
  | unknownTarget id => s!"Edge target \x27{id}\x27 not found in nodes"
  | severalStarts ids =>
    "Flow must declare a single start node, found: " ++ (Json.list (ids.map .str)).quoted
  | startHasIncoming => "Start node must not have incoming edges"
  | unsayable f => f.showing

inductive Fault where
  | missing
  | notText
  | emptyText
  | notNumber
  | unreadableNumber
  | negative
  | notTruth
  | unreadableTruth
  | notInteger
  | notList
  | notRecord
  | notListed (allowed : List String)
  | notModel (model : String)
  | notTime
  | unreadableTime (c : Calendar.Complaint)
  | unreadableDate (c : Calendar.Complaint)
  | breach (b : Breach)
  deriving DecidableEq

namespace Fault

/-- The short name of the kind of fault. -/
def code : Fault → String
  | missing => "missing"
  | notText => "string_type"
  | emptyText => "string_too_short"
  | notNumber => "float_type"
  | unreadableNumber => "float_parsing"
  | negative => "greater_than_equal"
  | notTruth => "bool_type"
  | unreadableTruth => "bool_parsing"
  | notInteger => "int_type"
  | notList => "list_type"
  | notRecord => "dict_type"
  | notListed _ => "literal_error"
  | notModel _ => "model_type"
  | notTime => "datetime_type"
  | unreadableTime _ => "datetime_parsing"
  | unreadableDate _ => "datetime_from_date_parsing"
  | breach _ => "value_error"

/-- Texts in single quotes with commas, and an "or" before the last. -/
def choice : List String → String
  | [] => ""
  | [a] => s!"\x27{a}\x27"
  | [a, b] => s!"\x27{a}\x27 or \x27{b}\x27"
  | a :: rest => s!"\x27{a}\x27, " ++ choice rest

def message : Fault → String
  | missing => "Field required"
  | notText => "Input should be a valid string"
  | emptyText => "String should have at least 1 character"
  | notNumber => "Input should be a valid number"
  | unreadableNumber => "Input should be a valid number, unable to parse string as a number"
  | negative => "Input should be greater than or equal to 0"
  | notTruth => "Input should be a valid boolean"
  | unreadableTruth => "Input should be a valid boolean, unable to interpret input"
  | notInteger => "Input should be a valid integer"
  | notList => "Input should be a valid list"
  | notRecord => "Input should be a valid dictionary"
  | notListed allowed => "Input should be " ++ choice allowed
  | notModel model => "Input should be a valid dictionary or instance of " ++ model
  | notTime => "Input should be a valid datetime"
  | unreadableTime c => "Input should be a valid datetime, " ++ c.message
  | unreadableDate c => "Input should be a valid datetime or date, " ++ c.message
  | breach b => "Value error, " ++ b.message

end Fault

/-- A value as reports show it: its text, and the name of its kind. -/
structure Given where
  text : String
  kind : String
  deriving DecidableEq

/-- What stands for a value without a text. -/
def Given.untold (kind : String) : Given := ⟨s!"<unprintable {kind} object>", kind⟩

def Given.ofJson (v : Json) : Given :=
  if v.hasText then ⟨v.quoted, v.kindName⟩ else .untold v.kindName

structure Issue where
  fault : Fault
  path : List Step
  /-- The value at fault. -/
  given : Given
  deriving DecidableEq

/-- How many issues a value that was to become a `model` has. -/
def summary (model : String) (issues : List Issue) : String :=
  let ending := if issues.length = 1 then "" else "s"
  s!"{issues.length} validation error{ending} for {model}"

/-! ## Reports -/

/-- The first characters that fit into `budget` bytes. -/
def fitting : Nat → List Char → List Char
  | _, [] => []
  | budget, c :: rest =>
    if c.utf8Size ≤ budget then c :: fitting (budget - c.utf8Size) rest else []

/-- A text of more than fifty bytes shortened to its first and its last ones. -/
def shortened (s : String) : String :=
  if s.utf8ByteSize ≤ 50 then s
  else
    let front := fitting 25 s.toList
    let back := (fitting 24 s.toList.reverse).reverse
    String.ofList front ++ "..." ++ String.ofList back

/-- A name with a point in it stands between backticks. -/
def Step.text : Step → String
  | key name => if name.contains '.' then s!"\x60{name}\x60" else name
  | item index => toString index

/-- The place of an issue on a line of its own; none for the whole value. -/
def placeLine (path : List Step) : String :=
  if path.isEmpty then "" else ".".intercalate (path.map Step.text) ++ "\n"

def Issue.report (i : Issue) : String :=
  placeLine i.path ++ s!"  {i.fault.message} [type={i.fault.code}, input_value="
    ++ shortened i.given.text ++ s!", input_type={i.given.kind}]\n"
    ++ s!"    For further information visit https://errors.pydantic.dev/2.14/v/{i.fault.code}"

/-- Everything that is wrong with a value that was to become a `model`. -/
def report (model : String) (issues : List Issue) : String :=
  "\n".intercalate (summary model issues :: issues.map Issue.report)

end Dialogue.Check

namespace Dialogue

/-- A value that passed its checks, or every issue that was found. -/
abbrev Checked (α : Type) := Except (List Check.Issue) α

namespace Checked
open Check

variable {α β : Type}

/-- Refuses a value, here given as reports show it. -/
def refuse (f : Fault) (given : Given) : Checked α := .error [⟨f, [], given⟩]

def fault (f : Fault) (v : Json) : Checked α := refuse f (.ofJson v)

/-- Moves the issues of a value to its place in another one. -/
def under (step : Step) : Checked α → Checked α
  | .ok a => .ok a
  | .error issues => .error (issues.map fun i => { i with path := step :: i.path })

/-- Applies a checked function to a checked value; the issues of both are kept. -/
def both : Checked (α → β) → Checked α → Checked β
  | .ok f, .ok a => .ok (f a)
  | .ok _, .error e => .error e
  | .error e, .ok _ => .error e
  | .error e, .error e' => .error (e ++ e')

/-- Checks every value, in order. -/
def all : List (Checked α) → Checked (List α)
  | [] => .ok []
  | c :: rest => both (both (.ok List.cons) c) (all rest)

theorem both_eq_ok {f : Checked (α → β)} {a : Checked α} {b : β} :
    both f a = .ok b ↔ ∃ g x, f = .ok g ∧ a = .ok x ∧ g x = b := by
  cases f <;> cases a <;> simp [both]

end Checked
end Dialogue
