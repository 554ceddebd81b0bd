import Dialogue.Json.Basic
import Dialogue.Number.Integer

/-!
# Values that have a text

Not every value can be put into words: an integer of too many digits has no text, and neither have
lists and objects that stand too deep inside one another. Of several faults the first one in the
order of the text is told. The same limits hold for texts that are read.
-/
namespace Dialogue

/-- What keeps a value from having a text. -/
inductive TextFault where
  | longInteger
  | tooDeep
  /-- A double that standard JSON has no text for. -/
  | notFinite
  deriving DecidableEq, Inhabited

/-- The complaint, where `doing` is what went too deep. -/
def TextFault.message (doing : String) : TextFault → String
  | longInteger => Number.untoldIntegerMessage
  | tooDeep => "maximum recursion depth exceeded while " ++ doing
  | notFinite => "Out of range float values are not JSON compliant"

/-- The complaint about a value that is to be shown in a sentence. -/
def TextFault.showing : TextFault → String := message "getting the repr of an object"

/-- The complaint about a value that is to be written as JSON. -/
def TextFault.writing : TextFault → String := message "encoding a JSON object"

namespace Json

/-- The lists and objects that may stand inside one another. -/
def depthLimit : Nat := 980

mutual

/-- The first fault of a value that may open `depth` more lists and objects. Only a `strict` text
takes offence at doubles. -/
def faultWithin? (strict : Bool) : Nat → Json → Option TextFault
  | _, int n => if Number.isLong n then some .longInteger else none
  | _, float x => if strict && !x.isFinite then some .notFinite else none
  | depth, list items =>
    if depth = 0 then some .tooDeep else faultOfItems? strict (depth - 1) items
  | depth, object fields =>
    if depth = 0 then some .tooDeep else faultOfFields? strict (depth - 1) fields
  | _, _ => none

def faultOfItems? (strict : Bool) : Nat → List Json → Option TextFault
  | _, [] => none
  | depth, v :: rest => (faultWithin? strict depth v).or (faultOfItems? strict depth rest)

def faultOfFields? (strict : Bool) : Nat → List (String × Json) → Option TextFault
  | _, [] => none
  | depth, (_, v) :: rest =>
    (faultWithin? strict depth v).or (faultOfFields? strict depth rest)

end

/-- What keeps a value from having a text of its own. -/
def fault? (v : Json) : Option TextFault := v.faultWithin? false depthLimit

def hasText (v : Json) : Bool := v.fault?.isNone

@[simp] theorem hasText_eq_true {v : Json} : v.hasText = true ↔ v.fault? = none := by
  simp [hasText]

@[simp] theorem fault?_null : null.fault? = none := rfl

@[simp] theorem fault?_bool (b : Bool) : (bool b).fault? = none := rfl

@[simp] theorem fault?_str (s : String) : (str s).fault? = none := rfl

@[simp] theorem fault?_float (x : Number.Binary64) : (float x).fault? = none := rfl

@[simp] theorem fault?_int (n : Int) :
    (int n).fault? = if Number.isLong n then some .longInteger else none := rfl

end Json
end Dialogue
