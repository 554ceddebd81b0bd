import Dialogue.Json.Display
import Dialogue.Number.Reading
import Dialogue.Text.LowerCase
import Dialogue.Text.Occurs

/-!
# Answers

What an input step makes of a free text: a number, an amount of money, a yes or no, an e-mail
address, the digits of a phone number, or the text itself.
-/
namespace Dialogue

/-- What an input step asks for. A name outside the list is kept, and its answers are texts. -/
inductive AnswerKind where
  | text | number | currency | yesNo | email | phone
  | other (name : String)
  deriving DecidableEq, Inhabited

namespace AnswerKind

def name : AnswerKind → String
  | text => "text"
  | number => "number"
  | currency => "currency"
  | yesNo => "yes_no"
  | email => "email"
  | phone => "phone"
  | other n => n

/-- The kinds a flow may ask for. -/
def all : List AnswerKind := [text, number, currency, yesNo, email, phone]

def ofName (n : String) : AnswerKind := (all.find? (·.name = n)).getD (other n)

/-- The kind that a value names; what is no text names none of the list. -/
def ofValue : Json → AnswerKind
  | .str n => ofName n
  | v => other v.display

end AnswerKind

namespace Answer
open Number

/-- The digits, points and commas of a text. -/
def amountChars (cs : List Char) : List Char :=
  cs.filter fun c => Text.isDigit c || c == '.' || c == ','

/-- Turns the first comma into a point. -/
def commaToPoint : List Char → List Char
  | [] => []
  | c :: rest => if c = ',' then '.' :: rest else c :: commaToPoint rest

def readNumber (cs : List Char) : Binary64 :=
  (leading? (commaToPoint (amountChars cs))).getD .zero

/-- One to three digits, a point and three digits: a number of thousands. -/
def isThousands (cs : List Char) : Bool :=
  let whole := cs.takeWhile Text.isDigit
  let rest := cs.drop whole.length
  1 ≤ whole.length && whole.length ≤ 3 && rest.head? == some '.' &&
    rest.tail.length == 3 && rest.tail.all Text.isDigit

/-- The digits of an amount with a point before its fraction. A comma marks the fraction; without
one, points that can only separate thousands go. -/
def normalAmount (cs : List Char) : List Char :=
  if cs.contains ',' then commaToPoint (cs.filter (· ≠ '.'))
  else if 1 < cs.count '.' || isThousands cs then cs.filter (· ≠ '.')
  else cs

/-- What the words beside an amount multiply it by. -/
def magnitude (text : String) : Nat :=
  let lowered := (Text.lower text).toList
  if Text.occurs "milh".toList lowered then 1000000
  else if Text.occurs "mil".toList lowered then 1000
  else 1

/-- An amount of money; a text without a number stays a text. -/
def readCurrency (text : String) : Json :=
  match leading? (normalAmount (amountChars text.toList)) with
  | none => .str text
  | some x => .float (if magnitude text = 1 then x else x.scale (magnitude text))

/-- The letters that stand for a letter of a yes, whatever their case. -/
def sameLetter (c d : Char) : Bool :=
  c == d || c == d.toUpper || (d == 's' && c == 'ſ') || (d == 'i' && (c == 'İ' || c == 'ı'))

def yesWords : List String := ["sim", "s", "yes", "y", "1"]

def isYes (cs : List Char) : Bool :=
  yesWords.any fun w =>
    cs.length == w.toList.length && (cs.zip w.toList).all fun p => sameLetter p.1 p.2

/-- The characters an address consists of beside its sign. -/
def isAddressChar (c : Char) : Bool := !Text.isBlank c && c != '@'

/-- Whether a domain has a point with a character on each side. -/
def hasInnerPoint (cs : List Char) : Bool := (cs.drop 1).dropLast.contains '.'

/-- The address that a text starts with. -/
def emailAt? (cs : List Char) : Option (List Char) :=
  let user := cs.takeWhile isAddressChar
  match cs.drop user.length with
  | '@' :: rest =>
    let domain := rest.takeWhile isAddressChar
    if user ≠ [] ∧ hasInnerPoint domain then some (user ++ '@' :: domain) else none
  | _ => none

/-- The first address in a text. -/
def email? : List Char → Option (List Char)
  | [] => none
  | c :: rest => (emailAt? (c :: rest)).orElse fun _ => email? rest

/-- The value of an answer to a question of a kind. -/
def coerce (raw : String) (kind : AnswerKind) : Json :=
  let text := Text.trim raw
  match kind with
  | .number => .float (readNumber text.toList)
  | .currency => readCurrency text
  | .yesNo => .bool (isYes text.toList)
  | .email => .str (((email? text.toList).map String.ofList).getD raw)
  | .phone => .str (String.ofList (text.toList.filter Text.isDigit))
  | .text | .other _ => .str raw

end Answer
end Dialogue
