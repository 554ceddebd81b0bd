import Dialogue.Number.Reading

/-!
# Dates

A date is written with four digits of the year, two of the month and two of the day, and hyphens
between them. What follows the date is left to the reader.
-/
namespace Dialogue.Calendar

/-- Why a date or a moment was not understood. -/
inductive Complaint where
  | tooShort
  | yearCharacter
  | separator
  | monthCharacter
  | dayCharacter
  | monthRange
  | dayRange
  | extraCharacters
  | yearZero
  | tooEarly
  | tooLate
  | notNumber
  deriving DecidableEq

def Complaint.message : Complaint → String
  | tooShort => "input is too short"
  | yearCharacter => "invalid character in year"
  | separator => "invalid date separator, expected \x60-\x60"
  | monthCharacter => "invalid character in month"
  | dayCharacter => "invalid character in day"
  | monthRange => "month value is outside expected range of 1-12"
  | dayRange => "day value is outside expected range"
  | extraCharacters => "unexpected extra characters at the end of the input"
  | yearZero => "year 0 is out of range"
  | tooEarly => "dates before 1600 are not supported as unix timestamps"
  | tooLate => "dates after 9999 are not supported as unix timestamps"
  | notNumber => "NaN values not permitted"

structure Date where
  year : Nat
  month : Nat
  day : Nat
  deriving DecidableEq

def isLeap (year : Nat) : Bool := year % 4 == 0 && (year % 100 != 0 || year % 400 == 0)

def daysIn (year month : Nat) : Nat :=
  if month = 2 then if isLeap year then 29 else 28
  else if [4, 6, 9, 11].contains month then 30
  else 31

/-- The number in the first `n` characters, which are digits, and what follows them. -/
def digits? (n : Nat) (cs : List Char) : Option (Nat × List Char) :=
  let ds := cs.take n
  if ds.length = n && ds.all Char.isDigit then some (Number.natOfDigits ds, cs.drop n) else none

/-- What follows a character. -/
def after? (c : Char) : List Char → Option (List Char)
  | d :: rest => if d = c then some rest else none
  | [] => none

/-- Whether the three numbers name a day. -/
def Date.checked (d : Date) : Except Complaint Date :=
  if d.month = 0 || 12 < d.month then .error .monthRange
  else if d.day = 0 || daysIn d.year d.month < d.day then .error .dayRange
  else .ok d

/-- The date at the start of a text and what follows it. -/
def Date.leading (s : String) : Except Complaint (Date × List Char) := do
  let cs ← if s.utf8ByteSize < 10 then .error .tooShort else .ok s.toList
  let (year, cs) ← (digits? 4 cs).elim (.error .yearCharacter) .ok
  let cs ← (after? '-' cs).elim (.error .separator) .ok
  let (month, cs) ← (digits? 2 cs).elim (.error .monthCharacter) .ok
  let cs ← (after? '-' cs).elim (.error .separator) .ok
  let (day, cs) ← (digits? 2 cs).elim (.error .dayCharacter) .ok
  let date ← Date.checked ⟨year, month, day⟩
  pure (date, cs)

/-- The date that a text is. -/
def Date.read (s : String) : Except Complaint Date := do
  let (date, rest) ← Date.leading s
  if rest.isEmpty then pure date else .error .extraCharacters

end Dialogue.Calendar
