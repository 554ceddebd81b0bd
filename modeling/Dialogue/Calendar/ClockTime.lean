import Dialogue.Calendar.Date

/-!
# Moments and the clock

A moment is written as a date with a time of day and perhaps the offset of its place, as a date
alone, which stands for midnight, or as a count of seconds or milliseconds since the start of
1970. Of a moment only the clock is kept: as it is written, or in universal time for a count.
-/
namespace Dialogue

/-- The time of day at which something was recorded, as the clock of its place shows it. -/
structure ClockTime where
  hour : Nat
  minute : Nat
  second : Nat
  deriving DecidableEq, Inhabited

namespace ClockTime
open Calendar Number

/-- The time that the clock of a simulated run shows. -/
def midnight : ClockTime := ⟨0, 0, 0⟩

def twoDigits (n : Nat) : String := (if n < 10 then "0" else "") ++ toString n

def text (t : ClockTime) : String :=
  twoDigits t.hour ++ ":" ++ twoDigits t.minute ++ ":" ++ twoDigits t.second

/-! ## Times of day -/

/-- What follows the fraction of a second, if there is one; a mark alone is none. -/
def afterFraction? : List Char → Option (List Char)
  | c :: rest =>
    if c = '.' || c = ',' then
      if (rest.takeWhile Char.isDigit).isEmpty then none else some (rest.dropWhile Char.isDigit)
    else some (c :: rest)
  | [] => some []

/-- The seconds of a time that may end with its minutes, and what follows them. -/
def seconds? : List Char → Option (Nat × List Char)
  | ':' :: rest => do
    let (second, rest) ← digits? 2 rest
    pure (second, ← afterFraction? rest)
  | rest => some (0, rest)

/-- Whether the text is hours and minutes of an offset below a day. -/
def isOffset (cs : List Char) : Bool :=
  match digits? 2 cs with
  | none => false
  | some (hours, rest) =>
    match digits? 2 ((after? ':' rest).getD rest) with
    | some (minutes, []) => minutes < 60 && 60 * hours + minutes < 1440
    | _ => false

/-- Whether the text is nothing, the mark of universal time, or an offset with its sign. -/
def isZone : List Char → Bool
  | [] => true
  | ['Z'] | ['z'] => true
  | c :: rest => (c = '+' || c = '-' || c = '\u2212') && isOffset rest

/-- The clock of a time of day with its zone. -/
def ofTime? (cs : List Char) : Option ClockTime := do
  let (hour, cs) ← digits? 2 cs
  let cs ← after? ':' cs
  let (minute, cs) ← digits? 2 cs
  let (second, cs) ← seconds? cs
  if hour < 24 && minute < 60 && second < 60 && isZone cs then some ⟨hour, minute, second⟩
  else none

/-- A date and, after a mark between them, a time of day. -/
def dated? (s : String) : Option (Date × ClockTime) :=
  match Date.leading s with
  | .ok (date, c :: rest) =>
    if ['T', 't', ' ', '_'].contains c then (ofTime? rest).map (date, ·) else none
  | _ => none

/-! ## Counts -/

/-- The clock so many seconds after a midnight. -/
def ofSeconds (n : Nat) : ClockTime := ⟨n / 3600, n / 60 % 60, n % 60⟩

/-- Counts beyond this one, either way, are counts of milliseconds. -/
def watershed : Nat := 20000000000

/-- The first second of 1600. -/
def earliest : Int := -11676096000

/-- The last second of 9999. -/
def latest : Int := 253402300799

/-- The clock after a count and so many microseconds. -/
def ofCount (count : Int) (microseconds : Nat) : Except Complaint ClockTime :=
  let (second, beyond) :=
    if watershed < count.natAbs then (count.fdiv 1000, (count.fmod 1000).toNat * 1000)
    else (count, 0)
  let second := second + ((microseconds + beyond) / 1000000 : Nat)
  if second < earliest then .error .tooEarly
  else if latest < second then .error .tooLate
  else .ok (ofSeconds (second.emod 86400).toNat)

/-- A fraction of a second in microseconds, to the nearest. -/
def microseconds (num den : Nat) : Nat :=
  match (Binary64.ofRatio false num den).scale 1000000 with
  | .finite _ m e =>
    let (n, d) := Binary64.ratio m e
    (2 * n + d) / (2 * d)
  | _ => 0

/-- The greatest integer that is not above a fraction of a sign. -/
def floorOf (negative : Bool) (num den : Nat) : Int :=
  Int.fdiv (if negative then -(num : Int) else num) den

/-- The clock after a count with a fraction. The microseconds are those of its magnitude. -/
def ofNumber : Binary64 → Except Complaint ClockTime
  | .nan => .error .notNumber
  | .infinite negative => .error (if negative then .tooEarly else .tooLate)
  | .finite negative m e =>
    let (n, d) := Binary64.ratio m e
    ofCount (floorOf negative n d) (microseconds (n % d) d)

/-- A digit over a positive number, rounded once. -/
def digitOver (c : Char) : Binary64 → Binary64
  | .finite s m e =>
    let (n, d) := Binary64.ratio m e
    .ofRatio s ((c.toNat - '0'.toNat) * d) n
  | _ => .zero

/-- Adds the digits of a fraction one after the other, each over its own power of ten. -/
def withFraction (x unit : Binary64) : List Char → Binary64
  | [] => x
  | c :: rest => withFraction (x.add (digitOver c unit)) (unit.scale 10) rest

/-- The clock after a count that is written in digits, which has a point in it. Counts beyond the
watershed are made seconds here. -/
def ofDigits (negative : Bool) (whole : Nat) (fraction : List Char) :
    Except Complaint ClockTime :=
  match withFraction (.ofInt whole) (.ofInt 10) fraction with
  | .finite _ m e =>
    let (n, d) := Binary64.ratio m e
    let (n, d) := if watershed * d < n then
        match Binary64.ofRatio false n (1000 * d) with
        | .finite _ m e => Binary64.ratio m e
        | _ => (n, 1000 * d)
      else (n, d)
    let second := floorOf negative n d
    let rest := (if negative then -(n : Int) else n) - second * d
    ofCount second (microseconds rest.toNat d)
  | _ => .error .tooLate

/-- A count in a text: its sign, the number in digits, which fits into 64 bits, and the digits
after the point, if there is a point. -/
def numeral? (cs : List Char) : Option (Bool × Nat × Option (List Char)) :=
  let (negative, body) := match cs with
    | '-' :: r => (true, r)
    | '+' :: r => (false, r)
    | r => (false, r)
  let whole := body.takeWhile Char.isDigit
  let n := natOfDigits whole
  if whole.isEmpty || Nat.pow 2 63 ≤ n then none
  else match body.dropWhile Char.isDigit with
    | [] => some (negative, n, none)
    | '.' :: fraction => if fraction.all Char.isDigit then some (negative, n, fraction) else none
    | _ => none

/-! ## Texts -/

/-- The clock of a moment of a date; no calendar has a year zero. -/
def onDate (date : Date) (t : ClockTime) : Except Complaint ClockTime :=
  if date.year = 0 then .error .yearZero else .ok t

/-- The clock of a date alone. -/
def ofDate (s : String) : Except Complaint ClockTime := do
  onDate (← Date.read s) midnight

/-- The clock of the moment that a text is. What is no date with a time and no count is read as a
date. -/
def ofText (s : String) : Except Complaint ClockTime :=
  match dated? s with
  | some (date, t) => onDate date t
  | none =>
    match numeral? s.toList with
    | some (negative, n, none) => ofCount (if negative then -(n : Int) else n) 0
    | some (negative, n, some fraction) =>
      match ofDigits negative n fraction with
      | .ok t => .ok t
      | .error _ => ofDate s
    | none => ofDate s

end ClockTime
end Dialogue
