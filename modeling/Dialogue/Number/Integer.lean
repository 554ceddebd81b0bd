import Dialogue.Number.Reading

/-!
# Reading integers

An integer in a setting or an address has a sign, digits of any script and single underscores
between digits, and blanks around it. One of too many digits is refused whole.
-/
namespace Dialogue.Number

/-- The digits that an integer may have at most. -/
def digitLimit : Nat := 4300

/-- The complaint about an integer of `digits` digits. -/
def longIntegerMessage (digits : Nat) : String :=
  s!"Exceeds the limit ({digitLimit} digits) for integer string conversion: value has {digits} "
    ++ "digits; use sys.set_int_max_str_digits() to increase the limit"

/-- Whether an integer has more digits than its text may have. -/
def isLong (n : Int) : Bool := digitLimit < (Nat.toDigits 10 n.natAbs).length

/-- The complaint about an integer that is to become a text. -/
def untoldIntegerMessage : String :=
  s!"Exceeds the limit ({digitLimit} digits) for integer string conversion; "
    ++ "use sys.set_int_max_str_digits() to increase the limit"

/-- An integer of a sign and digits. -/
def integer? (s : String) : Option Int :=
  let ascii := (trimMargin s.toList).map asciiDigit
  let (negative, body) := match ascii with
    | '-' :: r => (true, r)
    | '+' :: r => (false, r)
    | r => (false, r)
  let digits := body.filter (· ≠ '_')
  if digits = [] || !digits.all Char.isDigit || !underscoresBetween body false
    || digitLimit < digits.length then none
  else
    let n : Int := natOfDigits digits
    some (if negative then -n else n)

end Dialogue.Number
