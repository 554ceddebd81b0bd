import Dialogue.Number.Binary64
import Dialogue.Text.Blank
import Dialogue.Text.Digit

/-!
# Reading doubles

One decimal grammar (sign, digits with an optional point, power of ten, or the name of a special
value) and the three places that read it: settings, which allow the digits of every script and
single underscores between digits; flow files, which allow ASCII digits only; and answers, where
only the number at the start of a text counts.
-/
namespace Dialogue.Number

/-- The number a row of ASCII digits stands for. -/
def natOfDigits (cs : List Char) : Nat :=
  cs.foldl (fun n c => 10 * n + (c.toNat - '0'.toNat)) 0

/-- The power of ten after a mantissa: nothing, or a mark, a sign and at least one digit. -/
def exponent? : List Char → Option Int
  | [] => some 0
  | c :: rest =>
    if c ≠ 'e' ∧ c ≠ 'E' then none
    else
      let (negative, digits) := match rest with
        | '-' :: ds => (true, ds)
        | '+' :: ds => (false, ds)
        | ds => (false, ds)
      if digits.isEmpty || !digits.all Char.isDigit then none
      else some (if negative then -(natOfDigits digits : Int) else natOfDigits digits)

/-- An unsigned decimal in ASCII digits. -/
def unsigned? (negative : Bool) (cs : List Char) : Option Binary64 :=
  let whole := cs.takeWhile Char.isDigit
  let rest := cs.dropWhile Char.isDigit
  let (fraction, rest) := match rest with
    | '.' :: r => (r.takeWhile Char.isDigit, r.dropWhile Char.isDigit)
    | r => ([], r)
  if whole.isEmpty && fraction.isEmpty then none
  else (exponent? rest).map fun e =>
    .ofDecimal negative (natOfDigits (whole ++ fraction)) (e - fraction.length)

/-- The decimal grammar, special values included. -/
def decimal? (cs : List Char) : Option Binary64 :=
  let (negative, body) := match cs with
    | '-' :: r => (true, r)
    | '+' :: r => (false, r)
    | r => (false, r)
  let name := String.ofList (body.map Char.toLower)
  if name = "inf" ∨ name = "infinity" then some (.infinite negative)
  else if name = "nan" then some .nan
  else unsigned? negative body

/-- Whether every underscore stands between two ASCII digits. -/
def underscoresBetween : List Char → Bool → Bool
  | [], _ => true
  | '_' :: rest, afterDigit =>
    afterDigit && (rest.head?.any Char.isDigit) && underscoresBetween rest false
  | c :: rest, _ => underscoresBetween rest c.isDigit

/-- The blanks around a number in a text; the information separators are not among them. -/
def isMargin (c : Char) : Bool := Text.isBlank c && !(0x1c ≤ c.toNat && c.toNat ≤ 0x1f)

def trimMargin (cs : List Char) : List Char :=
  ((cs.dropWhile isMargin).reverse.dropWhile isMargin).reverse

/-- A decimal digit of any script as the ASCII one of its value. -/
def asciiDigit (c : Char) : Char :=
  match Text.digitValue? c with
  | some d => Char.ofNat ('0'.toNat + d)
  | none => c

/-- A number in a setting. -/
def setting? (s : String) : Option Binary64 :=
  let ascii := (trimMargin s.toList).map asciiDigit
  if underscoresBetween ascii false then decimal? (ascii.filter (· ≠ '_')) else none

/-- Whether underscores are single and inside the text. -/
def underscoresInside (cs : List Char) : Bool :=
  cs.contains '_' && cs.head? != some '_' && cs.getLast? != some '_' &&
    !(cs.zip cs.tail).contains ('_', '_')

/-- A number written as a text in a flow file. -/
def lenient? (s : String) : Option Binary64 :=
  let cs := s.toList
  match decimal? (trimMargin cs) with
  | some x => some x
  | none => if underscoresInside cs then decimal? (cs.filter (· ≠ '_')) else none

/-- The value of a row of digits of any script. -/
def natOfAnyDigits (cs : List Char) : Nat :=
  cs.foldl (fun n c => 10 * n + (Text.digitValue? c).getD 0) 0

/-- The number at the start of a text: digits with an optional fraction, or a fraction alone. -/
def leading? (cs : List Char) : Option Binary64 :=
  let whole := cs.takeWhile Text.isDigit
  let fraction := match cs.dropWhile Text.isDigit with
    | '.' :: r => r.takeWhile Text.isDigit
    | _ => []
  if whole.isEmpty && fraction.isEmpty then none
  else some (.ofDecimal false (natOfAnyDigits (whole ++ fraction)) (-(fraction.length : Int)))

theorem eq_of_toString_eq {m n : Nat} (h : toString m = toString n) : m = n := by
  have hdigits : Nat.toDigits 10 m = Nat.toDigits 10 n := by
    have htext := congrArg String.toList h
    simpa [toString, Nat.toList_repr] using htext
  rw [← Nat.ofDigitChars_ten_toDigits (n := m), hdigits, Nat.ofDigitChars_ten_toDigits]

end Dialogue.Number
