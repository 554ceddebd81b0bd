import Dialogue.Number.Shortest

/-!
# The text of a double

A layout says when a number is written with a power of ten and whether a whole number keeps its
point. Digits come from `Decimal`.
-/
namespace Dialogue.Number

structure Layout where
  /-- The least power of ten of a first digit that is written in place. -/
  lowest : Int
  /-- The least power of ten above it that is written with an exponent. -/
  highest : Int
  /-- Whether a whole number in place ends in a point and a zero. -/
  pointKept : Bool

/-- Values show all their digits, in place below `10 ^ 16`. -/
def Layout.value : Layout := ⟨-4, 16, true⟩

/-- Durations in messages show six digits, in place below `10 ^ 6`. -/
def Layout.general : Layout := ⟨-4, 6, false⟩

/-- `digits` with a point before the last `places` of them. -/
def withPoint (digits : Nat) (places : Nat) : String :=
  let text := Nat.toDigits 10 digits
  let text := List.replicate (places + 1 - text.length) '0' ++ text
  let whole := text.take (text.length - places)
  let rest := text.drop (text.length - places)
  if rest.isEmpty then String.ofList whole else String.ofList (whole ++ '.' :: rest)

/-- The sign and at least two digits of an exponent. -/
def exponentText (e : Int) : String :=
  (if e < 0 then "-" else "+") ++ (if e.natAbs < 10 then "0" else "") ++ toString e.natAbs

/-- A decimal without zeros at its end, laid out. -/
def Layout.text (l : Layout) (d : Decimal) : String :=
  let lead := d.leading
  if l.lowest ≤ lead ∧ lead < l.highest then
    if 0 ≤ d.exponent then
      toString (d.digits * Nat.pow 10 d.exponent.toNat) ++ (if l.pointKept then ".0" else "")
    else withPoint d.digits (-d.exponent).toNat
  else withPoint d.digits (d.width - 1) ++ "e" ++ exponentText lead

namespace Binary64

def signText (negative : Bool) : String := if negative then "-" else ""

/-- Writes a finite magnitude with `body` and the two special values by name. -/
def textWith (body : Nat → Int → String) : Binary64 → String
  | .nan => "nan"
  | .infinite negative => signText negative ++ "inf"
  | .finite negative m e => signText negative ++ body m e

/-- The fewest digits that read back. -/
def text : Binary64 → String :=
  textWith fun m e => Layout.value.text (Decimal.shortest m e)

/-- At most six significant digits. -/
def generalText : Binary64 → String :=
  textWith fun m e =>
    if m = 0 then "0" else Layout.general.text ((Decimal.exact m e).round 6).trimmed

/-- Exactly `places` digits after the point. -/
def fixedText (places : Nat) : Binary64 → String :=
  textWith fun m e => withPoint ((Decimal.exact m e).fixed places) places

end Binary64
end Dialogue.Number
