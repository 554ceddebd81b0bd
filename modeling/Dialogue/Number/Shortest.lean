import Dialogue.Number.Binary64

/-!
# Decimal digits of a double

The exact decimal expansion of a finite double, the expansion rounded to a number of digits, and
the shortest decimal that reads back as the same number.
-/
namespace Dialogue.Number

/-- The decimal number `digits * 10 ^ exponent`. -/
structure Decimal where
  digits : Nat
  exponent : Int
  deriving DecidableEq

namespace Decimal

/-- How many decimal digits the number's digits have. -/
def width (d : Decimal) : Nat := (Nat.toDigits 10 d.digits).length

/-- The power of ten of the first digit. -/
def leading (d : Decimal) : Int := d.exponent + d.width - 1

/-- The decimal equal to `significand * 2 ^ exponent`: a negative power of two is a power of five
over a power of ten. -/
def exact (significand : Nat) (exponent : Int) : Decimal :=
  if 0 ≤ exponent then ⟨significand * Nat.pow 2 exponent.toNat, 0⟩
  else ⟨significand * Nat.pow 5 (-exponent).toNat, exponent⟩

/-- Without the zeros at the end; `fuel` bounds how many are removed. -/
def strip (fuel : Nat) (d : Decimal) : Decimal :=
  match fuel with
  | 0 => d
  | fuel + 1 =>
    if d.digits != 0 && d.digits % 10 == 0 then strip fuel ⟨d.digits / 10, d.exponent + 1⟩ else d

def trimmed (d : Decimal) : Decimal := d.strip d.width

/-- Rounded to `count` significant digits, a tie to the even one. -/
def round (count : Nat) (d : Decimal) : Decimal :=
  let cut := d.width - count
  ⟨roundDiv d.digits (Nat.pow 10 cut), d.exponent + cut⟩

/-- Rounded to `places` digits after the point, as a multiple of `10 ^ -places`. -/
def fixed (places : Nat) (d : Decimal) : Nat :=
  let shift := d.exponent + places
  if 0 ≤ shift then d.digits * Nat.pow 10 shift.toNat
  else roundDiv d.digits (Nat.pow 10 (-shift).toNat)

/-- The decimals that read back as a double, all over one power of ten. -/
structure Interval where
  low : Nat
  value : Nat
  high : Nat
  exponent : Int
  closed : Bool

/-- Half of the gap to each neighbour; below a power of two the gap is half as wide. -/
def interval (significand : Nat) (exponent : Int) : Interval :=
  let below := if significand = Nat.pow 2 52 ∧ Binary64.leastExponent < exponent then 1 else 2
  let at_ (n : Nat) := exact n (exponent - 2)
  ⟨(at_ (4 * significand - below)).digits, (at_ (4 * significand)).digits,
    (at_ (4 * significand + 2)).digits, (at_ 0).exponent, significand % 2 == 0⟩

def Interval.has (i : Interval) (n : Nat) : Bool :=
  if i.closed then i.low ≤ n && n ≤ i.high else i.low < n && n < i.high

/-- The neighbour of the value on the grid of multiples of `10 ^ cut` that reads back, the nearer
of two. -/
def Interval.hit? (i : Interval) (cut : Nat) : Option Decimal :=
  let unit := Nat.pow 10 cut
  let down := i.value / unit
  let pick (n : Nat) : Decimal := ⟨n, i.exponent + cut⟩
  match i.has (down * unit), i.has ((down + 1) * unit) with
  | true, true => some (pick (roundDiv i.value unit))
  | true, false => some (pick down)
  | false, true => some (pick (down + 1))
  | false, false => none

/-- The coarsest grid with a hit, from `cut` downwards. -/
def Interval.search (i : Interval) : Nat → Decimal
  | 0 => ⟨i.value, i.exponent⟩
  | cut + 1 => (i.hit? (cut + 1)).getD (i.search cut)

/-- The shortest decimal that reads back as `significand * 2 ^ exponent`. -/
def shortest (significand : Nat) (exponent : Int) : Decimal :=
  if significand = 0 then ⟨0, 0⟩
  else
    let i := interval significand exponent
    (i.search (Nat.toDigits 10 i.value).length).trimmed

end Decimal
end Dialogue.Number
