import Dialogue.Number.Rounding

/-!
# Double precision numbers

A finite number is a signed significand times a power of two. Every operation computes its exact
result as a fraction and rounds once, to the nearest representable number, a tie to the even
significand.
-/
namespace Dialogue.Number

inductive Binary64 where
  | nan
  | infinite (negative : Bool)
  | finite (negative : Bool) (significand : Nat) (exponent : Int)
  deriving DecidableEq, Inhabited

namespace Binary64

/-- The exponent of the smallest positive number. -/
def leastExponent : Int := -1074

/-- The largest exponent of a finite number. -/
def greatestExponent : Int := 971

def zero : Binary64 := .finite false 0 leastExponent

/-- `num / den` over `2 ^ exponent`, again as a fraction. -/
def scaled (num den : Nat) (exponent : Int) : Nat × Nat :=
  if 0 ≤ exponent then (num, den * Nat.pow 2 exponent.toNat)
  else (num * Nat.pow 2 (-exponent).toNat, den)

/-- The exponent at which the significand of `num / den` has its full 53 bits, or the least one. -/
def exponentOf (num den : Nat) : Int :=
  let guess : Int := (num.log2 : Int) - den.log2
  let (n, d) := scaled num den guess
  max leastExponent (if n < d then guess - 53 else guess - 52)

/-- The number nearest to the fraction `num / den`; beyond the largest one, infinity. -/
def ofRatio (negative : Bool) (num den : Nat) : Binary64 :=
  if num = 0 then .finite negative 0 leastExponent
  else
    let e := exponentOf num den
    let (n, d) := scaled num den e
    let m := roundDiv n d
    let (m, e) := if m = Nat.pow 2 53 then (Nat.pow 2 52, e + 1) else (m, e)
    if greatestExponent < e then .infinite negative else .finite negative m e

/-- The number nearest to `digits * 10 ^ exponent`. Far outside the range of the format the
answer does not depend on the digits, and no power is computed. -/
def ofDecimal (negative : Bool) (digits : Nat) (exponent : Int) : Binary64 :=
  if digits = 0 then .finite negative 0 leastExponent
  else if 330 < exponent then .infinite negative
  else if exponent < -((digits.log2 : Int) + 1100) then .finite negative 0 leastExponent
  else if 0 ≤ exponent then ofRatio negative (digits * Nat.pow 10 exponent.toNat) 1
  else ofRatio negative digits (Nat.pow 10 (-exponent).toNat)

def ofInt (n : Int) : Binary64 := ofRatio (n < 0) n.natAbs 1

/-- The number an integer is read as where one beyond the format is refused. -/
def ofInt? (n : Int) : Option Binary64 :=
  match ofInt n with
  | .infinite _ => none
  | x => some x

/-- The magnitude of a finite number as an exact fraction. -/
def ratio (significand : Nat) (exponent : Int) : Nat × Nat :=
  if 0 ≤ exponent then (significand * Nat.pow 2 exponent.toNat, 1)
  else (significand, Nat.pow 2 (-exponent).toNat)

/-- The integer a finite number is equal to. -/
def toInt? : Binary64 → Option Int
  | .finite negative m e =>
    let (n, d) := ratio m e
    if n % d = 0 then some (if negative then -((n / d : Nat) : Int) else (n / d : Nat)) else none
  | _ => none

def isZero : Binary64 → Bool
  | .finite _ m _ => m == 0
  | _ => false

def isFinite : Binary64 → Bool
  | .finite .. => true
  | _ => false

/-- Not below zero; false for a number that is not one. -/
def isNonneg : Binary64 → Bool
  | .nan => false
  | .infinite negative => !negative
  | .finite negative m _ => !negative || m == 0

def isPositive (x : Binary64) : Bool := x.isNonneg && !x.isZero

/-- The value of a finite number in units of `2 ^ leastExponent`. -/
def units (negative : Bool) (significand : Nat) (exponent : Int) : Int :=
  let n : Int := (significand * Nat.pow 2 (exponent - leastExponent).toNat : Nat)
  if negative then -n else n

/-- The sum, rounded once. Two zeros add to a negative one only if both are negative. -/
def add : Binary64 → Binary64 → Binary64
  | .nan, _ => .nan
  | _, .nan => .nan
  | .infinite s, .infinite t => if s = t then .infinite s else .nan
  | .infinite s, .finite .. => .infinite s
  | .finite .., .infinite t => .infinite t
  | .finite s m e, .finite t n f =>
    let total := units s m e + units t n f
    if total = 0 then .finite (s && t) 0 leastExponent
    else ofRatio (total < 0) total.natAbs (Nat.pow 2 leastExponent.natAbs)

/-- The product with a positive integer, rounded once. -/
def scale (x : Binary64) (factor : Nat) : Binary64 :=
  match x with
  | .finite s m e =>
    let (n, d) := ratio m e
    ofRatio s (n * factor) d
  | x => x

/-- The nearest number with at most `places` decimal places, found from the exact value. -/
def roundTo (places : Nat) : Binary64 → Binary64
  | .finite s m e =>
    let (n, d) := ratio m e
    ofRatio s (roundDiv (n * Nat.pow 10 places) d) (Nat.pow 10 places)
  | x => x

end Binary64
end Dialogue.Number
