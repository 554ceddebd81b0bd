import Dialogue.Text.Composition

/-!
# The composed normal form

A text is brought into its composed form by taking its characters apart, ordering the marks after
each base by their classes, and putting together again what composes.
-/
namespace Dialogue.Text

/-! ## Hangul -/

def hangulBase : Nat := 0xac00
def leadBase : Nat := 0x1100
def vowelBase : Nat := 0x1161
def tailBase : Nat := 0x11a7
def leadCount : Nat := 19
def vowelCount : Nat := 21
def tailCount : Nat := 28

/-- The parts of a syllable. A tail of zero is none. -/
def syllableParts? (n : Nat) : Option (List Char) :=
  let i := n - hangulBase
  if n < hangulBase || leadCount * vowelCount * tailCount ≤ i then none
  else
    let tail := i % tailCount
    some ([leadBase + i / (vowelCount * tailCount), vowelBase + i / tailCount % vowelCount]
      ++ (if tail = 0 then [] else [tailBase + tail]) |>.map Char.ofNat)

/-- The syllable of a lead and a vowel, or of an open syllable and a tail. -/
def syllable? (a b : Nat) : Option Nat :=
  if leadBase ≤ a ∧ a < leadBase + leadCount ∧ vowelBase ≤ b ∧ b < vowelBase + vowelCount then
    some (hangulBase + ((a - leadBase) * vowelCount + (b - vowelBase)) * tailCount)
  else if hangulBase ≤ a ∧ a < hangulBase + leadCount * vowelCount * tailCount
      ∧ (a - hangulBase) % tailCount = 0 ∧ tailBase < b ∧ b < tailBase + tailCount then
    some (a + (b - tailBase))
  else none

/-! ## Taking apart -/

/-- A composed character is composed at most this many times over. -/
def compositionDepth : Nat := 4

/-- A character as its base and the marks it was composed with. -/
def decompose : Nat → Char → List Char
  | 0, c => [c]
  | depth + 1, c =>
    match syllableParts? c.toNat with
    | some parts => parts
    | none => match compositions.find? (·.whole = c.toNat) with
      | some p => decompose depth (Char.ofNat p.first) ++ [Char.ofNat p.second]
      | none => [c]

/-! ## Ordering -/

/-- Puts a character before marks, behind those of a lower class. -/
def place (c : Char) : List Char → List Char
  | [] => [c]
  | d :: rest =>
    if 0 < combiningClass d ∧ combiningClass d < combiningClass c then d :: place c rest
    else c :: d :: rest

/-- Every row of marks by its classes; marks of one class keep their order. -/
def ordered (cs : List Char) : List Char := cs.foldr place []

/-! ## Putting together -/

def composed? (a b : Char) : Option Char :=
  match syllable? a.toNat b.toNat with
  | some n => some (Char.ofNat n)
  | none => (compositions.find? fun p => p.first = a.toNat && p.second = b.toNat).map fun p =>
    Char.ofNat p.whole

/-- Composes a base with what comes after it. `marks` are the ones since the base that did not
compose, the last one first; a mark of the class of the last one, or a base, is out of reach. -/
def composeFrom (base : Char) (marks : List Char) : List Char → List Char
  | [] => base :: marks.reverse
  | c :: rest =>
    let reached := match marks with
      | [] => true
      | m :: _ => combiningClass m < combiningClass c
    match (if reached then composed? base c else none) with
    | some whole => composeFrom whole marks rest
    | none =>
      if combiningClass c = 0 then base :: (marks.reverse ++ composeFrom c [] rest)
      else composeFrom base (c :: marks) rest

/-- Composes a text. Marks before the first base stay as they are. -/
def compose : List Char → List Char
  | [] => []
  | c :: rest => if combiningClass c = 0 then composeFrom c [] rest else c :: compose rest

/-- Whether a text is in its composed form already. -/
def isComposed (cs : List Char) : Bool :=
  !cs.any uncomposedRanges.has &&
    compose (ordered (cs.flatMap (decompose compositionDepth))) == cs

end Dialogue.Text
