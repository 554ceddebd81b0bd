import Dialogue.Host.Letter
import Dialogue.Text.Quoted

/-!
# Direction of writing

A label with a letter that is written from right to left has to keep one direction: it begins with
a letter, which decides, holds no letter of the other direction, and ends, marks aside, with a
letter or a digit that goes along.
-/
namespace Dialogue.Host
open Text

inductive Direction where
  | left
  /-- Written from right to left. -/
  | right
  | europeanNumber
  | arabicNumber
  | mark
  | neutral
  deriving DecidableEq

/-- Letters written from right to left. -/
def rightRanges : Ranges := [
    (0x5d0, 0x5f4), (0x620, 0x64a), (0x66e, 0x66f), (0x671, 0x6d5), (0x6e5, 0x6e6), (0x6ee, 0x6ef),
    (0x6fa, 0x710), (0x712, 0x72f), (0x74d, 0x7a5), (0x7b1, 0x7b1), (0x7c0, 0x7ea), (0x7f4, 0x7f5),
    (0x800, 0x815), (0x81a, 0x81a), (0x824, 0x824), (0x828, 0x828), (0x840, 0x858), (0x860, 0x88e),
    (0x8a0, 0x8c9), (0xfe73, 0xfe73), (0x10800, 0x10a00), (0x10a10, 0x10a35), (0x10a60, 0x10ae4),
    (0x10b00, 0x10cf2), (0x10d00, 0x10d23), (0x10e80, 0x10ea9), (0x10eb0, 0x10f27),
    (0x10f30, 0x10f45), (0x10f70, 0x10f81), (0x10fb0, 0x10ff6), (0x1e800, 0x1e8c4),
    (0x1e922, 0x1e943), (0x1e94b, 0x1e959)]

def europeanNumberRanges : Ranges := [
    (0x30, 0x39), (0x6f0, 0x6f9)]

def arabicNumberRanges : Ranges := [
    (0x660, 0x669), (0x10d30, 0x10d39)]

def neutralRanges : Ranges := [
    (0x2d, 0x2d), (0xb7, 0xb7), (0x2b9, 0x2ba), (0x2c6, 0x2cf), (0x2ec, 0x2ec), (0x375, 0x375),
    (0x200c, 0x200d), (0x2e2f, 0x2e2f), (0x30fb, 0x30fb), (0xa67f, 0xa67f), (0xa717, 0xa71f),
    (0xa788, 0xa788)]

/-- Characters of a host name whose direction is not known. -/
def undirectedRanges : Ranges := [
    (0x88f, 0x897), (0xc5c, 0xc5c), (0xcdc, 0xcdc), (0xcf3, 0xcf3), (0xece, 0xece),
    (0x1acf, 0x1aeb), (0x1c8a, 0x1c8a), (0xa7cd, 0xa7cf), (0xa7db, 0xa7db), (0x105c0, 0x105f3),
    (0x10940, 0x10959), (0x10d40, 0x10d85), (0x10ec2, 0x10eff), (0x1123f, 0x11241),
    (0x11380, 0x113e2), (0x116d0, 0x116e3), (0x11b60, 0x11bf9), (0x11db0, 0x11de9),
    (0x11f00, 0x11f5a), (0x1342f, 0x143fa), (0x16100, 0x16139), (0x16d40, 0x16d79),
    (0x16ebb, 0x16ed3), (0x16ff2, 0x16ff3), (0x187f8, 0x187ff), (0x18cff, 0x18cff),
    (0x18d09, 0x18df2), (0x1b132, 0x1b132), (0x1b155, 0x1b155), (0x1df25, 0x1df2a),
    (0x1e08f, 0x1e08f), (0x1e4d0, 0x1e6ff), (0x2b739, 0x2b73f), (0x2cea2, 0x2cead),
    (0x2ebf0, 0x2ee5d), (0x31350, 0x33479)]

/-- The direction of a character of a host name. -/
def direction? (c : Char) : Option Direction :=
  if undirectedRanges.has c then none
  else if isNonspacing c then some .mark
  else if rightRanges.has c then some .right
  else if europeanNumberRanges.has c then some .europeanNumber
  else if arabicNumberRanges.has c then some .arabicNumber
  else if neutralRanges.has c then some .neutral
  else some .left

inductive DirectionError where
  | unknown (label : List Char) (position : Nat)
  | first (label : List Char)
  | opposed (rightToLeft : Bool) (position : Nat)
  | mixedNumbers
  | ending
  deriving DecidableEq

def DirectionError.message : DirectionError → String
  | unknown label position =>
    s!"Unknown directionality in label {Text.quote (String.ofList label)} at position {position}"
  | first label =>
    s!"First codepoint in label {Text.quote (String.ofList label)} must be directionality L, R or AL"
  | opposed rightToLeft position =>
    let way := if rightToLeft then "right-to-left" else "left-to-right"
    s!"Invalid direction for codepoint at position {position} in a {way} label"
  | mixedNumbers => "Can not mix numeral types in a right-to-left label"
  | ending => "Label ends with illegal codepoint directionality"

namespace Direction

/-- Whether a character makes a label one that has to keep its direction. -/
def turns (d : Direction) : Bool := d = right || d = arabicNumber

/-- Whether a character may stand in a label that is written from right to left. -/
def fits (rightToLeft : Bool) (d : Direction) : Bool :=
  if rightToLeft then d ≠ left else !d.turns

/-- Whether a label may end with a character, marks aside. -/
def ends (rightToLeft : Bool) (d : Direction) : Bool :=
  d = europeanNumber || (if rightToLeft then d.turns else d = left)

def isNumber (d : Direction) : Bool := d = europeanNumber || d = arabicNumber

/-- Looks at the characters from left to right. `number` is the kind of digits before, and
`ended` whether a label that ended here would end well. -/
def walk (rightToLeft : Bool) :
    Nat → Option Direction → Bool → List Direction → Except DirectionError Unit
  | _, _, ended, [] => if ended then .ok () else .error .ending
  | position, number, ended, d :: rest =>
    if !d.fits rightToLeft then .error (.opposed rightToLeft position)
    else if rightToLeft && d.isNumber && number.any (· ≠ d) then .error .mixedNumbers
    else
      walk rightToLeft (position + 1) (if d.isNumber then some d else number)
        (if d = mark then ended else d.ends rightToLeft) rest

end Direction

/-- The first character without a known direction, and the directions of all if there is none. -/
def directions (label : List Char) : Nat → List Char → Except DirectionError (List Direction)
  | _, [] => .ok []
  | position, c :: rest =>
    match direction? c with
    | none => .error (.unknown label position)
    | some d => (directions label (position + 1) rest).map (d :: ·)

/-- Holds a label against the rules of its direction. -/
def checkDirection (label : List Char) : Except DirectionError Unit := do
  let ds ← directions label 1 label
  if ds.any Direction.turns then
    match ds.head? with
    | some .right => Direction.walk true 1 none false ds
    | some .left => Direction.walk false 1 none false ds
    | _ => throw (.first label)

end Dialogue.Host
