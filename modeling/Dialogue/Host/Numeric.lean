import Dialogue.Text.Hex

/-!
# Hosts in numbers

Addresses of four decimal numbers, and addresses of eight groups of hexadecimal digits, in which
one row of zero groups may be left out and the last two groups may be written as four decimal
numbers.
-/
namespace Dialogue.Host

/-- Splits at every character `at`. -/
def fields (separator : Char) (cs : List Char) : List (List Char) :=
  ((String.ofList cs).splitOn (String.singleton separator)).map String.toList

/-! ## Four numbers -/

/-- A number below 256 in at most three digits, without a zero before it. -/
def isByte (cs : List Char) : Bool :=
  cs != [] && cs.all Char.isDigit && cs.length ≤ 3 && (cs = ['0'] || cs.head? != some '0') &&
    cs.foldl (fun n c => 10 * n + (c.toNat - '0'.toNat)) 0 ≤ 255

def isQuad (cs : List Char) : Bool :=
  let parts := fields '.' cs
  parts.length = 4 && parts.all isByte

/-- The states of the search for four rows of digits with one character between each two: in an
even state the next row is to begin, and in an odd one it has begun. -/
def quadStep (states : List Nat) (c : Char) : List Nat :=
  (states.flatMap fun s =>
    (if c.isDigit then [if s % 2 = 0 then s + 1 else s] else []) ++
      (if s % 2 = 1 ∧ s < 7 then [s + 1] else [])).eraseDups

/-- Whether a host is meant as four numbers: rows of digits with any character between them. -/
def looksLikeQuad (cs : List Char) : Bool := (cs.foldl quadStep [0]).contains 7

/-! ## Eight groups -/

def isGroup (cs : List Char) : Bool :=
  cs != [] && cs.length ≤ 4 && cs.all fun c => (Text.hexValue? c).isSome

/-- The address without the zone behind it, which is not empty and holds no second mark. -/
def withoutZone? (cs : List Char) : Option (List Char) :=
  match cs.dropWhile (· ≠ '%') with
  | [] => some cs
  | _ :: zone =>
    if zone = [] || zone.contains '%' then none else some (cs.takeWhile (· ≠ '%'))

/-- Replaces four decimal numbers at the end by two groups. -/
def withoutQuad? (parts : List (List Char)) : Option (List (List Char)) :=
  match parts.getLast? with
  | some last =>
    if last.contains '.' then
      if isQuad last then some (parts.dropLast ++ [['0'], ['0']]) else none
    else some parts
  | none => some parts

/-- The number of groups. -/
def groupCount : Nat := 8

/-- Whether the groups on both sides of a gap are well formed. A side that begins or ends the
address with a colon of its own is empty. -/
def gapFits (before after : List (List Char)) : Bool :=
  let high := if before.head? = some [] then before.drop 1 else before
  let low := if after.getLast? = some [] then after.dropLast else after
  (high.length = before.length || high = []) && (low.length = after.length || low = []) &&
    high.length + low.length < groupCount && high.all isGroup && low.all isGroup

/-- The places between the first and the last part where nothing stands. -/
def gaps (parts : List (List Char)) : List Nat :=
  (List.range parts.length).filter fun i =>
    0 < i && i + 1 < parts.length && parts[i]? = some []

def isGroups (cs : List Char) : Bool :=
  match (withoutZone? cs).map (fields ':') with
  | none => false
  | some parts =>
    3 ≤ parts.length && match withoutQuad? parts with
      | none => false
      | some parts =>
        parts.length ≤ groupCount + 1 && match gaps parts with
          | [] => parts.length = groupCount && parts.all isGroup
          | [i] => gapFits (parts.take i) (parts.drop (i + 1))
          | _ => false

end Dialogue.Host
