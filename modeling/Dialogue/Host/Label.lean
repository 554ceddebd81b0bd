import Dialogue.Host.Direction
import Dialogue.Text.NormalForm
import Dialogue.Text.Punycode

/-!
# Labels of host names

A label is what stands between two dots of a host name. It is a composed text of letters, whose
hyphens stand inside; a few characters are allowed only beside fitting ones. A label that is not
ASCII has an ASCII form, marked by how it begins.
-/
namespace Dialogue.Host
open Text

/-- What is wrong with a label. Positions count from one. -/
inductive LabelError where
  | empty
  | notComposed
  | doubleHyphen
  | outerHyphen
  | leadingMark
  | strayJoiner (c : Char) (position : Nat) (label : List Char)
  | misplaced (c : Char) (position : Nat) (label : List Char)
  | forbidden (c : Char) (position : Nat) (label : List Char)
  | direction (e : DirectionError)
  | nothingEncoded
  | encodedHyphen
  | notEncoded
  | tooLong
  deriving DecidableEq

/-- The number by which a character is known. -/
def codeName (c : Char) : String := "U+" ++ String.ofList ((hex 4 c.toNat).map Char.toUpper)

def LabelError.message : LabelError → String
  | empty => "Empty Label"
  | notComposed => "Label must be in Normalization Form C"
  | doubleHyphen => "Label has disallowed hyphens in 3rd and 4th position"
  | outerHyphen => "Label must not start or end with a hyphen"
  | leadingMark => "Label begins with an illegal combining character"
  | strayJoiner c position label =>
    let shown := Text.quote (String.ofList label)
    s!"Unknown codepoint adjacent to joiner {codeName c} at position {position} in {shown}"
  | misplaced c position label =>
    let shown := Text.quote (String.ofList label)
    s!"Codepoint {codeName c} not allowed at position {position} in {shown}"
  | forbidden c position label =>
    let shown := Text.quote (String.ofList label)
    s!"Codepoint {codeName c} at position {position} of {shown} not allowed"
  | direction e => e.message
  | nothingEncoded => "Malformed A-label, no Punycode eligible content found"
  | encodedHyphen => "A-label must not end with a hyphen"
  | notEncoded => "Invalid A-label"
  | tooLong => "Label too long"

namespace Label

/-- The class of the marks that cut off a vowel. -/
def cuttingClass : Nat := 9

/-- Joins letters that do not join, and the other way round. -/
def nonJoiner : Char := '\u200c'

def joiner : Char := '\u200d'

/-- Whether the letters around a place join, with only transparent characters between. -/
def joins (before after : List Char) : Bool :=
  (before.dropWhile isTransparent).head?.any joinsNextRanges.has &&
    (after.dropWhile isTransparent).head?.any joinsPreviousRanges.has

/-- Whether a joiner fits between what is before it, the nearest first, and what is after. -/
def joinerFits (c : Char) (before after : List Char) : Bool :=
  before.head?.any (combiningClass · = cuttingClass) || (c = nonJoiner && joins before after)

def isArabicDigit (c : Char) : Bool := '\u0660' ≤ c && c ≤ '\u0669'

def isEasternDigit (c : Char) : Bool := '\u06f0' ≤ c && c ≤ '\u06f9'

/-- Whether a character that needs fitting neighbours or a fitting label has them; none for a
character that may not stand in a label at all. -/
def placed? (label : List Char) (c : Char) (before after : List Char) : Option Bool :=
  if c = '\u00b7' then some (before.head? = some 'l' && after.head? = some 'l')
  else if c = '\u0375' then some (after.head?.any greekRanges.has)
  else if c = '\u05f3' ∨ c = '\u05f4' then some (before.head?.any hebrewRanges.has)
  else if c = '\u30fb' then some (label.any japaneseRanges.has)
  else if isArabicDigit c then some !(label.any isEasternDigit)
  else if isEasternDigit c then some !(label.any isArabicDigit)
  else none

/-- Looks at every character of a label between what is before and after it. -/
def checkLetters (label : List Char) : List Char → List Char → Except LabelError Unit
  | _, [] => .ok ()
  | before, c :: after =>
    let position := before.length + 1
    let next := checkLetters label (c :: before) after
    if isLetter c then next
    else if c = nonJoiner ∨ c = joiner then
      if joinerFits c before after then next else .error (.strayJoiner c position label)
    else match placed? label c before after with
      | none => .error (.forbidden c position label)
      | some true => next
      | some false => .error (.misplaced c position label)

/-- Holds a label against all rules. -/
def check (label : List Char) : Except LabelError Unit := do
  if label = [] then throw .empty
  if !isComposed label then throw .notComposed
  if (label.drop 2).take 2 = ['-', '-'] then throw .doubleHyphen
  if label.head? = some '-' ∨ label.getLast? = some '-' then throw .outerHyphen
  if label.head?.any isMark then throw .leadingMark
  checkLetters label [] label
  (checkDirection label).mapError .direction

/-- How the ASCII form of a label begins. -/
def asciiMark : List Char := ['x', 'n', '-', '-']

/-- The longest ASCII form. -/
def lengthLimit : Nat := 63

/-- The label that an ASCII label stands for. -/
def decode (label : List Char) : Except LabelError (List Char) := do
  let label := label.map Char.toLower
  if label.take 4 = asciiMark then
    let rest := label.drop 4
    if rest = [] then throw .nothingEncoded
    if rest.getLast? = some '-' then throw .encodedHyphen
    match Punycode.decode? rest with
    | none => throw .notEncoded
    | some label =>
      check label
      pure label
  else
    check label
    pure label

/-- The ASCII form of a label. -/
def encode (label : List Char) : Except LabelError (List Char) := do
  let ascii ← if label.all (·.toNat < 128) then do
      let _ ← decode label
      pure label
    else do
      check label
      pure (asciiMark ++ Punycode.encode label)
  if lengthLimit < ascii.length then throw .tooLong
  pure ascii

end Label
end Dialogue.Host
