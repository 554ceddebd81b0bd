import Dialogue.Text.Ranges

/-!
# Blanks

The whitespace that trimming and splitting remove: the blanks of every script and the four
information separators.
-/
namespace Dialogue.Text

/-- Every blank. -/
def blankRanges : Ranges := [
    (0x9, 0xd), (0x1c, 0x20), (0x85, 0x85), (0xa0, 0xa0), (0x1680, 0x1680), (0x2000, 0x200a),
    (0x2028, 0x2029), (0x202f, 0x202f), (0x205f, 0x205f), (0x3000, 0x3000)]

def isBlank (c : Char) : Bool := blankRanges.has c

/-- The characters without the blanks at both ends. -/
def trimChars (cs : List Char) : List Char :=
  ((cs.dropWhile isBlank).reverse.dropWhile isBlank).reverse

def trim (s : String) : String := String.ofList (trimChars s.toList)

/-- The maximal stretches of characters that are not blank. -/
def wordsOf : List Char → List Char → List (List Char)
  | [], acc => if acc.isEmpty then [] else [acc.reverse]
  | c :: rest, acc =>
    if isBlank c then (if acc.isEmpty then wordsOf rest [] else acc.reverse :: wordsOf rest [])
    else wordsOf rest (c :: acc)

/-- Every stretch of blanks becomes one space and the outer ones go. -/
def squeeze (s : String) : String :=
  " ".intercalate ((wordsOf s.toList []).map String.ofList)

end Dialogue.Text
