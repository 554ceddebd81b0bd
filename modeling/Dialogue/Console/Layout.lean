import Dialogue.Console.Styled
import Dialogue.Text.Grapheme

/-!
# Lines on the screen

A text is shown line by line. A tab fills up to the next multiple of eight cells, and a line that
is too long is broken between words; a word that is too long for any line is broken where the line
ends, or cut with dots in the place of the rest. Widths count cells.
-/
namespace Dialogue.Console

/-- The cells of a line of the screen. -/
def screenWidth : Nat := 200

abbrev Line := List Glyph

def charsOf (line : Line) : List Char := line.map (·.char)

def lineWidth (line : Line) : Nat := Text.width (charsOf line)

/-- Glyphs as lines; there is always one. -/
def linesOf : List Glyph → List Line
  | [] => [[]]
  | g :: rest =>
    match linesOf rest with
    | [] => [[g]]
    | line :: lines => if g.char = '\n' then [] :: line :: lines else (g :: line) :: lines

/-- Glyphs with the characters of another text in their places; what is longer has no fault. -/
def withChars : Line → List Char → Line
  | g :: line, c :: cs => ⟨c, g.fault⟩ :: withChars line cs
  | [], cs => cs.map (⟨·, none⟩)
  | _ :: _, [] => []

def blankGlyphs (n : Nat) : Line := List.replicate n ⟨' ', none⟩

/-- Fills up at tabs. The part since the last tab is at hand in reverse, and `column` cells are
before it. -/
def fillTabs (column : Nat) (part : Line) : Line → Line
  | [] => part.reverse
  | g :: rest =>
    if g.char = '\t' then
      let part := (⟨' ', g.fault⟩ :: part).reverse
      let reached := column + lineWidth part
      let missing := (8 - reached % 8) % 8
      part ++ blankGlyphs missing ++ fillTabs (reached + missing) [] rest
    else fillTabs column (g :: part) rest

/-- Words, each with the blanks behind it; blanks at the start belong to the first one. The part of
a word that was read already is at hand in reverse. A text of blanks has no words. -/
def wordsWithBlanks (part : List Char) : List Char → List (List Char)
  | [] => if part.all Text.isBlank then [] else [part.reverse]
  | c :: rest =>
    if !Text.isBlank c && part.head?.any Text.isBlank && part.any (!Text.isBlank ·)
    then part.reverse :: wordsWithBlanks [c] rest
    else wordsWithBlanks (c :: part) rest

def withoutBlankEnd (cs : List Char) : List Char := (cs.reverse.dropWhile Text.isBlank).reverse

/-- What becomes of a word that is too long for a line. -/
inductive Overflow where
  /-- It is broken. -/
  | fold
  /-- It is cut, and dots stand for the rest. -/
  | ellipsis
  deriving DecidableEq

/-- The places of the breaks before the parts of a word that begins at `start`, and the cells of
the last part. -/
def foldBreaks (start : Nat) : List (List Char) → List Nat × Nat
  | [] => ([], 0)
  | part :: parts =>
    let (later, size) := foldBreaks (start + part.length) parts
    ((if start = 0 then [] else [start]) ++ later, if parts = [] then Text.width part else size)

/-- The places at which a line is broken, with words that begin at `start` behind `used` cells. -/
def breaks (overflow : Overflow) (width : Nat) (start used : Nat) : List (List Char) → List Nat
  | [] => []
  | word :: words =>
    let next := start + word.length
    let size := Text.width (withoutBlankEnd word)
    if used + size ≤ width then
      breaks overflow width next (used + Text.width word) words
    else if width < size then
      match overflow with
      | .fold =>
        let parts := Text.chop width word
        let (places, last) := foldBreaks start parts
        places ++ breaks overflow width next (if parts = [] then used else last) words
      | .ellipsis =>
        (if start = 0 then [] else [start])
          ++ breaks overflow width next (Text.width word) words
    else if used = 0 || start = 0 then breaks overflow width next used words
    else start :: breaks overflow width next (Text.width word) words

/-- Cuts a list at places that ascend, of which `done` have been passed. -/
def cutAt {α : Type} (done : Nat) (l : List α) : List Nat → List (List α)
  | [] => [l]
  | p :: ps => l.take (p - done) :: cutAt p (l.drop (p - done)) ps

/-- Takes away blanks at the end, as long as there are more characters than `width`. -/
def cropEnd (width : Nat) (line : Line) : Line :=
  let blanks := ((charsOf line).reverse.takeWhile Text.isBlank).length
  line.take (line.length - min blanks (line.length - width))

/-- Cuts a line down to a width. -/
def truncate (overflow : Overflow) (width : Nat) (line : Line) : Line :=
  if lineWidth line ≤ width then line
  else match overflow with
    | .fold => withChars line (Text.setWidth width (charsOf line))
    | .ellipsis => withChars line (Text.setWidth (width - 1) (charsOf line) ++ ['…'])

inductive Alignment where
  | left | right | centre
  deriving DecidableEq

/-- A line on a width; blanks at its end do not count where it is not on the left. An odd blank in
the middle goes to the right. -/
def Alignment.fit (overflow : Overflow) (width : Nat) (line : Line) : Alignment → Line
  | .left =>
    let line := truncate overflow width line
    line ++ blankGlyphs (width - lineWidth line)
  | .right =>
    let line := truncate overflow width (line.take (withoutBlankEnd (charsOf line)).length)
    blankGlyphs (width - lineWidth line) ++ line
  | .centre =>
    let line := truncate overflow width (line.take (withoutBlankEnd (charsOf line)).length)
    let line := blankGlyphs ((width - lineWidth line) / 2) ++ line
    line ++ blankGlyphs (width - lineWidth line)

/-- How a text is laid out. -/
structure Layout where
  width : Nat
  overflow : Overflow := .fold
  /-- Where lines stand, if they are filled up. -/
  alignment : Option Alignment := none

namespace Layout

def fit (l : Layout) (line : Line) : Line :=
  let line := cropEnd l.width line
  match l.alignment with
  | none => truncate l.overflow l.width line
  | some a => truncate l.overflow l.width (a.fit l.overflow l.width line)

/-- The parts of a line with its tabs filled up. -/
def breakLine (l : Layout) (line : Line) : List Line :=
  cutAt 0 line (breaks l.overflow l.width 0 0 (wordsWithBlanks [] (charsOf line)))

/-- The lines by which a text is shown. -/
def lines (l : Layout) (t : Styled) : List Line :=
  ((linesOf t.glyphs).map (fillTabs 0 [])).flatMap fun line => (l.breakLine line).map l.fit

/-- The styles between characters that are looked at. They are lost where a text is taken apart,
and at the end of what is cut off. -/
def looseFaults (l : Layout) (t : Styled) : List (Nat × NumberFault) :=
  if t.chars.contains '\n' || t.chars.contains '\t' then []
  else match l.breakLine t.glyphs with
    | [line] =>
      let kept := (truncate l.overflow l.width (cropEnd l.width line)).length
      if kept < line.length then t.loose.filter (·.1 < kept) else t.loose
    | _ => []

/-- The fault that keeps a text from being shown: the first one on its lines. -/
def fault? (l : Layout) (t : Styled) : Option NumberFault :=
  let onLines := l.lines t |>.flatten.findSome? (·.fault)
  match l.looseFaults t with
  | [] => onLines
  | (place, f) :: _ =>
    match t.glyphs.findIdx? (·.fault.isSome) with
    | some i => if i ≤ place then onLines else some f
    | none => some f

/-- The lines of a text, unless a style has a fault. -/
def shownLines (l : Layout) (t : Styled) : Except NumberFault (List (List Char)) :=
  match l.fault? t with
  | some f => .error f
  | none => .ok ((l.lines t).map charsOf)

end Layout

/-- Lines with their ends. -/
def joinLines (lines : List (List Char)) : String :=
  String.ofList (lines.flatMap (· ++ ['\n']))

end Dialogue.Console
