import Dialogue.Text.Width

/-!
# Characters that are shown together

A grapheme is a character that takes cells together with the marks, joiners and selectors behind
it. A text is cut between graphemes only, so that no mark is torn from its character; where a cut
falls into the middle of a wide grapheme, a blank takes the place of the half that is left.
-/
namespace Dialogue.Text

/-- Characters that are shown as one, and how many cells they take. -/
structure Grapheme where
  chars : List Char
  cells : Nat
  deriving DecidableEq

/-- The graphemes of a text behind the character `last`. The grapheme before it is at hand, with
its characters in reverse. -/
def graphemesAfter (current : Option Grapheme) (last : Option Char) : List Char → List Grapheme
  | [] => (current.map fun g => ⟨g.chars.reverse, g.cells⟩).toList
  | c :: rest =>
    match current with
    | none => graphemesAfter (some ⟨[c], cellsOf c⟩) (if cellsOf c = 0 then last else some c) rest
    | some g =>
      if c = joiner then
        match rest with
        | [] => graphemesAfter (some ⟨c :: g.chars, g.cells⟩) last []
        | d :: rest => graphemesAfter (some ⟨d :: c :: g.chars, g.cells⟩) last rest
      else if c = emojiSelector && last.any emojiSymbolRanges.has then
        graphemesAfter (some ⟨c :: g.chars, g.cells + 1⟩) none rest
      else if cellsOf c = 0 then graphemesAfter (some ⟨c :: g.chars, g.cells⟩) last rest
      else ⟨g.chars.reverse, g.cells⟩ :: graphemesAfter (some ⟨[c], cellsOf c⟩) (some c) rest

def graphemes (cs : List Char) : List Grapheme := graphemesAfter none none cs

/-- The graphemes that fit into `cells` cells; a blank stands for the half of a wide one. -/
def fitCells (cells : Nat) : List Grapheme → List Char
  | [] => []
  | g :: rest =>
    if cells = 0 then []
    else if g.cells ≤ cells then g.chars ++ fitCells (cells - g.cells) rest
    else [' ']

/-- A text on exactly `cells` cells: filled up with blanks, or cut. -/
def setWidth (cells : Nat) (cs : List Char) : List Char :=
  let taken := width cs
  if cells = 0 then []
  else if taken ≤ cells then cs ++ List.replicate (cells - taken) ' '
  else fitCells cells (graphemes cs)

/-- Cuts graphemes into parts of `cells` cells. The current part has taken `size` of them; a last
part that takes none is dropped. -/
def chopFrom (cells size : Nat) (part : List Char) : List Grapheme → List (List Char)
  | [] => if size = 0 then [] else [part]
  | g :: rest =>
    if cells < size + g.cells then part :: chopFrom cells g.cells g.chars rest
    else chopFrom cells (size + g.cells) (part ++ g.chars) rest

/-- A text in parts that each fit into `cells` cells. -/
def chop (cells : Nat) (cs : List Char) : List (List Char) := chopFrom cells 0 [] (graphemes cs)

end Dialogue.Text
