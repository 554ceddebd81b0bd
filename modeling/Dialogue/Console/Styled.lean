import Dialogue.Console.Style

/-!
# Styled texts

Of the styles of a text only their faults matter, for the screen has no colours. A text cannot be
shown as long as a character of it is to have a style with a fault. A style may also lie between
two characters; then it is looked at only if the text is shown in one piece.
-/
namespace Dialogue.Console

/-- A character, and the fault of the first style on it that has one. -/
structure Glyph where
  char : Char
  fault : Option NumberFault := none
  deriving DecidableEq

structure Styled where
  glyphs : List Glyph
  /-- Faults of styles between characters, with the number of characters before them. -/
  loose : List (Nat × NumberFault) := []
  deriving DecidableEq

/-- Controls that are not shown: bell, backspace, vertical tab, form feed and carriage return. -/
def isHidden (c : Char) : Bool := [7, 8, 11, 12, 13].contains c.toNat

/-- A style with a fault, and the characters it is on. -/
structure FaultySpan where
  start : Nat
  stop : Nat
  fault : NumberFault
  deriving DecidableEq

namespace Styled

/-- A text without styles. -/
def plain (cs : List Char) : Styled := ⟨(cs.filter (!isHidden ·)).map (⟨·, none⟩), []⟩

/-- A text under styles. Where two styles are on a character, the first of them counts. -/
def ofSpans (cs : List Char) (spans : List FaultySpan) : Styled where
  glyphs := cs.mapIdx fun i c =>
    ⟨c, (spans.find? fun s => s.start ≤ i && i < s.stop).map (·.fault)⟩
  loose := (spans.filter fun s => s.start = s.stop).map fun s => (s.start, s.fault)

def chars (t : Styled) : List Char := t.glyphs.map (·.char)

theorem chars_ofSpans (cs : List Char) (spans : List FaultySpan) :
    (ofSpans cs spans).chars = cs := by
  simp [chars, ofSpans, List.mapIdx_eq_zipIdx_map, Function.comp_def]

end Styled
end Dialogue.Console
