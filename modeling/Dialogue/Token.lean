import Dialogue.Text.Word

/-!
# Tokens in texts

A token is a name of word characters between double braces. A text is cut from left to right into
tokens and single characters, and the pieces in a row are the text again.
-/
namespace Dialogue

/-- The two braces that open a token. -/
def tokenOpen : List Char := ['\x7b', '\x7b']

/-- The two braces that close a token. -/
def tokenClose : List Char := ['\x7d', '\x7d']

inductive Piece where
  | plain (c : Char)
  | token (name : List Char)
  deriving DecidableEq

/-- The characters a piece was cut from. -/
def Piece.source : Piece → List Char
  | plain c => [c]
  | token name => tokenOpen ++ name ++ tokenClose

def Piece.isToken : Piece → Bool
  | plain _ => false
  | token _ => true

/-- The name of the token that a text starts with. -/
def tokenAt? (cs : List Char) : Option (List Char) :=
  let name := (cs.drop 2).takeWhile Text.isWord
  if cs.take 2 = tokenOpen ∧ name ≠ [] ∧ (cs.drop (name.length + 2)).take 2 = tokenClose
  then some name else none

/-- The pieces of a text without its first `skip` characters. -/
def piecesAfter : Nat → List Char → List Piece
  | _, [] => []
  | skip + 1, _ :: rest => piecesAfter skip rest
  | 0, c :: rest =>
    match tokenAt? (c :: rest) with
    | some name => .token name :: piecesAfter (name.length + 3) rest
    | none => .plain c :: piecesAfter 0 rest

def pieces (cs : List Char) : List Piece := piecesAfter 0 cs

theorem piecesAfter_eq (skip : Nat) (cs : List Char) :
    piecesAfter skip cs = pieces (cs.drop skip) := by
  induction skip generalizing cs with
  | zero => rfl
  | succ n ih => cases cs with
    | nil => rfl
    | cons c rest => exact ih rest

/-- Whether a text holds a token. -/
def hasToken (s : String) : Bool := (pieces s.toList).any Piece.isToken

end Dialogue
