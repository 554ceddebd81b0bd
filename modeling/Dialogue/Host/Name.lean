import Dialogue.Host.Label

/-!
# Host names

Labels with dots between them, of which the last may have a dot behind it. Names beyond ASCII have
an ASCII form, label by label.
-/
namespace Dialogue.Host

inductive NameError where
  | empty
  | tooLong
  | label (e : LabelError)
  deriving DecidableEq

def NameError.message : NameError → String
  | empty => "Empty domain"
  | tooLong => "Domain too long"
  | label e => e.message

namespace Name

/-- The dots of every script. -/
def dots : List Char := ['.', '\u3002', '\uff0e', '\uff61']

/-- The pieces between dots, the first of them given so far in reverse. -/
def pieces : List Char → List Char → List (List Char)
  | acc, [] => [acc.reverse]
  | acc, c :: rest => if dots.contains c then acc.reverse :: pieces [] rest else pieces (c :: acc) rest

/-- The longest name without a dot at its end. -/
def lengthLimit : Nat := 253

/-- The labels of a name, and whether a dot is behind the last one. -/
def labels (name : List Char) : Except NameError (List (List Char) × Bool) := do
  if lengthLimit + 1 < name.length then throw .tooLong
  let parts := pieces [] name
  if parts = [[]] then throw .empty
  if parts.getLast? = some [] then pure (parts.dropLast, true) else pure (parts, false)

def joined (labels : List (List Char)) (dotted : Bool) : List Char :=
  ['.'].intercalate (if dotted then labels ++ [[]] else labels)

/-- The ASCII form of a name. -/
def encode (name : List Char) : Except NameError (List Char) := do
  let (parts, dotted) ← labels name
  let ascii ← parts.mapM fun l => (Label.encode l).mapError .label
  let name := joined ascii dotted
  if lengthLimit + (if dotted then 1 else 0) < name.length then throw .tooLong
  pure name

/-- The name that an ASCII name stands for. -/
def decode (name : List Char) : Except NameError (List Char) := do
  let (parts, dotted) ← labels name
  let parts ← parts.mapM fun l => (Label.decode l).mapError .label
  pure (joined parts dotted)

end Name
end Dialogue.Host
