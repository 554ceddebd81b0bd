import Dialogue.Json.Basic
import Dialogue.Number.Layout
import Dialogue.Text.Quoted

/-!
# JSON texts of values

Only quotes, backslashes and control characters are escaped. Logs and messages use spaced
separators; request bodies use the compact ones.
-/
namespace Dialogue.Json

/-- What stands between two items and between a name and its value. -/
structure Separators where
  item : String
  pair : String

def Separators.spaced : Separators := ⟨", ", ": "⟩

def Separators.compact : Separators := ⟨",", ":"⟩

def escapeChar (c : Char) : List Char :=
  if c = '"' ∨ c = '\\' then ['\\', c]
  else if c = '\n' then ['\\', 'n']
  else if c = '\r' then ['\\', 'r']
  else if c = '\t' then ['\\', 't']
  else if c = '\x08' then ['\\', 'b']
  else if c = '\x0c' then ['\\', 'f']
  else if c.toNat < 0x20 then '\\' :: 'u' :: Text.hex 4 c.toNat
  else [c]

def writeText (s : String) : String :=
  String.ofList ('"' :: s.toList.flatMap escapeChar ++ ['"'])

def writeFloat : Number.Binary64 → String
  | .nan => "NaN"
  | .infinite negative => if negative then "-Infinity" else "Infinity"
  | x => x.text

mutual

def write (sep : Separators) : Json → String
  | null => "null"
  | bool b => if b then "true" else "false"
  | int n => toString n
  | float x => writeFloat x
  | str s => writeText s
  | list items => "[" ++ sep.item.intercalate (writeItems sep items) ++ "]"
  | object fields => "\x7b" ++ sep.item.intercalate (writeFields sep fields) ++ "\x7d"

def writeItems (sep : Separators) : List Json → List String
  | [] => []
  | v :: rest => write sep v :: writeItems sep rest

def writeFields (sep : Separators) : List (String × Json) → List String
  | [] => []
  | (name, v) :: rest => (writeText name ++ sep.pair ++ write sep v) :: writeFields sep rest

end

def spaced (v : Json) : String := v.write .spaced

mutual

/-- Whether every double in the value is a finite number. -/
def isFinite : Json → Bool
  | float x => x.isFinite
  | list items => finiteItems items
  | object fields => finiteFields fields
  | _ => true

def finiteItems : List Json → Bool
  | [] => true
  | v :: rest => isFinite v && finiteItems rest

def finiteFields : List (String × Json) → Bool
  | [] => true
  | (_, v) :: rest => isFinite v && finiteFields rest

end

end Dialogue.Json
