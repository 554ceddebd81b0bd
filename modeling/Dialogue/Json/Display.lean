import Dialogue.Json.Basic
import Dialogue.Number.Layout
import Dialogue.Text.Quoted

/-!
# Values in running text

The text of a value inside a sentence, and the text of a variable in a message. They differ on
null, on truth values and on whole numbers.
-/
namespace Dialogue.Json

mutual

/-- A value inside a list or a record: texts stand between quotes. -/
def quoted : Json → String
  | null => "None"
  | bool b => if b then "True" else "False"
  | int n => toString n
  | float x => x.text
  | str s => Text.quote s
  | list items => "[" ++ ", ".intercalate (quotedItems items) ++ "]"
  | object fields => "\x7b" ++ ", ".intercalate (quotedFields fields) ++ "\x7d"

def quotedItems : List Json → List String
  | [] => []
  | v :: rest => quoted v :: quotedItems rest

def quotedFields : List (String × Json) → List String
  | [] => []
  | (name, v) :: rest => (Text.quote name ++ ": " ++ quoted v) :: quotedFields rest

end

/-- A record whose values are given by their texts. -/
def recordText (fields : List (String × String)) : String :=
  "\x7b" ++ ", ".intercalate (fields.map fun f => Text.quote f.1 ++ ": " ++ f.2) ++ "\x7d"

/-- A value by itself: a text is shown as it is. -/
def display : Json → String
  | str s => s
  | v => quoted v

/-- A variable in a message: nothing for null, and a whole double without its point. -/
def spoken : Json → String
  | null => ""
  | bool b => if b then "true" else "false"
  | float x => match x.toInt? with
    | some n => toString n
    | none => x.text
  | v => v.display

end Dialogue.Json
