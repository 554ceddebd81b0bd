import Dialogue.Console.Colour
import Dialogue.Text.Blank

/-!
# Names of styles

A style is a set of attributes, a colour, a background and a link. Styles that are the same have
one normal name; a name that is no style stands for itself, in lower case.
-/
namespace Dialogue.Console

structure Style where
  /-- Attributes that are set, and whether they are switched on. -/
  attributes : List (String × Bool) := []
  colour : Option String := none
  background : Option String := none
  link : Option String := none
  deriving DecidableEq

namespace Style

/-- The attributes with their short names, in the order of a normal name. -/
def attributeNames : List (String × List String) :=
  [("bold", ["b"]), ("dim", ["d"]), ("italic", ["i"]), ("underline", ["u"]), ("blink", []),
    ("blink2", []), ("reverse", ["r"]), ("conceal", ["c"]), ("strike", ["s"]),
    ("underline2", ["uu"]), ("frame", []), ("encircle", []), ("overline", ["o"])]

def attribute? (word : String) : Option String :=
  (attributeNames.find? fun a => a.1 = word || a.2.contains word).map (·.1)

/-- The style that words describe, on top of one that is there already. -/
def ofWords : Style → List String → Except ColourError Style
  | s, [] => .ok s
  | s, word :: rest =>
    match Text.lower word, rest with
    | "on", name :: rest => do
      let name ← readColour name
      ofWords { s with background := some name } rest
    | "on", [] => .error .unknown
    | "not", name :: rest =>
      match attribute? name with
      | some a => ofWords { s with attributes := (a, false) :: s.attributes } rest
      | none => .error .unknown
    | "link", target :: rest => ofWords { s with link := some target } rest
    | word, rest =>
      match attribute? word with
      | some a => ofWords { s with attributes := (a, true) :: s.attributes } rest
      | none => do
        let name ← readColour word
        ofWords { s with colour := some name } rest

/-- The words of a normal name. -/
def words (s : Style) : List String :=
  (attributeNames.filterMap fun a =>
    (s.attributes.find? (·.1 = a.1)).map fun set => if set.2 then a.1 else "not " ++ a.1)
  ++ s.colour.toList
  ++ (match s.background with
    | some c => ["on", c]
    | none => [])
  ++ (match s.link with
    | some l => ["link", l]
    | none => [])

def name (s : Style) : String := if s.words = [] then "none" else " ".intercalate s.words

/-- The style that a text names. -/
def read (text : String) : Except ColourError Style :=
  let words := (Text.wordsOf text.toList []).map String.ofList
  if words = ["none"] then .ok {} else ofWords {} words

/-- The normal name of the style that a text names, unless a number in it cannot be read. -/
def normalName (text : String) : Except NumberFault String :=
  match read text with
  | .ok s => .ok s.name
  | .error .unknown => .ok (Text.lower (Text.trim text))
  | .error (.number f) => .error f

/-- What keeps a text from being shown in the style that another one names. A name of no style
is passed over. -/
def fault? (text : String) : Option NumberFault :=
  match read text with
  | .error (.number f) => some f
  | _ => none

end Style
end Dialogue.Console
