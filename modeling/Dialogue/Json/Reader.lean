import Dialogue.Json.Limits
import Dialogue.Text.Hex

/-!
# Reading JSON texts

Beside the standard grammar the reader takes `NaN`, `Infinity` and `-Infinity`. Of two fields of
one name the first gives the place and the last the value. Integers of too many digits and values
nested too deep are refused. A failure says what was expected and how much of the text was left.
-/
namespace Dialogue.Json

inductive Complaint where
  | value | name | colon | comma | extra | unterminated | control | escape | unicodeEscape
  | byteOrderMark
  | longInteger (digits : Nat)
  | deepList | deepObject
  deriving DecidableEq

def Complaint.message : Complaint → String
  | value => "Expecting value"
  | name => "Expecting property name enclosed in double quotes"
  | colon => "Expecting \x27:\x27 delimiter"
  | comma => "Expecting \x27,\x27 delimiter"
  | extra => "Extra data"
  | unterminated => "Unterminated string starting at"
  | control => "Invalid control character at"
  | escape => "Invalid \\escape"
  | unicodeEscape => "Invalid \\uXXXX escape"
  | byteOrderMark => "Unexpected UTF-8 BOM (decode using utf-8-sig)"
  | longInteger digits => Number.longIntegerMessage digits
  | deepList => "maximum recursion depth exceeded while decoding a JSON array from a unicode string"
  | deepObject =>
    "maximum recursion depth exceeded while decoding a JSON object from a unicode string"

/-- What is wrong with the grammar has a place in the text; what is too large has none. -/
def Complaint.hasPlace : Complaint → Bool
  | longInteger _ | deepList | deepObject => false
  | _ => true

/-- Whether a value went beyond the depth that can be read. -/
def Complaint.isDepth (c : Complaint) : Bool := c = deepList || c = deepObject

/-- A failure to read: what was wrong, and the number of characters from there to the end. -/
structure Misread where
  complaint : Complaint
  left : Nat
  deriving DecidableEq

def misread {α : Type} (complaint : Complaint) (rest : List Char) :
    Except Misread (α × List Char) :=
  .error ⟨complaint, rest.length⟩

def isSpace (c : Char) : Bool := c = ' ' || c = '\t' || c = '\n' || c = '\r'

def skip (cs : List Char) : List Char := cs.dropWhile isSpace

/-- The code unit of four hexadecimal digits, which may not be the last characters of the text. -/
def unit? : List Char → Option (Nat × List Char)
  | a :: b :: c :: d :: rest =>
    if rest.isEmpty then none
    else do
      let a ← Text.hexValue? a
      let b ← Text.hexValue? b
      let c ← Text.hexValue? c
      let d ← Text.hexValue? d
      some (((a * 16 + b) * 16 + c) * 16 + d, rest)
  | _ => none

def simpleEscape? (c : Char) : Option Char :=
  if c = '"' ∨ c = '\\' ∨ c = '/' then some c
  else if c = 'b' then some '\x08'
  else if c = 'f' then some '\x0c'
  else if c = 'n' then some '\n'
  else if c = 'r' then some '\r'
  else if c = 't' then some '\t'
  else none

/-- The rest of a text after its opening quote. `opening` is what was left at that quote. -/
def readText (opening : List Char) :
    Nat → List Char → List Char → Except Misread (String × List Char)
  | 0, _, _ => misread .unterminated opening
  | fuel + 1, acc, cs =>
    match cs with
    | [] => misread .unterminated opening
    | '"' :: rest => .ok (String.ofList acc.reverse, rest)
    | '\\' :: rest =>
      match rest with
      | [] => misread .unterminated opening
      | 'u' :: digits =>
        match unit? digits with
        | none => misread .unicodeEscape rest
        | some (high, after) =>
          if 0xd800 ≤ high ∧ high < 0xdc00 then
            match after with
            | '\\' :: 'u' :: more =>
              match unit? more with
              | none => if more.length ≤ 4 then readText opening fuel ('\ufffd' :: acc) after
                else misread .unicodeEscape (after.drop 1)
              | some (low, end_) =>
                if 0xdc00 ≤ low ∧ low < 0xe000 then
                  readText opening fuel
                    (Char.ofNat (0x10000 + (high - 0xd800) * 0x400 + (low - 0xdc00)) :: acc) end_
                else readText opening fuel ('\ufffd' :: acc) after
            | _ => readText opening fuel ('\ufffd' :: acc) after
          else if 0xdc00 ≤ high ∧ high < 0xe000 then readText opening fuel ('\ufffd' :: acc) after
          else readText opening fuel (Char.ofNat high :: acc) after
      | c :: after =>
        match simpleEscape? c with
        | some d => readText opening fuel (d :: acc) after
        | none => misread .escape cs
    | c :: rest =>
      if c.toNat < 0x20 then misread .control cs else readText opening fuel (c :: acc) rest

def startsWith? : List Char → List Char → Option (List Char)
  | [], cs => some cs
  | p :: ps, c :: cs => if p = c then startsWith? ps cs else none
  | _ :: _, [] => none

/-- The digits after a point, if a point with a digit after it comes next. -/
def fractionOf : List Char → List Char × List Char
  | '.' :: c :: rest =>
    if c.isDigit then (c :: rest.takeWhile Char.isDigit, rest.dropWhile Char.isDigit)
    else ([], '.' :: c :: rest)
  | cs => ([], cs)

/-- The power of ten, if a mark with a digit after it comes next. -/
def powerOf (cs : List Char) : Option Int × List Char :=
  match cs with
  | e :: rest =>
    if e = 'e' ∨ e = 'E' then
      let (negative, ds) := match rest with
        | '-' :: ds => (true, ds)
        | '+' :: ds => (false, ds)
        | ds => (false, ds)
      let digits := ds.takeWhile Char.isDigit
      if digits.isEmpty then (none, cs)
      else
        let n : Int := Number.natOfDigits digits
        (some (if negative then -n else n), ds.dropWhile Char.isDigit)
    else (none, cs)
  | [] => (none, [])

/-- A number: an integer unless it has a fraction or a power of ten. -/
def readNumber (cs : List Char) : Except Misread (Json × List Char) :=
  let (negative, body) := match cs with
    | '-' :: r => (true, r)
    | r => (false, r)
  let whole := match body with
    | '0' :: _ => ['0']
    | r => r.takeWhile Char.isDigit
  if whole.isEmpty then misread .value cs
  else
    let (fraction, rest) := fractionOf (body.drop whole.length)
    let (power, rest) := powerOf rest
    if fraction.isEmpty && power.isNone then
      if Number.digitLimit < whole.length then misread (.longInteger whole.length) cs
      else
        let n : Int := Number.natOfDigits whole
        .ok (.int (if negative then -n else n), rest)
    else
      .ok (.float (.ofDecimal negative (Number.natOfDigits (whole ++ fraction))
        (power.getD 0 - fraction.length)), rest)

def words : List (List Char × Json) :=
  [("null".toList, .null), ("true".toList, .bool true), ("false".toList, .bool false),
   ("NaN".toList, .float .nan), ("Infinity".toList, .float (.infinite false)),
   ("-Infinity".toList, .float (.infinite true))]

def readWord? (cs : List Char) : Option (Json × List Char) :=
  words.findSome? fun (w, v) => (startsWith? w cs).map (v, ·)

mutual

/-- A value at the start of the text, which begins with no blank. `depth` more lists and objects
may be opened. -/
def readValue : Nat → Nat → List Char → Except Misread (Json × List Char)
  | 0, _, cs => misread .value cs
  | fuel + 1, depth, cs =>
    match cs with
    | [] => misread .value []
    | '"' :: rest => do
      let (s, rest) ← readText cs (rest.length + 1) [] rest
      pure (.str s, rest)
    | '[' :: rest =>
      if depth = 0 then misread .deepList cs
      else match skip rest with
        | ']' :: rest => .ok (.list [], rest)
        | rest => do
          let (items, rest) ← readItems fuel (depth - 1) rest
          pure (.list items, rest)
    | '\x7b' :: rest =>
      if depth = 0 then misread .deepObject cs
      else match skip rest with
        | '\x7d' :: rest => .ok (.object [], rest)
        | rest => do
          let (fields, rest) ← readFields fuel (depth - 1) rest
          pure (.object (Bindings.ofList fields), rest)
    | _ =>
      match readWord? cs with
      | some r => .ok r
      | none => readNumber cs

/-- The items of a list up to its bracket. -/
def readItems : Nat → Nat → List Char → Except Misread (List Json × List Char)
  | 0, _, cs => misread .value cs
  | fuel + 1, depth, cs => do
    let (v, rest) ← readValue fuel depth cs
    match skip rest with
    | ']' :: rest => pure ([v], rest)
    | ',' :: rest => do
      let (vs, rest) ← readItems fuel depth (skip rest)
      pure (v :: vs, rest)
    | rest => misread .comma rest

/-- The fields of an object up to its brace. -/
def readFields : Nat → Nat → List Char → Except Misread (List (String × Json) × List Char)
  | 0, _, cs => misread .name cs
  | fuel + 1, depth, cs =>
    match cs with
    | '"' :: body => do
      let (name, rest) ← readText cs (body.length + 1) [] body
      match skip rest with
      | ':' :: rest => do
        let (v, rest) ← readValue fuel depth (skip rest)
        match skip rest with
        | '\x7d' :: rest => pure ([(name, v)], rest)
        | ',' :: rest => do
          let (fs, rest) ← readFields fuel depth (skip rest)
          pure ((name, v) :: fs, rest)
        | rest => misread .comma rest
      | rest => misread .colon rest
    | _ => misread .name cs

end

/-- The value of a whole text. -/
def read (cs : List Char) : Except Misread Json :=
  match cs with
  | '\ufeff' :: _ => .error ⟨.byteOrderMark, cs.length⟩
  | _ => do
    let (v, rest) ← readValue (2 * cs.length + 2) depthLimit (skip cs)
    match skip rest with
    | [] => pure v
    | rest => .error ⟨.extra, rest.length⟩

def parse (s : String) : Except Misread Json := read s.toList

/-- The complaint, with the line, the column and the offset of its place in the text. -/
def Misread.message (m : Misread) (cs : List Char) : String :=
  if m.complaint.hasPlace then
    let before := cs.take (cs.length - m.left)
    let line := before.count '\n' + 1
    let column := (before.reverse.takeWhile (· ≠ '\n')).length + 1
    s!"{m.complaint.message}: line {line} column {column} (char {before.length})"
  else m.complaint.message

end Dialogue.Json
