import Dialogue.Console.Emoji
import Dialogue.Console.Literal
import Dialogue.Console.Styled
import Dialogue.Json.Limits
import Dialogue.Text.Quoted

/-!
# Markup

A text with markup has tags in square brackets that style what comes after them and are not shown
themselves. A backslash before a tag makes it plain text. A closing tag needs an open one, and the
parameters of an action are to be a literal. Names between colons are shown as emoji.
-/
namespace Dialogue.Console

/-- What a text with markup is cut into. -/
inductive Mark where
  | plain (c : Char)
  /-- Brackets around a text, and the number of backslashes before them. -/
  | tag (backslashes : Nat) (body : List Char)
  deriving DecidableEq

/-- The characters a mark was cut from. -/
def Mark.source : Mark → List Char
  | plain c => [c]
  | tag n body => List.replicate n '\\' ++ '[' :: body ++ [']']

/-- The characters a tag may begin with; other brackets are plain text. -/
def startsTag (c : Char) : Bool := ('a' ≤ c && c ≤ 'z') || c = '#' || c = '/' || c = '@'

/-- The tag that a text starts with, after its backslashes. -/
def tagAt? (cs : List Char) : Option (Nat × List Char) :=
  let backslashes := (cs.takeWhile (· = '\\')).length
  match cs.drop backslashes with
  | '[' :: rest =>
    let body := rest.takeWhile fun c => c ≠ '[' && c ≠ ']'
    if body.head?.any startsTag && rest[body.length]? = some ']' then some (backslashes, body)
    else none
  | _ => none

/-- The marks of a text without its first `skip` characters. -/
def marksAfter : Nat → List Char → List Mark
  | _, [] => []
  | skip + 1, _ :: rest => marksAfter skip rest
  | 0, c :: rest =>
    match tagAt? (c :: rest) with
    | some (n, body) => .tag n body :: marksAfter (n + body.length + 1) rest
    | none => .plain c :: marksAfter 0 rest

def marks (cs : List Char) : List Mark := marksAfter 0 cs

theorem marksAfter_eq (skip : Nat) (cs : List Char) :
    marksAfter skip cs = marks (cs.drop skip) := by
  induction skip generalizing cs with
  | zero => rfl
  | succ n ih => cases cs with
    | nil => rfl
    | cons c rest => exact ih rest

/-- Why a text with markup cannot be shown. Positions count characters of the text. -/
inductive MarkupError where
  | nothingToClose (position : Nat)
  | unmatched (tag : String) (position : Nat)
  /-- The parameters of an action are no literal. -/
  | badParameters (given : String) (taken : String) (e : LiteralError)
  deriving DecidableEq

def MarkupError.message : MarkupError → String
  | nothingToClose position =>
    s!"closing tag \x27[/]\x27 at position {position} has nothing to close"
  | unmatched tag position =>
    s!"closing tag \x27[{tag}]\x27 at position {position} doesn\x27t match any open tag"
  | badParameters given taken (.unreadable m) =>
    s!"error parsing {Text.quote taken} in {Text.quote given}; {m}"
  | badParameters given _ (.refused m) => s!"error parsing {Text.quote given}; {m}"

/-- Why something cannot be shown: its markup is bad, or a number in a style of it, or it needs a
value that has no text. -/
inductive ShowError where
  | markup (e : MarkupError)
  | number (f : NumberFault)
  | untold (f : TextFault)
  deriving DecidableEq

def ShowError.message : ShowError → String
  | markup e => e.message
  | number f => f.message
  | untold f => f.writing

/-- What a text with markup is read as: stretches of text, and tags with their places. -/
inductive Stretch where
  | text (cs : List Char)
  | tag (position : Nat) (body : List Char)
  deriving DecidableEq

/-- Takes away backslashes before brackets. -/
def withoutEscapes : List Char → List Char
  | '\\' :: '[' :: rest => '[' :: withoutEscapes rest
  | c :: rest => c :: withoutEscapes rest
  | [] => []

/-- Marks as stretches, from a position on. The current stretch of text is at hand in reverse. Of
two backslashes before a tag one is shown, and after an odd number of them the tag itself. -/
def stretches (position : Nat) (part : List Char) : List Mark → List Stretch
  | [] => [.text part.reverse]
  | .plain c :: rest => stretches (position + 1) (c :: part) rest
  | .tag n body :: rest =>
    let next := position + n + body.length + 2
    .text part.reverse :: .text (List.replicate (n / 2) '\\')
      :: (if n % 2 = 1 then .text ('[' :: body ++ [']']) else .tag (position + n) body)
      :: stretches next [] rest

/-- A tag that is open: its name and parameters, and the characters before it. -/
structure OpenTag where
  name : String
  parameters : Option String
  start : Nat
  deriving DecidableEq

/-- The style that a tag asks for. -/
def OpenTag.style (t : OpenTag) : String :=
  match t.parameters with
  | some p => t.name ++ " " ++ p
  | none => t.name

/-- The parameters of an action, without the name of the handler before them. -/
def handlerParameters (cs : List Char) : List Char :=
  match cs.dropWhile fun c => Text.isWord c || c = '.' with
  | [] => ['(', ')']
  | '(' :: rest => if rest.getLast? = some ')' && !rest.contains '\n' then '(' :: rest else cs
  | _ => cs

/-- Checks the parameters of an action. -/
def OpenTag.checkAction (t : OpenTag) : Except MarkupError Unit :=
  let given := t.parameters.getD ""
  if given = "" then .ok ()
  else
    let taken := handlerParameters (Text.trimChars given.toList)
    (checkLiteral taken).mapError (.badParameters given (String.ofList taken))

/-- A text with markup, half read: what it shows, in reverse, the open tags, the latest first, and
the faulty styles of tags that are closed, the latest first. -/
structure Reading where
  shown : List Char := []
  tags : List OpenTag := []
  spans : List FaultySpan := []

namespace Reading

/-- Puts the style of a tag on what has been shown since. -/
def span (r : Reading) (t : OpenTag) : Reading :=
  match Style.fault? t.style with
  | some f => { r with spans := ⟨t.start, r.shown.length, f⟩ :: r.spans }
  | none => r

/-- Ends a tag. An action is no style. -/
def close (r : Reading) (t : OpenTag) : Except ShowError Reading := do
  let r := { r with tags := r.tags.erase t }
  if t.name.startsWith "@" then
    t.checkAction.mapError .markup
    pure r
  else pure (r.span t)

def takeTag (r : Reading) (position : Nat) (body : List Char) : Except ShowError Reading := do
  let name := body.takeWhile (· ≠ '=')
  match name with
  | '/' :: closed =>
    let closed := Text.trim (String.ofList closed)
    if closed = "" then
      match r.tags with
      | [] => throw (.markup (.nothingToClose position))
      | t :: _ => r.close t
    else
      let closed ← (Style.normalName closed).mapError .number
      match r.tags.find? (·.name = closed) with
      | none => throw (.markup (.unmatched (String.ofList body) position))
      | some t => r.close t
  | name =>
    let normal ← (Style.normalName (String.ofList name)).mapError .number
    let parameters :=
      if name.length < body.length then some (String.ofList (body.drop (name.length + 1))) else none
    pure { r with tags := ⟨normal, parameters, r.shown.length⟩ :: r.tags }

def take (r : Reading) : Stretch → Except ShowError Reading
  | .text cs =>
    let shown := (withEmoji (withoutEscapes cs)).filter (!isHidden ·)
    .ok { r with shown := shown.reverse ++ r.shown }
  | .tag position body => r.takeTag position body

/-- Ends all tags that are still open. -/
def finish (r : Reading) : Styled :=
  let r := r.tags.foldl span r
  Styled.ofSpans r.shown.reverse (r.spans.mergeSort fun a b => a.start ≤ b.start)

end Reading

/-- What a text with markup shows. -/
def ofMarkup (text : String) : Except ShowError Styled := do
  let r ← (stretches 0 [] (marks text.toList)).foldlM Reading.take {}
  pure r.finish

def Mark.escaped : Mark → List Char
  | plain c => [c]
  | tag n body => (Mark.tag (2 * n + 1) body).source

/-- A text whose markup shows its tags. A lone backslash at the end is doubled, for a tag may
follow. -/
def escape (text : String) : String :=
  let escaped := (marks text.toList).flatMap Mark.escaped
  let lone := escaped.getLast? = some '\\' && escaped.dropLast.getLast? ≠ some '\\'
  String.ofList (if lone then escaped ++ ['\\'] else escaped)

end Dialogue.Console
