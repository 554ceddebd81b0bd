import Dialogue.Text.Digit
import Dialogue.Text.Hex
import Dialogue.Text.Printable
import Dialogue.Text.Word

/-!
# Words of a literal

The parameters of an action are written as literals: names, numbers, quoted texts and signs. Here
they are cut into these words; brackets have to match as far as they are closed.
-/
namespace Dialogue.Console

inductive Lexeme where
  | name (s : String)
  | number (imaginary : Bool)
  /-- A quoted text, with the letters before the quote in lower case. -/
  | text (marks : String)
  | sign (s : String)
  /-- The end of a line outside of all brackets. -/
  | lineEnd
  deriving DecidableEq

/-- What is wrong with the words of a literal. -/
inductive LexemeError where
  | unmatched (closing : Char)
  | mismatch (closing opening : Char)
  | tooDeep
  | openText (line : Nat)
  | openLongText (line : Nat)
  | nonAsciiBytes
  | afterBackslash
  | badNumber (kind : String)
  | badDigit (digit : Char) (kind : String)
  | leadingZeros
  | badChar (c : Char)
  | unprintable (c : Char)
  deriving DecidableEq

/-- The code point of a character, as messages write it. -/
def codePoint (c : Char) : String := "U+" ++ String.ofList ((Text.hex 4 c.toNat).map Char.toUpper)

def LexemeError.message : LexemeError → String
  | unmatched c => s!"unmatched \x27{c}\x27"
  | mismatch c o => s!"closing parenthesis \x27{c}\x27 does not match opening parenthesis \x27{o}\x27"
  | tooDeep => "too many nested parentheses"
  | openText line => s!"unterminated string literal (detected at line {line})"
  | openLongText line => s!"unterminated triple-quoted string literal (detected at line {line})"
  | nonAsciiBytes => "bytes can only contain ASCII literal characters"
  | afterBackslash => "unexpected character after line continuation character"
  | badNumber kind => s!"invalid {kind} literal"
  | badDigit digit kind => s!"invalid digit \x27{digit}\x27 in {kind} literal"
  | leadingZeros => "leading zeros in decimal integer literals are not permitted; "
      ++ "use an 0o prefix for octal integers"
  | badChar c => s!"invalid character \x27{c}\x27 ({codePoint c})"
  | unprintable c => "invalid non-printable character " ++ codePoint c

/-- Characters that a name may hold, or that may be meant for one. -/
def inName (c : Char) : Bool := c.isAlphanum || c = '_' || 128 ≤ c.toNat

/-- Whether a word follows that may stand behind a number without a blank. Two letters are enough
for the shortest of them. -/
def mayFollowNumber (rest : List Char) : Bool :=
  ["if", "in", "is"].any (fun w => w.toList.isPrefixOf rest)
    || ["and", "else", "for", "or", "not"].any fun w =>
      w.toList.isPrefixOf rest && !(rest.drop w.length).head?.any inName

/-- Checks that no name begins directly behind a number. -/
def endNumber (kind : String) (rest : List Char) : Except LexemeError Unit :=
  if rest.head?.any (fun c => inName c && c.toNat < 128) && !mayFollowNumber rest
  then .error (.badNumber kind) else .ok ()

/-- The rest of digits with single underscores between them; none where one is missing. -/
def digitsOf (isDigit : Char → Bool) : List Char → Option (List Char)
  | [] => none
  | c :: rest =>
    if !isDigit c then none
    else match rest with
      | '_' :: more => digitsOf isDigit more
      | more => if more.head?.any isDigit then digitsOf isDigit more else some more

/-- The rest behind a number in another base, after its two first characters. -/
def basedNumber (kind : String) (isDigit : Char → Bool) (cs : List Char) :
    Except LexemeError (List Char) :=
  let body := match cs with
    | '_' :: more => more
    | more => more
  match digitsOf isDigit body with
  | some rest =>
    match rest with
    | d :: _ => if d.isDigit then .error (.badDigit d kind)
      else (fun _ => rest) <$> endNumber kind rest
    | [] => .ok []
  | none => match body with
    | d :: _ => if d.isDigit then .error (.badDigit d kind) else .error (.badNumber kind)
    | [] => .error (.badNumber kind)

/-- The rest behind the exponent of a number, if there is one. -/
def skipExponent (cs : List Char) : Except LexemeError (List Char) :=
  match cs with
  | e :: rest =>
    if e = 'e' ∨ e = 'E' then
      let digits := match rest with
        | '+' :: ds => ds
        | '-' :: ds => ds
        | ds => ds
      if digits.head?.any Char.isDigit then
        match digitsOf Char.isDigit digits with
        | some rest => .ok rest
        | none => .error (.badNumber "decimal")
      else if digits.length < rest.length then .error (.badNumber "decimal")
      else .ok cs
    else .ok cs
  | [] => .ok []

/-- Ends a number that may be imaginary. -/
def endDecimal (cs : List Char) : Except LexemeError (Lexeme × List Char) := do
  match cs with
  | 'j' :: rest | 'J' :: rest => do
    endNumber "imaginary" rest
    pure (.number true, rest)
  | rest => do
    endNumber "decimal" rest
    pure (.number false, rest)

/-- The fraction and the exponent behind a point. -/
def readFraction (cs : List Char) : Except LexemeError (Lexeme × List Char) := do
  let rest ←
    if cs.head?.any Char.isDigit then
      match digitsOf Char.isDigit cs with
      | some rest => pure rest
      | none => throw (.badNumber "decimal")
    else pure cs
  endDecimal (← skipExponent rest)

/-- A number, which begins with a digit. -/
def readDecimal (cs : List Char) : Except LexemeError (Lexeme × List Char) := do
  match digitsOf Char.isDigit cs with
  | none => throw (.badNumber "decimal")
  | some rest =>
    let whole := (cs.take (cs.length - rest.length)).filter (· ≠ '_')
    match rest with
    | '.' :: fraction => readFraction fraction
    | rest =>
      let after ← skipExponent rest
      if after.length = rest.length && after.head? ≠ some 'j' && after.head? ≠ some 'J'
        && whole.head? = some '0' && whole.any (· ≠ '0') then throw .leadingZeros
      endDecimal after

def readNumber (cs : List Char) : Except LexemeError (Lexeme × List Char) :=
  let based (kind : String) (isDigit : Char → Bool) (rest : List Char) :=
    ((Lexeme.number false, ·)) <$> basedNumber kind isDigit rest
  match cs with
  | '0' :: x :: rest =>
    if x = 'x' ∨ x = 'X' then based "hexadecimal" (fun c => (Text.hexValue? c).isSome) rest
    else if x = 'o' ∨ x = 'O' then based "octal" (fun c => '0' ≤ c && c < '8') rest
    else if x = 'b' ∨ x = 'B' then based "binary" (fun c => c = '0' || c = '1') rest
    else readDecimal cs
  | cs => readDecimal cs

/-- The rest behind a quoted text of one line. -/
def endText (quote : Char) : List Char → Option (List Char)
  | [] => none
  | '\n' :: _ => none
  | '\\' :: _ :: rest => endText quote rest
  | c :: rest => if c = quote then some rest else endText quote rest

/-- The rest behind a quoted text that ends with three quotes. -/
def endLongText (quote : Char) : List Char → Option (List Char)
  | [] => none
  | '\\' :: _ :: rest => endLongText quote rest
  | c :: rest =>
    if c = quote && rest.take 2 = [quote, quote] then some (rest.drop 2) else endLongText quote rest

/-- A quoted text behind its first quote. -/
def readQuoted (marks : String) (quote : Char) (line : Nat) (cs : List Char) :
    Except LexemeError (Lexeme × List Char) := do
  let rest ←
    if cs.take 2 = [quote, quote] then
      match endLongText quote (cs.drop 2) with
      | some rest => pure rest
      | none => throw (.openLongText (line + cs.count '\n'))
    else match endText quote cs with
      | some rest => pure rest
      | none => throw (.openText line)
  let held := cs.take (cs.length - rest.length)
  if marks.contains 'b' && held.any (128 ≤ ·.toNat) then throw .nonAsciiBytes
  pure (.text marks, rest)

/-- The letters that may stand before a quote. -/
def textMarks : List String := ["", "r", "b", "u", "f", "rb", "br", "rf", "fr"]

/-- Signs of several characters, the longer ones first. -/
def longSigns : List String :=
  ["...", "**=", "//=", ">>=", "<<=", "**", "//", ">>", "<<", "==", "!=", "<=", ">=", "<>", "->",
    "+=", "-=", "*=", "/=", "%=", "&=", "|=", "^=", "@=", ":="]

def opening? (c : Char) : Option Char :=
  [(')', '('), ('\x7d', '\x7b')].lookup c

/-- The words of a text and the brackets that stay open, the innermost first. A line end counts
only outside of brackets. -/
def lexemes : Nat → List Char → Nat → List Char → Except LexemeError (List Lexeme × List Char)
  | 0, opened, _, _ => .ok ([], opened)
  | fuel + 1, opened, line, cs =>
    let go (l : Lexeme) (opened rest : List Char) := do
      let (ls, still) ← lexemes fuel opened line rest
      pure (l :: ls, still)
    match cs with
    | [] => .ok ([], opened)
    | '\n' :: rest => do
      let (ls, still) ← lexemes fuel opened (line + 1) rest
      pure (if opened = [] && rest ≠ [] then .lineEnd :: ls else ls, still)
    | ' ' :: rest | '\t' :: rest | '\x0c' :: rest => lexemes fuel opened line rest
    | '#' :: rest => lexemes fuel opened line (rest.dropWhile (· ≠ '\n'))
    | '\\' :: '\n' :: rest => lexemes fuel opened (line + 1) rest
    | '\\' :: _ => .error .afterBackslash
    | c :: rest =>
      if c.isDigit || (c = '.' && rest.head?.any Char.isDigit) then do
        let (l, rest) ← if c = '.' then readFraction rest else readNumber cs
        go l opened rest
      else if c = '\x27' ∨ c = '"' then do
        let (l, rest) ← readQuoted "" c line rest
        go l opened rest
      else if inName c then
        let name := cs.takeWhile inName
        let after := cs.drop name.length
        let marks := (String.ofList name).map Char.toLower
        match after with
        | q :: body =>
          if (q = '\x27' ∨ q = '"') && textMarks.contains marks then do
            let (l, rest) ← readQuoted marks q line body
            go l opened rest
          else match name.find? fun d => 128 ≤ d.toNat && !Text.isWord d with
            | some d => .error (if Text.isPrintable d then .badChar d else .unprintable d)
            | none => go (.name (String.ofList name)) opened after
        | [] => match name.find? fun d => 128 ≤ d.toNat && !Text.isWord d with
          | some d => .error (if Text.isPrintable d then .badChar d else .unprintable d)
          | none => go (.name (String.ofList name)) opened after
      else if c = '(' ∨ c = '\x7b' then
        if 200 ≤ opened.length then .error .tooDeep
        else go (.sign (String.singleton c)) (c :: opened) rest
      else match opening? c with
        | some o =>
          match opened with
          | [] => .error (.unmatched c)
          | p :: outer =>
            if p = o then go (.sign (String.singleton c)) outer rest else .error (.mismatch c p)
        | none =>
          match longSigns.find? fun s => s.toList.isPrefixOf cs with
          | some s => go (.sign s) opened (cs.drop s.length)
          | none =>
            if Text.isPrintable c then go (.sign (String.singleton c)) opened rest
            else .error (.unprintable c)

end Dialogue.Console
