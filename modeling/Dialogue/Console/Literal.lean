import Dialogue.Console.Lexeme

/-!
# Literals

The parameters of an action are a literal: a constant, or a tuple, a set or a record of literals.
What reads as an expression but is more than a literal is refused as well, and the complaint about
what does not read at all says what might have been meant.
-/
namespace Dialogue.Console

/-- What an expression is, as far as complaints tell. -/
inductive Shape where
  | name | truth | literal | number (imaginary : Bool) | signed (imaginary : Bool) | tuple | record
  | set | call | member | operation | comparison | conditional
  deriving DecidableEq

/-- What messages call an expression that cannot be assigned to. -/
def Shape.title : Shape → String
  | name => "name"
  | truth => "True"
  | literal | number _ => "literal"
  | tuple => "tuple"
  | record => "dict literal"
  | set => "set display"
  | call => "function call"
  | member => "attribute"
  | operation | signed _ => "expression"
  | comparison => "comparison"
  | conditional => "conditional expression"

/-- An expression: its shape, why it is no literal if it is none, and whether it may be in a set. -/
structure Part where
  shape : Shape
  refusal : Option String := none
  hashable : Bool := true

def malformed : String := "malformed node or string on line 1"

/-- An expression that is more than a literal. -/
def Part.beyond (shape : Shape) : Part := ⟨shape, some malformed, true⟩

/-- Values in a row: what refuses the first one goes first. -/
def Part.and (p q : Part) (shape : Shape) : Part :=
  ⟨shape, p.refusal.orElse fun _ => q.refusal, p.hashable && q.hashable⟩

/-- A value that is put into a set or taken as a key. -/
def Part.asKey (p : Part) : Part :=
  if p.hashable then p
  else
    let kind := if p.shape = .record then "dict" else "set"
    { p with refusal := p.refusal.orElse fun _ => some s!"unhashable type: \x27{kind}\x27" }

/-- Why an expression cannot be read: with a certain complaint, or at the words that are left. -/
inductive Halt where
  | complaint (message : String)
  | unexpected (rest : List Lexeme)

abbrev Parse := Except Halt (Part × List Lexeme)

def generalComplaint : String := "invalid syntax"

def missingComma : String := "invalid syntax. Perhaps you forgot a comma?"

/-- Names that are no names of values. -/
def keywords : List String :=
  ["and", "as", "assert", "async", "await", "break", "class", "continue", "def", "del", "elif",
    "else", "except", "finally", "for", "from", "global", "if", "import", "in", "is", "lambda",
    "nonlocal", "not", "or", "pass", "raise", "return", "try", "while", "with", "yield"]

/-- Names that begin statements in some places. -/
def softKeywords : List String := ["_", "case", "match"]

/-- Names that once began statements. -/
def legacyStatements : List String := ["print", "exec"]

def legacyComplaint (s : String) : String :=
  s!"Missing parentheses in call to \x27{s}\x27. Did you mean {s}(...)?"

/-- Whether words may begin something else than an expression. -/
def mayBeginOther : List Lexeme → Bool
  | .name s :: .text _ :: _ => softKeywords.contains s || !keywords.contains s
  | .name s :: _ => softKeywords.contains s
  | _ => false

def constants : List String := ["None", "True", "False"]

/-- Signs between two operands, apart from comparisons. -/
def binarySigns : List String :=
  ["|", "^", "&", "<<", ">>", "+", "-", "*", "/", "//", "%", "@", "**"]

def unarySigns : List String := ["+", "-", "~"]

/-- The words behind a comparison. -/
def afterComparison? : List Lexeme → Option (List Lexeme)
  | .sign s :: rest =>
    if ["==", "!=", "<", "<=", ">", ">="].contains s then some rest else none
  | .name "in" :: rest => some rest
  | .name "not" :: .name "in" :: rest => some rest
  | .name "is" :: .name "not" :: rest => some rest
  | .name "is" :: rest => some rest
  | _ => none

/-- The text that stands in a row with others; texts and bytes do not mix. -/
def joinTexts (bytes formatted : Bool) : List Lexeme → Parse
  | .text marks :: rest =>
    if marks.contains 'b' ≠ bytes then .error (.complaint "cannot mix bytes and nonbytes literals")
    else joinTexts bytes (formatted || marks.contains 'f') rest
  | rest => .ok (if formatted then .beyond .literal else ⟨.literal, none, true⟩, rest)

/-- An operation on two operands; a real number and an imaginary one make a literal. -/
def combine (sign : String) (a b : Part) : Part :=
  if (sign = "+" || sign = "-") && (a.shape = .number false || a.shape = .signed false)
    && b.shape = .number true
  then ⟨.operation, none, true⟩ else .beyond .operation

def close (sign : String) (p : Part) : List Lexeme → Parse
  | .sign s :: rest => if s = sign then .ok (p, rest) else .error (.unexpected (.sign s :: rest))
  | rest => .error (.unexpected rest)

mutual

/-- An expression inside of `depth` brackets. Two of them side by side lack a comma between them,
unless the first one may begin something else. -/
def readExpression : Nat → Nat → List Lexeme → Parse
  | 0, _, ws => .error (.unexpected ws)
  | fuel + 1, depth, ws => do
    let (p, rest) ← readDisjunction fuel depth ws
    match rest with
    | .name "if" :: more =>
      let (_, rest) ← readDisjunction fuel depth more
      match rest with
      | .name "else" :: more =>
        let (_, rest) ← readExpression fuel depth more
        pure (.beyond .conditional, rest)
      | .sign ":" :: _ => throw (.unexpected rest)
      | [] => throw (if depth = 0 then .complaint "expected \x27else\x27 after \x27if\x27 expression"
          else .unexpected [])
      | _ => throw (.complaint "expected \x27else\x27 after \x27if\x27 expression")
    | rest =>
      match ws with
      | .name s :: more =>
        if more ≠ [] && !keywords.contains s then
          match readDisjunction fuel depth more with
          | .ok (_, []) | .error (.unexpected []) => if 0 < depth then throw (.unexpected [])
          | .ok _ =>
            if legacyStatements.contains s && more.head? ≠ some (.sign "(") then
              throw (.complaint (legacyComplaint s))
          | .error _ => pure ()
      | _ => pure ()
      if depth = 0 || mayBeginOther ws then pure (p, rest)
      else match readDisjunction fuel depth rest with
        | .ok (_, []) => throw (.unexpected [])
        | .error (.unexpected []) => if rest = [] then pure (p, rest) else throw (.unexpected [])
        | _ =>
          match readOperand fuel depth rest with
          | .ok _ => throw (.complaint missingComma)
          | .error (.complaint m) => throw (.complaint m)
          | .error (.unexpected _) => pure (p, rest)

def readDisjunction : Nat → Nat → List Lexeme → Parse
  | 0, _, ws => .error (.unexpected ws)
  | fuel + 1, depth, ws => do
    let (p, rest) ← match ws with
      | .name "not" :: more =>
        (fun r => (Part.beyond .operation, r.2)) <$> readDisjunction fuel depth more
      | ws => readOperation fuel depth ws
    match rest with
    | .name "and" :: more | .name "or" :: more =>
      let (_, rest) ← readDisjunction fuel depth more
      pure (.beyond .operation, rest)
    | rest =>
      match afterComparison? rest with
      | some more =>
        let (_, rest) ← readDisjunction fuel depth more
        pure (.beyond .comparison, rest)
      | none => pure (p, rest)

/-- Operands with signs before and between them. -/
def readOperation : Nat → Nat → List Lexeme → Parse
  | 0, _, ws => .error (.unexpected ws)
  | fuel + 1, depth, ws => do
    let (p, rest) ← readOperand fuel depth ws
    match rest with
    | .sign s :: more =>
      if binarySigns.contains s then do
        let (q, rest) ← readOperation fuel depth more
        pure (combine s p q, rest)
      else pure (p, rest)
    | rest => pure (p, rest)

def readOperand : Nat → Nat → List Lexeme → Parse
  | 0, _, ws => .error (.unexpected ws)
  | fuel + 1, depth, ws =>
    match ws with
    | .sign s :: more =>
      if unarySigns.contains s then do
        let (p, rest) ← readOperand fuel depth more
        match p.shape, s with
        | .number i, "+" | .number i, "-" | .signed i, "+" | .signed i, "-" =>
          pure (⟨.signed i, none, true⟩, rest)
        | _, _ => pure (.beyond .operation, rest)
      else do
        let (p, rest) ← readAtom fuel depth ws
        readTrailers fuel depth p rest
    | ws => do
      let (p, rest) ← readAtom fuel depth ws
      readTrailers fuel depth p rest

/-- Calls and attributes behind a value. -/
def readTrailers : Nat → Nat → Part → List Lexeme → Parse
  | 0, _, p, ws => .ok (p, ws)
  | fuel + 1, depth, p, ws =>
    match ws with
    | .sign "." :: .name s :: rest =>
      if keywords.contains s || constants.contains s then .error (.unexpected (.name s :: rest))
      else readTrailers fuel depth (.beyond .member) rest
    | .sign "." :: rest => .error (.unexpected rest)
    | .sign "(" :: .sign ")" :: rest => readTrailers fuel depth (.beyond .call) rest
    | .sign "(" :: rest => do
      let (_, rest) ← readArguments fuel (depth + 1) rest
      readTrailers fuel depth (.beyond .call) rest
    | ws => .ok (p, ws)

/-- The arguments of a call up to its bracket. -/
def readArguments : Nat → Nat → List Lexeme → Parse
  | 0, _, ws => .error (.unexpected ws)
  | fuel + 1, depth, ws => do
    let ws := match ws with
      | .sign "*" :: more => more
      | .sign "**" :: more => more
      | .name _ :: .sign "=" :: more => more
      | ws => ws
    let (p, rest) ← readExpression fuel depth ws
    match rest with
    | .sign "," :: .sign ")" :: rest => pure (p, rest)
    | .sign "," :: more => readArguments fuel depth more
    | .sign "=" :: _ =>
      throw (.complaint "expression cannot contain assignment, perhaps you meant \"==\"?")
    | rest => close ")" p rest

def readAtom : Nat → Nat → List Lexeme → Parse
  | 0, _, ws => .error (.unexpected ws)
  | fuel + 1, depth, ws =>
    match ws with
    | .number imaginary :: rest => .ok (⟨.number imaginary, none, true⟩, rest)
    | .text marks :: rest => joinTexts (marks.contains 'b') (marks.contains 'f') rest
    | .sign "..." :: rest => .ok (⟨.literal, none, true⟩, rest)
    | .name "set" :: .sign "(" :: .sign ")" :: rest => .ok (⟨.call, none, false⟩, rest)
    | .name s :: rest =>
      if keywords.contains s then .error (.unexpected ws)
      else if constants.contains s then .ok (⟨.truth, none, true⟩, rest)
      else .ok (.beyond .name, rest)
    | .sign "(" :: .sign ")" :: rest => .ok (⟨.tuple, none, true⟩, rest)
    | .sign "(" :: .sign "*" :: rest =>
      match readOperation fuel (depth + 1) rest with
      | .ok (_, .sign ")" :: _) => .error (.complaint "cannot use starred expression here")
      | .ok (_, .sign "," :: _) => readItems fuel (depth + 1) ")" (ws.drop 1)
      | .ok (_, rest) => .error (.unexpected rest)
      | .error e => .error e
    | .sign "(" :: .sign "**" :: rest =>
      match readOperation fuel (depth + 1) rest with
      | .ok (_, .sign ")" :: _) => .error (.complaint "cannot use double starred expression here")
      | .ok (_, rest) => .error (.unexpected rest)
      | .error e => .error e
    | .sign "(" :: rest => do
      let (p, after) ← readNamed fuel (depth + 1) rest
      match after with
      | .sign ")" :: rest => pure (p, rest)
      | .sign "," :: .sign ")" :: rest => pure ({ p with shape := .tuple }, rest)
      | .sign "," :: more =>
        let (q, rest) ← readItems fuel (depth + 1) ")" more
        pure (p.and q .tuple, rest)
      | rest => throw (.unexpected rest)
    | .sign "\x7b" :: .sign "\x7d" :: rest => .ok (⟨.record, none, false⟩, rest)
    | .sign "\x7b" :: .sign "*" :: rest => do
      let (_, rest) ← readItems fuel (depth + 1) "\x7d" (.sign "*" :: rest)
      pure (.beyond .set, rest)
    | .sign "\x7b" :: .sign "**" :: rest => do
      let (_, rest) ← readOperation fuel (depth + 1) rest
      match rest with
      | .sign "," :: .sign "\x7d" :: rest => pure (.beyond .record, rest)
      | .sign "," :: more => readFields fuel (depth + 1) more
      | rest => close "\x7d" (.beyond .record) rest
    | .sign "\x7b" :: rest => do
      let (p, after) ← readNamed fuel (depth + 1) rest
      match after with
      | .sign ":" :: _ => readFields fuel (depth + 1) rest
      | .sign "\x7d" :: rest =>
        pure (⟨.set, p.asKey.refusal, false⟩, rest)
      | .sign "," :: .sign "\x7d" :: rest => pure (⟨.set, p.asKey.refusal, false⟩, rest)
      | .sign "," :: more =>
        let (q, rest) ← readItems fuel (depth + 1) "\x7d" more
        pure (⟨.set, (p.asKey.and q .set).refusal, false⟩, rest)
      | rest => throw (.unexpected rest)
    | ws => .error (.unexpected ws)

/-- A value in brackets. A single equals sign behind it was meant to be another one. -/
def readNamed : Nat → Nat → List Lexeme → Parse
  | 0, _, ws => .error (.unexpected ws)
  | fuel + 1, depth, ws => do
    let (p, rest) ← readExpression fuel depth ws
    match rest with
    | .sign ":=" :: more =>
      if p.shape = .name then do
        let (_, rest) ← readExpression fuel depth more
        pure (.beyond .operation, rest)
      else throw (.unexpected rest)
    | .sign "=" :: more =>
      let (_, after) ← readOperation fuel depth more
      match after with
      | .sign "=" :: _ | .sign ":=" :: _ => throw (.unexpected rest)
      | [] => throw (.unexpected [])
      | _ =>
        if p.shape = .name then
          throw (.complaint "invalid syntax. Maybe you meant \x27==\x27 or \x27:=\x27 instead of \x27=\x27?")
        else if [.truth, .tuple, .comparison, .conditional].contains p.shape
        then throw (.unexpected rest)
        else throw (.complaint (s!"cannot assign to {p.shape.title} here. "
          ++ "Maybe you meant \x27==\x27 instead of \x27=\x27?"))
    | rest => pure (p, rest)

/-- The values of a tuple or a set behind the first one, up to the bracket. -/
def readItems : Nat → Nat → String → List Lexeme → Parse
  | 0, _, _, ws => .error (.unexpected ws)
  | fuel + 1, depth, closing, ws => do
    let (p, rest) ← match ws with
      | .sign "*" :: more =>
        (fun r => (Part.beyond .operation, r.2)) <$> readOperation fuel depth more
      | ws => readNamed fuel depth ws
    let p := if closing = "\x7d" then p.asKey else p
    match rest with
    | .sign "," :: .sign s :: more =>
      if s = closing then pure (p, more)
      else do
        let (q, rest) ← readItems fuel depth closing (.sign s :: more)
        pure (p.and q .tuple, rest)
    | .sign "," :: more =>
      let (q, rest) ← readItems fuel depth closing more
      pure (p.and q .tuple, rest)
    | rest => close closing p rest

/-- The fields of a record up to its brace. -/
def readFields : Nat → Nat → List Lexeme → Parse
  | 0, _, ws => .error (.unexpected ws)
  | fuel + 1, depth, ws => do
    let (key, rest) ← readExpression fuel depth ws
    match rest with
    | .sign ":" :: .sign "\x7d" :: _ | .sign ":" :: .sign "," :: _ =>
      throw (.complaint "expression expected after dictionary key and \x27:\x27")
    | .sign ":" :: more =>
      let (v, rest) ← readExpression fuel depth more
      let keyed := { key with hashable := true }.and v .record
      let p : Part := ⟨.record, keyed.refusal.orElse fun _ => key.asKey.refusal, false⟩
      match rest with
      | .sign "," :: .sign "\x7d" :: rest => pure (p, rest)
      | .sign "," :: more =>
        let (q, rest) ← readFields fuel depth more
        pure (p.and q .record, rest)
      | rest => close "\x7d" p rest
    | [] => throw (.unexpected [])
    | _ => throw (.complaint "\x27:\x27 expected after dictionary key")

end

/-- Expressions with commas between them, up to the end. -/
def readWhole : Nat → List Lexeme → Parse
  | 0, ws => .error (.unexpected ws)
  | fuel + 1, ws => do
    let (p, rest) ← readExpression (20 * ws.length + 20) 0 ws
    match rest with
    | [] => pure (p, [])
    | [.sign ","] => pure ({ p with shape := .tuple }, [])
    | .sign "," :: more =>
      let (q, rest) ← readWhole fuel more
      pure (p.and q .tuple, rest)
    | rest => throw (.unexpected rest)

/-- Why a text is no literal. -/
inductive LiteralError where
  /-- It does not read as an expression. -/
  | unreadable (message : String)
  /-- It does, and is more than a literal. -/
  | refused (message : String)
  deriving DecidableEq

def neverClosed (c : Char) : String := s!"\x27{c}\x27 was never closed"

/-- Checks that a text is a literal. -/
def checkLiteral (text : List Char) : Except LiteralError Unit :=
  let text := text.dropWhile fun c => c = ' ' || c = '\t'
  match lexemes (text.length + 1) [] 1 text with
  | .error e => .error (.unreadable e.message)
  | .ok (ws, opened) =>
    match readWhole (ws.length + 1) ws with
    | .error (.complaint m) => .error (.unreadable m)
    | .error (.unexpected []) => .error (.unreadable (match opened with
      | c :: _ => neverClosed c
      | [] => generalComplaint))
    | .error (.unexpected _) => .error (.unreadable generalComplaint)
    | .ok (p, _) =>
      match p.refusal with
      | some m => .error (.refused m)
      | none => .ok ()

end Dialogue.Console
