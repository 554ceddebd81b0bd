import Dialogue.Text.Digit

/-!
# Arguments of the program

The program is given a command and options for it. Long options may be shortened as long as only
one fits, and their values may follow an equals sign. A word that looks like an option is no value,
unless it is a negative number or holds a space.
-/
namespace Dialogue.Console

/-- What a session is started with. -/
structure RunRequest where
  flowPath : Option String := none
  template : Option String := none
  useReal : Bool := false
  contactName : Option String := none
  contactPhone : Option String := none
  store : Option String := none
  deriving DecidableEq

inductive Request where
  | help
  | templates
  | run (r : RunRequest)
  deriving DecidableEq

/-- Why arguments were refused. -/
inductive Misuse where
  | unknownCommand (word : String)
  | ambiguous (word : String)
  | missingValue (word : String)
  | unexpectedValue (word : String)
  /-- A flow file and a template were both asked for. -/
  | twoFlows
  | unknownWords (words : List String)
  /-- The two minus signs that end the options were given as the value of one. -/
  | endAsValue
  deriving DecidableEq

def Misuse.message : Misuse → String
  | unknownCommand word => s!"unknown command: {word}"
  | ambiguous word => s!"more than one option fits: {word}"
  | missingValue word => s!"a value is missing after {word}"
  | unexpectedValue word => s!"no value may be given to {word}"
  | twoFlows => "--flow and --template exclude each other"
  | unknownWords words => "unknown arguments: " ++ " ".intercalate words
  | endAsValue => "not enough values to unpack (expected 1, got 0)"

/-- The options that take a value. -/
inductive Slot where
  | flowPath | template | contactName | contactPhone | store
  deriving DecidableEq

inductive OptionKind where
  | help | useReal
  | value (slot : Slot)
  deriving DecidableEq

def helpOptions : List (String × OptionKind) := [("-h", .help), ("--help", .help)]

def runOptions : List (String × OptionKind) :=
  helpOptions ++ [("--flow", .value .flowPath), ("--template", .value .template),
    ("--real", .useReal), ("--contact-name", .value .contactName),
    ("--contact-phone", .value .contactPhone), ("--db", .value .store)]

/-- What a word is to a command. -/
inductive Word where
  | plain
  | unknown
  /-- An option, and what was given with it. -/
  | option (kind : OptionKind) (given : Option String)
  deriving DecidableEq

/-- A minus sign, digits, and at most one point before the last of them. -/
def isNegativeNumber : List Char → Bool
  | '-' :: cs =>
    match cs.dropWhile Text.isDigit with
    | [] => !cs.isEmpty
    | '.' :: fraction => !fraction.isEmpty && fraction.all Text.isDigit
    | _ => false
  | _ => false

/-- A word before and after its first equals sign. -/
def splitAtEquals (cs : List Char) : String × Option String :=
  let name := cs.takeWhile (· ≠ '=')
  (String.ofList name,
    if name.length < cs.length then some (String.ofList (cs.drop (name.length + 1))) else none)

/-- What was given with a short option. Letters behind it are options of their own, and the same
option again says nothing new. -/
def behind (letter : Char) (rest : List Char) : Option String :=
  if rest.isEmpty || !rest.all (· = letter) then some (String.ofList rest) else none

/-- The options that a word which is no full name may stand for. -/
def candidates (options : List (String × OptionKind)) (cs : List Char) :
    List (OptionKind × Option String) :=
  match cs with
  | '-' :: '-' :: _ =>
    let (name, given) := splitAtEquals cs
    (options.filter fun o => name.toList.isPrefixOf o.1.toList).map fun o => (o.2, given)
  | sign :: letter :: rest =>
    (options.filter fun o => o.1.toList = [sign, letter]).map fun o => (o.2, behind letter rest)
  | _ => []

def classify (options : List (String × OptionKind)) (word : String) : Except Misuse Word :=
  let named (name : String) := (options.find? (·.1 = name)).map (·.2)
  let cs := word.toList
  let (name, given) := splitAtEquals cs
  if cs.head? ≠ some '-' then .ok .plain
  else match named word with
    | some kind => .ok (.option kind none)
    | none =>
      if cs.length = 1 then .ok .plain
      else match given.bind fun _ => named name with
        | some kind => .ok (.option kind (match name.toList with
          | [_, letter] => given.bind fun g => behind letter g.toList
          | _ => given))
        | none =>
          match candidates options cs with
          | [(kind, given)] => .ok (.option kind given)
          | _ :: _ :: _ => .error (.ambiguous word)
          | [] => .ok (if isNegativeNumber cs || cs.contains ' ' then .plain else .unknown)

/-- Words with what they are; after two minus signs nothing is an option. -/
def classifyAll (options : List (String × OptionKind)) :
    List String → Except Misuse (List (String × Word))
  | [] => .ok []
  | word :: words =>
    if word = "--" then .ok ((word :: words).map fun w => (w, .unknown))
    else do
      let kind ← classify options word
      let rest ← classifyAll options words
      pure ((word, kind) :: rest)

/-- Puts a value into a request. Only one source of the flow may be given. -/
def RunRequest.set (r : RunRequest) (slot : Slot) (value : String) : Except Misuse RunRequest :=
  match slot with
  | .flowPath =>
    if r.template.isSome then .error .twoFlows else .ok { r with flowPath := some value }
  | .template =>
    if r.flowPath.isSome then .error .twoFlows else .ok { r with template := some value }
  | .contactName => .ok { r with contactName := some value }
  | .contactPhone => .ok { r with contactPhone := some value }
  | .store => .ok { r with store := some value }

/-- Reads the options of a command from left to right; none for a call for help. Words that are
left over are refused at the end. -/
def readOptions (r : RunRequest) (left : List String) :
    List (String × Word) → Except Misuse (Option RunRequest)
  | [] => if left.isEmpty then .ok (some r) else .error (.unknownWords left)
  | (word, .plain) :: rest | (word, .unknown) :: rest => readOptions r (left ++ [word]) rest
  | (_, .option .help none) :: _ => .ok none
  | (_, .option .useReal none) :: rest => readOptions { r with useReal := true } left rest
  | (_, .option (.value slot) (some value)) :: rest => do
    if value = "--" then throw .endAsValue
    let r ← r.set slot value
    readOptions r left rest
  | (_, .option (.value slot) none) :: (value, .plain) :: rest => do
    let r ← r.set slot value
    readOptions r left rest
  | (word, .option (.value _) none) :: _ => .error (.missingValue word)
  | (word, .option _ (some _)) :: _ => .error (.unexpectedValue word)

/-- Reads a command and its options. Words before the command are not options of it. -/
def readCommand (left : List String) : List String → Except Misuse Request
  | [] => if left.isEmpty then .ok .help else .error (.unknownWords left)
  | word :: words =>
    if word = "--" then .error (.unknownWords (left ++ word :: words))
    else match classify helpOptions word with
    | .error e => .error e
    | .ok (.option _ none) => .ok .help
    | .ok (.option _ (some _)) => .error (.unexpectedValue word)
    | .ok .unknown => readCommand (left ++ [word]) words
    | .ok .plain =>
      let options := match word with
        | "run" => some runOptions
        | "templates" => some helpOptions
        | _ => none
      match options with
      | none => .error (.unknownCommand word)
      | some options => do
        let kinds ← classifyAll options words
        let request ← readOptions {} [] kinds
        match request with
        | none => pure .help
        | some r =>
          if left ≠ [] then .error (.unknownWords left)
          else pure (if word = "run" then .run r else .templates)

/-- What the arguments of the program ask for. -/
def Request.ofArguments (arguments : List String) : Except Misuse Request :=
  readCommand [] arguments

end Dialogue.Console
