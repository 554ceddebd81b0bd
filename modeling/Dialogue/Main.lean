import Dialogue.Console.Program

/-!
# The command line

Reads the arguments, the environment, the flow file and the lines typed by the user, and writes
what the program shows. There is no network: every request of an effect fails as unreachable.
-/
namespace Dialogue.Console

def usage : String :=
  "usage: dialogue run [--flow PATH | --template ID] [--real] [--contact-name NAME]\n"
    ++ "                    [--contact-phone PHONE] [--db PATH]\n"
    ++ "       dialogue templates"

/-- The variables that the program reads. -/
def readEnvironment : IO Environment := do
  let mut env := []
  for name in Environment.names do
    if let some value := ← IO.getEnv name then env := env ++ [(name, value)]
  pure env

/-- What stands at a path. A directory can be opened but not read. -/
def look (path : String) : IO (Except PathFault Entry) := do
  try return .ok (.file (← IO.FS.readFile path))
  catch
    | .inappropriateType none .. => return .ok .directory
    | .inappropriateType .. => return .error .notDirectory
    | .invalidArgument .. => return .error .nameTooLong
    | _ => return .error .missing

/-- The paths that a request may look at. -/
def pathsOf (r : RunRequest) (env : Environment) : List String :=
  let place := (given? r.store).getD env.storePath
  let names := straightNames place
  let fromRoot := place.startsWith "/"
  (given? r.flowPath).toList ++ [pathOf fromRoot names, pathOf fromRoot names.dropLast]

/-- The part of the disk that a request may look at. -/
def readDisk (r : Request) (env : Environment) : IO Disk := do
  let paths := match r with
    | .run r => pathsOf r env
    | _ => []
  let found ← paths.mapM fun path => return (path, ← look path)
  return fun path => (found.lookup path).getD (.error .missing)

/-- Shows views; whether all of them could be shown. -/
def write (views : List View) : IO Bool := do
  let screen := Screen.putAll {} views
  let out ← IO.getStdout
  out.putStr screen.text
  out.flush
  match screen.failure with
  | none => pure true
  | some e =>
    IO.eprintln e.message
    pure false

/-- The flow goes round for ever, and no line is taken any more. -/
partial def hang : IO UInt32 := do
  IO.sleep 1000
  hang

/-- Takes lines until one leaves or the input ends. -/
partial def converse (s : Shell) : IO UInt32 := do
  if !(← write [.prompt]) then return 1
  let line ← (← IO.getStdin).getLine
  if line.isEmpty then return if ← write [.endOfInput] then 0 else 1
  let command := Command.ofLine (if line.endsWith "\n" then (line.dropEnd 1).toString else line)
  let (views, next) := s.obey command
  if !(← write views) then return 1
  match next with
  | none => hang
  | some s => if command = .leave then return 0 else converse s

def begin (opening : Opening) : IO UInt32 := do
  match opening with
  | .ended code views => return if ← write views then code.toUInt32 else 1
  | .refused e =>
    IO.eprintln e.message
    return 1
  | .brokenOff reason =>
    IO.eprintln reason
    return 1
  | .session s =>
    let (views, next) := s.begin
    if !(← write views) then return 1
    match next with
    | none => hang
    | some s => converse s

end Dialogue.Console

open Dialogue Dialogue.Console

def main (arguments : List String) : IO UInt32 := do
  match Request.ofArguments arguments with
  | .error e =>
    IO.eprintln usage
    IO.eprintln e.message
    return misuseCode.toUInt32
  | .ok request =>
    if request = .help then IO.println usage
    let env ← readEnvironment
    let disk ← readDisk request env
    let transport : Http.Transport := { responses := [.unreachable "offline"] }
    begin (request.opening disk env transport)
