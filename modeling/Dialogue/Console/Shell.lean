import Dialogue.Console.Disk
import Dialogue.Console.View
import Dialogue.Conversation

/-!
# The shell

A session at the console. Every line is a command or an answer to the flow; what is shown is a
list of views. The messages of a run are shown once each, as soon as an operation has ended. An
operation that goes round for ever never comes back, and nothing is shown any more.
-/
namespace Dialogue.Console

/-- What a line asks for. -/
inductive Command where
  | leave | nothing | log | vars | transcript | reset
  /-- The line as it was typed, with the blanks around it. -/
  | answer (text : String)
  deriving DecidableEq

/-- Blanks around a command do not count, and those that leave are known in any case. -/
def Command.ofLine (line : String) : Command :=
  let word := Text.trim line
  if ["exit", "quit", "q"].contains (Text.lower word) then .leave
  else match word with
    | "" => .nothing
    | "/log" => .log
    | "/vars" => .vars
    | "/transcript" => .transcript
    | "/reset" => .reset
    | _ => .answer line

/-- Why a shell cannot be opened. -/
inductive OpeningError where
  | settings (e : SettingsError)
  | store (e : StoreError)
  deriving DecidableEq

def OpeningError.message : OpeningError → String
  | settings e => e.message
  | store e => e.message

structure Shell where
  conversation : Conversation
  /-- How many messages of the current run were shown. -/
  shown : Nat := 0

namespace Shell

def snapshot (s : Shell) : Snapshot := s.conversation.session.current.snapshot

/-- Shows the messages that are new and the status. -/
def update (s : Shell) : Shell × List View :=
  let snapshot := s.snapshot
  ({ s with shown := snapshot.messages.length },
    (snapshot.messages.drop s.shown).map View.message ++ [.status snapshot])

/-- Takes up the shell after an operation, if it came back. `views` were shown before. -/
def resume (s : Shell) (views : List View) : Conversation × Outcome → List View × Option Shell
  | (c, .returned _) =>
    let (s, new) := update { s with conversation := c }
    (views ++ new, some s)
  | _ => (views, none)

/-- Begins a session. -/
def begin (s : Shell) : List View × Option Shell :=
  let engine := s.conversation.session.engine
  s.resume [.heading engine.flow engine.settings] s.conversation.start

/-- Does what a line asks for. -/
def obey (s : Shell) : Command → List View × Option Shell
  | .leave => ([.farewell], some s)
  | .nothing => ([], some s)
  | .log => ([.log s.snapshot.log], some s)
  | .vars => ([.vars s.snapshot.vars], some s)
  | .transcript => ([.transcript s.snapshot.messages], some s)
  | .reset =>
    let c := s.conversation.reset
    resume ⟨c, 0⟩ [.restarted] c.start
  | .answer text =>
    if s.snapshot.status = .waiting then s.resume [] (s.conversation.send text)
    else ([.notWaiting s.snapshot.status], some s)

/-- The views of a session over lines, up to one that leaves or the end of input. -/
def converse (s : Shell) : List String → List View
  | [] => [.prompt, .endOfInput]
  | line :: lines =>
    let command := Command.ofLine line
    match s.obey command with
    | (views, none) => .prompt :: views
    | (views, some s) =>
      if command = .leave then .prompt :: views else .prompt :: views ++ s.converse lines

/-- A whole session. -/
def session (s : Shell) (lines : List String) : List View :=
  let (views, next) := s.begin
  views ++ next.elim [] (·.converse lines)

/-- A shell over a flow with the settings of the environment; overrides go first. A store keeps
the runs if there is a place for one, and is opened last. -/
def make (flow : Flow) (env : Environment) (overrides : List (String × Json)) (place : String)
    (disk : Disk) (transport : Http.Transport) : Except OpeningError Shell := do
  let settings ← (env.settings overrides).mapError .settings
  let effects ← env.effectSettings.mapError .settings
  let gateway := Gateway.builtin effects.vistaUrl effects.vistaToken transport
  let place := if place = "" then env.storePath else place
  let store ← if place = "" then .ok none else (some <$> disk.openStore place).mapError .store
  let engine : Engine := { flow := flow, settings := settings }
  pure { conversation := { session := Session.make engine store, gateway := gateway } }

end Shell
end Dialogue.Console
