import Dialogue.Flow.Branching
import Dialogue.Run.State
import Dialogue.Settings

/-!
# Steps and handlers

What the processing of a step decides, and the handlers by which a host adds its own kinds of
steps or replaces built-in ones.
-/
namespace Dialogue

/-- Where a run goes from a step, and whether it waits for an answer first. -/
structure Step where
  next : Option Node := none
  wait : Bool := false
  deriving DecidableEq, Inhabited

/-- What a handler answers. -/
inductive Reply where
  /-- The run goes on to the unconditional successor. -/
  | nothing
  | step (s : Step)
  /-- A value that is no step, by the name of its kind. -/
  | value (kind : String)
  | raised (f : Failure)
  deriving DecidableEq

/-- A handler sees the flow and the step, may change the run, and answers. -/
abbrev Handler := Flow → Node → Run → Run × Reply

namespace Handler

/-- Does nothing and lets the run go on. -/
def pass : Handler := fun _ _ run => (run, .nothing)

/-- Says a text; any other value is refused. -/
def say (content : Json) : Handler := fun _ node run =>
  match (Check.text content).under (.key "content") with
  | .ok text => (run.say .bot text node.id, .nothing)
  | .error issues => (run, .raised (.invalid "TranscriptMessage" issues))

def assign (name : String) (value : Json) : Handler := fun _ _ run =>
  match run.setVariable? name value with
  | .ok run => (run, .nothing)
  | .error f => (run, .raised f)

def goto (id : String) : Handler := fun flow _ run => (run, .step ⟨flow.node? id, false⟩)

def first : Handler := fun flow node run => (run, .step ⟨flow.firstTarget? node, false⟩)

def stop : Handler := fun _ _ run => (run, .step ⟨none, false⟩)

def wait : Handler := fun _ _ run => (run, .step ⟨none, true⟩)

/-- Enters a step of any id and waits there. -/
def waitAt (id : String) : Handler := fun _ _ run => (run.enter id, .step ⟨none, true⟩)

def complete : Handler := fun _ _ run => (run.complete, .nothing)

/-- Fails the run, with a reason or without one. -/
def fail (reason : Option String) : Handler := fun _ _ run => (run.failBy reason, .nothing)

def raise (kind : FailureKind) (message : String) : Handler := fun _ _ run =>
  (run, .raised (.raised kind message))

/-- Answers with a value; null is no answer. -/
def answer (v : Json) : Handler := fun _ _ run =>
  (run, if v = .null then .nothing else .value v.kindName)

end Handler

/-- Handlers under the types of the steps they are for. -/
abbrev Handlers := List (String × Handler)

/-- Registers a handler under a type without the blanks around it. -/
def Handlers.register (type : String) (handler : Handler) (hs : Handlers) :
    Except Failure Handlers :=
  let key := Text.trim type
  if key = "" then .error .blankHandlerType else .ok (Bindings.put key handler hs)

/-- What carries out the steps of a flow. -/
structure Engine where
  flow : Flow
  settings : Settings
  handlers : Handlers := []
  /-- How many steps more than the flow has a stretch may take: handlers may lead it round. -/
  spare : Nat := 0

def Engine.mode (e : Engine) : Mode := e.settings.mode

/-- A text with its tokens replaced for a run. -/
def Engine.fill (e : Engine) (run : Run) (text : String) : String :=
  run.vars.interpolate e.settings.contactName text

/-- What keeps a text from being completed for a run. -/
def Engine.fillFault? (e : Engine) (run : Run) (text : String) : Option TextFault :=
  run.vars.fault? e.settings.contactName text

/-- A text completed for a run, if the values that it names have texts. -/
def Engine.filled (e : Engine) (run : Run) (text : String) : Except Failure String :=
  (run.vars.complete e.settings.contactName text).mapError .unsayable

theorem Engine.filled_eq (e : Engine) (run : Run) (text : String) :
    e.filled run text = match e.fillFault? run text with
      | some f => .error (.unsayable f)
      | none => .ok (e.fill run text) := by
  unfold filled Variables.complete fillFault?
  cases run.vars.fault? e.settings.contactName text <;> rfl

/-- On to the unconditional successor. -/
def Engine.onward (e : Engine) (node : Node) : Step := ⟨e.flow.next? node, false⟩

end Dialogue
