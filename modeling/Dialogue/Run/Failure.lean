import Dialogue.Check.Issue
import Dialogue.Json.Writer
import Dialogue.Run.Status

/-!
# Failures of a step

What can go wrong while a run takes a step. A failure has a message, and where that is empty its
kind stands for it.
-/
namespace Dialogue

/-- The kinds of failures that messages tell apart. -/
inductive FailureKind where
  | runtime | value | type | lookup | validation | recursion
  /-- A kind of the host's own. -/
  | host (name : String) (named : name ≠ "")
  deriving DecidableEq, Inhabited

def FailureKind.name : FailureKind → String
  | runtime => "RuntimeError"
  | value => "ValueError"
  | type => "TypeError"
  | lookup => "AttributeError"
  | validation => "ValidationError"
  | recursion => "RecursionError"
  | host name _ => name

theorem FailureKind.name_ne_empty (k : FailureKind) : k.name ≠ "" := by
  cases k with
  | host name named => exact named
  | _ => decide

/-- The kind of failure that a value without a text makes. -/
def TextFault.kind : TextFault → FailureKind
  | longInteger | notFinite => .value
  | tooDeep => .recursion

inductive Failure where
  /-- A value was to be kept under a blank name. -/
  | blankVariable
  /-- A handler was to be kept under a blank type. -/
  | blankHandlerType
  /-- An effect was to be kept under a blank type. -/
  | blankEffectType
  | notIdle (run : String) (status : Status)
  | notWaiting (run : String) (status : Status)
  /-- Code of the host, a handler or an effect, gave up. -/
  | raised (kind : FailureKind) (message : String)
  /-- A handler answered with a value that is no step. -/
  | unsupportedReply (nodeType valueKind : String)
  /-- A step of one kind carries the configuration of another. -/
  | wrongConfig (config setting : String)
  /-- A record was to be made of values that it does not take. -/
  | invalid (model : String) (issues : List Check.Issue)
  /-- A value that is no text was to be searched. -/
  | unsearchable (valueKind : String)
  /-- A value of a kind was to be held against one of a kind that has no order with it. -/
  | incomparable (kind other : String)
  /-- A value of a kind that cannot be looked up was to be. -/
  | unhashable (valueKind : String)
  /-- A value was to be shown in a sentence. -/
  | unsayable (f : TextFault)
  /-- A value was to be written as JSON. -/
  | unwritable (f : TextFault)
  /-- An event was to be recorded at a level that does not exist. -/
  | unknownLevel
  deriving DecidableEq, Inhabited

namespace Failure

def kind : Failure → FailureKind
  | blankVariable | blankHandlerType | blankEffectType => .value
  | notIdle .. | notWaiting .. => .runtime
  | raised k _ => k
  | unsupportedReply .. | unsearchable _ | incomparable .. | unhashable _ | unknownLevel => .type
  | invalid .. => .validation
  | wrongConfig .. => .lookup
  | unsayable f | unwritable f => f.kind

def message : Failure → String
  | blankVariable => "Variable name must not be empty"
  | blankHandlerType => "node_type must not be empty"
  | blankEffectType => "effect_type must not be empty"
  | notIdle run status => s!"Run \x27{run}\x27 cannot start from status \x27{status.name}\x27"
  | notWaiting run status => s!"Run \x27{run}\x27 is not waiting for input (status={status.name})"
  | raised _ m => m
  | unsupportedReply nodeType valueKind =>
    s!"Node handler for \x27{nodeType}\x27 returned unsupported value: {valueKind}"
  | wrongConfig config setting => s!"\x27{config}\x27 object has no attribute \x27{setting}\x27"
  | invalid model issues => Check.report model issues
  | unsearchable valueKind => s!"expected string or bytes-like object, got \x27{valueKind}\x27"
  | incomparable kind other =>
    s!"\x27>\x27 not supported between instances of \x27{kind}\x27 and \x27{other}\x27"
  | unhashable valueKind => s!"unhashable type: \x27{valueKind}\x27"
  | unsayable f => f.showing
  | unwritable f => f.writing
  | unknownLevel => "level must be an integer"

/-- The text by which a run remembers the failure; it is never empty. -/
def report (f : Failure) : String := if f.message = "" then f.kind.name else f.message

theorem report_ne_empty (f : Failure) : f.report ≠ "" := by
  unfold report
  split
  · exact f.kind.name_ne_empty
  · assumption

end Failure

namespace Json

/-- The text of a value in a sentence. -/
def said (v : Json) : Except Failure String :=
  match v.fault? with
  | some f => .error (.unsayable f)
  | none => .ok v.display

/-- The JSON text of a value in a message. -/
def written (v : Json) : Except Failure String :=
  match v.fault? with
  | some f => .error (.unwritable f)
  | none => .ok v.spaced

@[simp] theorem said_str (s : String) : (str s).said = .ok s := rfl

theorem failure_of_said {v : Json} {f : Failure} (h : v.said = .error f) :
    ∃ t, f = .unsayable t := by
  unfold said at h
  split at h
  · exact ⟨_, (Except.error.inj h).symm⟩
  · cases h

theorem failure_of_written {v : Json} {f : Failure} (h : v.written = .error f) :
    ∃ t, f = .unwritable t := by
  unfold written at h
  split at h
  · exact ⟨_, (Except.error.inj h).symm⟩
  · cases h

theorem said_of_hasText {v : Json} (h : v.hasText = true) : v.said = .ok v.display := by
  rw [said, hasText_eq_true.mp h]

theorem written_of_hasText {v : Json} (h : v.hasText = true) : v.written = .ok v.spaced := by
  rw [written, hasText_eq_true.mp h]

end Json
end Dialogue
