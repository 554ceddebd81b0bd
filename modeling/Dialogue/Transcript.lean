import Dialogue.Json.Writer
import Dialogue.Number.Layout
import Dialogue.Run.Record
import Dialogue.Text.Blank

/-!
# Transcripts and logs as text

One line for a message, one for an entry of the execution log, and the totals of a log.
-/
namespace Dialogue

/-- By what name a speaker is introduced. -/
def Speaker.title : Speaker → String
  | bot => "Bot"
  | user => "Você"
  | system => "Sistema"

def Message.line (m : Message) : String := s!"[{m.time.text}] {m.speaker.title}: {m.content}"

/-- The lines of a transcript, with or without those of the system. -/
def transcript (messages : List Message) (withSystem : Bool) : String :=
  "\n".intercalate ((messages.filter fun m => withSystem || m.speaker ≠ .system).map Message.line)

/-- The longest text of a value in a line of a log. -/
def compactLimit : Int := 120

/-- The first `n` characters; for a negative `n`, all but the last `-n`. -/
def firstChars (n : Int) (cs : List Char) : List Char :=
  if 0 ≤ n then cs.take n.toNat else cs.take (cs.length - n.natAbs)

/-- A value as a short text on one line, where it has a text. -/
def compact (limit : Int) (v : Json) : String :=
  match v with
  | .null => ""
  | v =>
    let text := Text.squeeze (match v with
      | .str s => s
      | v => v.spaced)
    if limit < text.length then String.ofList (firstChars (limit - 3) text.toList) ++ "..."
    else text

/-- The line of an entry whose output has a text. -/
def LogEntry.line (e : LogEntry) : String :=
  let marker := if e.success then "ok" else "FALHA"
  let output := compact compactLimit e.output
  s!"{e.nodeLabel} ({e.nodeType}) -> {e.action} [{marker}, {e.duration.fixedText 1}ms]"
    ++ (if output = "" then "" else " " ++ output)

/-- The line of an entry. -/
def LogEntry.told (e : LogEntry) : Except TextFault String :=
  match e.output.fault? with
  | some f => .error f
  | none => .ok e.line

/-- The totals of an execution log. -/
structure LogSummary where
  processed : Nat
  failed : Nat
  failedNodes : List String
  /-- The sum of all durations in thousandths; an empty log has none. -/
  total : Option Number.Binary64
  byType : List (String × Nat)
  deriving DecidableEq

namespace LogSummary

/-- The sum from the first entry to the last. -/
def sum : List LogEntry → Option Number.Binary64
  | [] => none
  | es => some (es.foldl (fun t e => t.add e.duration) .zero)

/-- How many entries each type has, in the order in which the types come up. -/
def countTypes (es : List LogEntry) : List (String × Nat) :=
  es.foldl (fun counts e =>
    Bindings.put e.nodeType ((Bindings.get? e.nodeType counts).getD 0 + 1) counts) []

def ofLog (es : List LogEntry) : LogSummary :=
  let failed := es.filter fun e => !e.success
  ⟨es.length, failed.length, failed.map (·.nodeId), (sum es).map (·.roundTo 3), countTypes es⟩

end LogSummary
end Dialogue
