import Dialogue.Console.Table
import Dialogue.Flow.Template
import Dialogue.Run.Record
import Dialogue.Settings
import Dialogue.Transcript
import Dialogue.Variables

/-!
# What is shown on the screen

Everything that the program shows is a view: a message, a status, a log, a table. A view is shown
as a whole or, where its markup or a style in it is bad, not at all.
-/
namespace Dialogue.Console

inductive View where
  /-- The head of a session. -/
  | heading (flow : Flow) (settings : Settings)
  | message (m : Message)
  | status (s : Snapshot)
  | log (entries : List LogEntry)
  | vars (values : Variables)
  | transcript (messages : List Message)
  | templates (ts : List Template)
  | prompt
  /-- A run was reset. -/
  | restarted
  /-- An answer came to a run that does not wait for one. -/
  | notWaiting (s : Status)
  | farewell
  | endOfInput
  | loadFailure (reason : String)

/-- The lines of a text on the screen. -/
def shown (text : Styled) : Except ShowError String :=
  joinLines <$> (Layout.shownLines ⟨screenWidth, .fold, none⟩ text).mapError .number

/-- A text with markup as lines of the screen. -/
def printed (markup : String) : Except ShowError String := ofMarkup markup >>= shown

/-- The sign and the style of a speaker. -/
def speakerLook : Speaker → String × String
  | .bot => ("🤖", "cyan")
  | .user => ("👤", "green")
  | .system => ("⚙️ ", "dim")

def statusStyle : Status → String
  | .idle => "dim"
  | .running => "yellow"
  | .waiting => "cyan"
  | .completed => "green"
  | .failed => "red"

/-- A message on the screen. Those of the system have no markup. -/
def messageText (m : Message) : Except ShowError String :=
  let (sign, style) := speakerLook m.speaker
  let speaker := s!"{sign} {m.speaker.title}"
  if m.speaker = .system then
    shown (.plain s!"  {speaker}: {m.content}".toList)
  else printed s!"[bold {style}]{speaker}[/] → {m.content}"

/-- A part of the status line; a blank one is left out. -/
def statusPart (text : String → String) : Option String → String
  | none => ""
  | some s => if s = "" then "" else text s

def statusText (s : Snapshot) : Except ShowError String :=
  printed (s!"[{statusStyle s.status}]status: {s.status.name}[/]"
    ++ statusPart (fun id => s!" [dim]• nó: {id}[/dim]") s.current
    ++ statusPart (fun e => s!" [bold red]• erro: {e}[/]") s.failure)

/-- The execution log as a table, a line for every failed entry, and the totals. -/
def logText (es : List LogEntry) : Except ShowError String := do
  let columns : List Column := [
    { heading := "#", cells := es.mapIdx fun i _ => toString (i + 1) },
    { heading := "Node", cells := es.map (·.nodeLabel) },
    { heading := "Type", cells := es.map (·.nodeType) },
    { heading := "Action", cells := es.map (·.action) },
    { heading := "ms", alignment := .right, cells := es.map (·.duration.fixedText 1) },
    { heading := "OK", alignment := .centre
      cells := es.map fun e => if e.success then "[green]✓[/]" else "[red]✗[/]" }]
  let table ← Table.lines ⟨"📋 Execution Log", .heavyRule, true, columns⟩
  let failed ← (es.filter fun e => !e.success).mapM fun e => do
    let line ← e.told.mapError .untold
    printed s!"[red]{escape line}[/red]"
  let summary := LogSummary.ofLog es
  let total := (summary.total.getD .zero).fixedText 1
  let totals ← printed
    s!"[dim]{summary.processed} processados • {summary.failed} falhas • {total}ms[/dim]"
  pure (joinLines table ++ String.join failed ++ totals)

/-- The variables as a table, if all of them have texts. -/
def varsText (vars : Variables) : Except ShowError String :=
  match vars.findSome? (·.2.fault?) with
  | some f => .error (.untold f)
  | none => joinLines <$> Table.lines ⟨"🧮 Variáveis", .dividers, false, [
    { heading := "Name", cells := vars.map (·.1) },
    { heading := "Value", cells := vars.map (·.2.spaced) }]⟩

def templatesText (ts : List Template) : Except ShowError String :=
  joinLines <$> Table.lines ⟨"Flow Templates", .heavyHeading, true, [
    { heading := "ID", cells := ts.map (·.flow.id) },
    { heading := "Name", cells := ts.map (·.flow.name) },
    { heading := "Category", cells := ts.map (·.category) },
    { heading := "Description", cells := ts.map (·.flow.description) }]⟩

def headingText (flow : Flow) (s : Settings) : Except ShowError String := do
  let text ← ofMarkup (s!"[bold cyan]{flow.name}[/bold cyan]\n"
    ++ s!"[dim]Flow: {flow.id} • Modo: {s.mode.name} • Contato: {s.contactName}[/dim]\n"
    ++ "[dim]Comandos: /log, /vars, /transcript, /reset, exit[/dim]")
  joinLines <$> panel "🧪 Flow Test" text

/-- The whole transcript; its tags are shown. -/
def transcriptText (messages : List Message) : Except ShowError String :=
  let text := escape (Dialogue.transcript messages true)
  printed (if text = "" then "[dim](vazio)[/dim]" else text)

namespace View

def text : View → Except ShowError String
  | heading flow settings => headingText flow settings
  | message m => messageText m
  | status s => statusText s
  | log entries => logText entries
  | vars values => varsText values
  | transcript messages => transcriptText messages
  | templates ts => templatesText ts
  | prompt => .ok "Você → "
  | restarted => printed "[yellow]Execução reiniciada.[/yellow]"
  | notWaiting s =>
    printed s!"[dim]O fluxo não aguarda entrada (status: {s.name}). Use /reset.[/dim]"
  | farewell => printed "[dim]Até mais! 👋[/dim]"
  | endOfInput => printed "\n[dim]Até mais! 👋[/dim]"
  | loadFailure reason => printed s!"[bold red]Failed to load flow:[/] {reason}"

end View

/-- The text of a screen, and the reason why it ended before its time. -/
structure Screen where
  text : String := ""
  failure : Option ShowError := none

namespace Screen

/-- Shows a view, unless an earlier one could not be shown. -/
def put (s : Screen) (v : View) : Screen :=
  match s.failure, v.text with
  | some _, _ => s
  | none, .ok text => { s with text := s.text ++ text }
  | none, .error e => { s with failure := some e }

def putAll (s : Screen) (views : List View) : Screen := views.foldl Screen.put s

end Screen
end Dialogue.Console
