import Dialogue.Console.Shell
import Dialogue.Proofs.Session.Conversation
import Dialogue.Proofs.Session.Schedule
import Dialogue.Proofs.Yields

/-!
# Sessions at the console

Whatever is typed, from one start to the next the messages shown are those of the run, each once and
in order, and at each prompt none is still to be shown (`Shows`). A line is an answer only
while the run waits for one (`session_shows`). An operation that never comes back is the last of a
session, with no prompt behind it.
-/
namespace Dialogue.Console

open Run (Speaks)

/-! ### What is shown of the runs -/

/-- The messages shown of each run, the latest first, once a view is shown. -/
def hear : List (List Message) → View → List (List Message)
  | heard, .restarted => [] :: heard
  | now :: earlier, .message m => (now ++ [m]) :: earlier
  | heard, _ => heard

/-- The messages that views show from one start to the next, the latest first. -/
def heard (views : List View) : List (List Message) := views.foldl hear [[]]

/-- A view that belongs to the run that is shown and is no message. -/
def View.Aside (v : View) : Prop := ∀ heard, hear heard v = heard

theorem heard_append (views more : List View) :
    heard (views ++ more) = more.foldl hear (heard views) := List.foldl_append

theorem foldl_hear_messages (now : List Message) (earlier : List (List Message))
    (new : List Message) :
    (new.map View.message).foldl hear (now :: earlier) = (now ++ new) :: earlier := by
  induction new generalizing now with
  | nil => simp
  | cons m new ih =>
      rw [List.map_cons, List.foldl_cons]
      exact (ih (now ++ [m])).trans (by rw [List.append_assoc, List.singleton_append])

namespace Command

/-- A line that is neither a command nor blank. -/
def IsAnswer (line : String) : Prop :=
  Text.trim line ≠ "" ∧ Text.lower (Text.trim line) ∉ ["exit", "quit", "q"] ∧
    Text.trim line ∉ ["/log", "/vars", "/transcript", "/reset"]

instance (line : String) : Decidable (IsAnswer line) :=
  inferInstanceAs (Decidable (_ ∧ _ ∧ _))

theorem ofLine_of_isAnswer {line : String} (h : IsAnswer line) : ofLine line = .answer line := by
  obtain ⟨hblank, hleave, hword⟩ := h
  simp only [List.mem_cons, List.not_mem_nil, or_false, not_or] at hword
  obtain ⟨hlog, hvars, htranscript, hreset⟩ := hword
  have hstays : ["exit", "quit", "q"].contains (Text.lower (Text.trim line)) = false := by
    simpa using hleave
  simp only [ofLine, hstays, Bool.false_eq_true, if_false]

theorem isAnswer_of_ofLine {line text : String} (h : ofLine line = .answer text) :
    text = line ∧ IsAnswer line := by
  simp only [ofLine] at h
  split at h
  · cases h
  · rename_i hstays
    split at h
    case h_6 hblank hlog hvars htranscript hreset =>
      cases h
      refine ⟨rfl, hblank, by simpa using hstays, ?_⟩
      simp only [List.mem_cons, List.not_mem_nil, or_false, not_or]
      exact ⟨hlog, hvars, htranscript, hreset⟩
    all_goals cases h

theorem ofLine_eq_reset_iff (line : String) :
    ofLine line = .reset ↔ Text.trim line = "/reset" := by
  constructor
  · intro h
    simp only [ofLine] at h
    split at h
    · cases h
    · split at h
      case h_5 hword => exact hword
      all_goals cases h
  · intro h
    have hstays : ["exit", "quit", "q"].contains (Text.lower "/reset") = false := by decide
    simp only [ofLine, h, hstays]
    rfl

end Command

namespace Shell

/-- Lines that a session goes on after. -/
def stays (line : String) : Bool := Command.ofLine line ≠ .leave

/-- Does what a line asks for at the prompt, if its operation comes back. -/
def heed (before : Shell × List View) (line : String) : Option (Shell × List View) :=
  let done := before.1.obey (.ofLine line)
  done.2.map fun s => (s, before.2 ++ .prompt :: done.1)

/-- The session before the prompt that follows the lines, with what it has shown. There is none
once an operation does not come back. -/
def upTo (s : Shell) (lines : List String) : Option (Shell × List View) :=
  s.begin.2.bind fun s' => lines.foldlM heed (s', s.begin.1)

/-- What is shown for the last time. -/
def closing (lines : List String) : View := if lines.all stays then .endOfInput else .farewell

/-- The conversation after an operation that came back. -/
def returned : Conversation × Outcome → Option Conversation
  | (c, .returned _) => some c
  | _ => none

/-- The conversation after the calls that a line leads to. -/
def told (s : Shell) (line : String) : Option Conversation :=
  if Command.IsAnswer line ∧ s.snapshot.status = .waiting then returned (s.conversation.send line)
  else if Text.trim line = "/reset" then returned s.conversation.reset.start
  else some s.conversation

/-- A shell that is opened on a flow. -/
def opened (flow : Flow) (settings : Settings) (store : Option RunStore) (g : Gateway) : Shell where
  conversation := { session := .make { flow := flow, settings := settings } store, gateway := g }

/-- Whatever the environment, a shell that can be opened is one on the flow. -/
theorem make_opened {flow : Flow} {env : Environment} {overrides : List (String × Json)}
    {place : String} {disk : Disk} {transport : Http.Transport} {s : Shell}
    (h : make flow env overrides place disk transport = .ok s) :
    ∃ settings store g, s = opened flow settings store g := by
  unfold make at h
  obtain ⟨settings, -, h⟩ := exists_of_bind h
  obtain ⟨effects, -, h⟩ := exists_of_bind h
  dsimp only at h
  generalize (if place = "" then env.storePath else place) = place at h
  by_cases hplace : place = ""
  · rw [if_pos hplace] at h
    obtain ⟨store, -, h⟩ := exists_of_bind h
    exact ⟨settings, store, _, (Except.ok.inj h).symm⟩
  · rw [if_neg hplace] at h
    obtain ⟨store, -, h⟩ := exists_of_bind h
    exact ⟨settings, store, _, (Except.ok.inj h).symm⟩

variable {s t : Shell} {views views' : List View}

theorem upTo_concat (s : Shell) (lines : List String) (line : String) :
    s.upTo (lines ++ [line]) = (s.upTo lines).bind (heed · line) := by
  simp only [upTo, List.foldlM_append, List.foldlM_cons, List.foldlM_nil, bind_pure,
    Option.bind_eq_bind, Option.bind_assoc]

theorem heed_eq_some_iff {before after : Shell × List View} {line : String} :
    heed before line = some after ↔ ∃ next views,
      before.1.obey (.ofLine line) = (views, some next) ∧
        after = (next, before.2 ++ .prompt :: views) := by
  rw [heed]
  generalize before.1.obey (.ofLine line) = done
  obtain ⟨views, next⟩ := done
  cases next with
  | none => simp
  | some next => simp [eq_comm]

theorem upTo_eq_some_iff {lines : List String} :
    s.upTo lines = some (t, views) ↔ ∃ next already,
      s.begin = (already, some next) ∧ lines.foldlM heed (next, already) = some (t, views) := by
  rw [upTo]
  generalize s.begin = begun
  obtain ⟨already, next⟩ := begun
  cases next with
  | none => simp
  | some next => simp

theorem foldlM_heed_cons {before : Shell × List View} {line : String} {lines : List String} :
    (line :: lines).foldlM heed before = some (t, views) ↔
      ∃ after, heed before line = some after ∧ lines.foldlM heed after = some (t, views) := by
  rw [List.foldlM_cons, Option.bind_eq_bind, Option.bind_eq_some_iff]

theorem stays_iff {line : String} : stays line ↔ Command.ofLine line ≠ .leave := by
  simp [stays]

theorem converse_of_stays {line : String} (hline : stays line) {next : Shell}
    (h : s.obey (.ofLine line) = (views, some next)) (lines : List String) :
    s.converse (line :: lines) = .prompt :: views ++ next.converse lines := by
  simp only [converse, h, if_neg (stays_iff.mp hline)]

theorem converse_append {typed : List String} (hstays : ∀ line ∈ typed, stays line)
    (h : typed.foldlM heed (s, views) = some (t, views')) (rest : List String) :
    views ++ s.converse (typed ++ rest) = views' ++ t.converse rest := by
  induction typed generalizing s views with
  | nil =>
      cases h
      rfl
  | cons line typed ih =>
      obtain ⟨hline, htyped⟩ := List.forall_mem_cons.mp hstays
      obtain ⟨_, hheed, h⟩ := foldlM_heed_cons.mp h
      obtain ⟨next, shown, hobey, rfl⟩ := heed_eq_some_iff.mp hheed
      rw [List.cons_append, converse_of_stays hline hobey, ← List.append_assoc]
      exact ih htyped h

theorem session_append {typed : List String} (hstays : ∀ line ∈ typed, stays line)
    (h : s.upTo typed = some (t, views)) (rest : List String) :
    s.session (typed ++ rest) = views ++ t.converse rest := by
  obtain ⟨next, already, hbegin, h⟩ := upTo_eq_some_iff.mp h
  rw [session, hbegin]
  exact converse_append hstays h rest

theorem prompt_isPrefix (s : Shell) (lines : List String) : [.prompt] <+: s.converse lines := by
  cases lines with
  | nil => exact ⟨_, rfl⟩
  | cons line lines =>
      rw [converse]
      split
      · exact ⟨_, rfl⟩
      · split
        · exact ⟨_, rfl⟩
        · exact ⟨_, rfl⟩

theorem converse_dropWhile (s : Shell) (lines : List String) :
    s.converse (lines.dropWhile stays) = [.prompt, closing lines] := by
  induction lines with
  | nil => rfl
  | cons line lines ih =>
      by_cases hline : stays line
      · have hclosing : closing (line :: lines) = closing lines := by simp [closing, hline]
        rw [List.dropWhile_cons_of_pos hline, ih, hclosing]
      · have hclosing : closing (line :: lines) = .farewell := by simp [closing, hline]
        have hleave : Command.ofLine line = .leave := by simpa [stays] using hline
        rw [List.dropWhile_cons_of_neg hline, hclosing]
        simp [converse, obey, hleave]

theorem stays_of_mem_takeWhile {lines : List String} :
    ∀ line ∈ lines.takeWhile stays, stays line :=
  fun _ hline => List.mem_takeWhile_imp hline

theorem session_eq {lines : List String}
    (h : s.upTo (lines.takeWhile stays) = some (t, views)) :
    s.session lines = views ++ [.prompt, closing lines] := by
  have hsession := session_append stays_of_mem_takeWhile h (lines.dropWhile stays)
  rwa [List.takeWhile_append_dropWhile, converse_dropWhile] at hsession

/-- What the shell has shown before a prompt, and the prompt, stay on the screen. -/
theorem prompt_stays {typed lines : List String} (htyped : typed <+: lines.takeWhile stays)
    (h : s.upTo typed = some (t, views)) : views ++ [.prompt] <+: s.session lines := by
  obtain ⟨rest, rfl⟩ := htyped.trans (List.takeWhile_prefix _)
  rw [session_append (fun line hline => stays_of_mem_takeWhile line (htyped.subset hline)) h]
  exact (List.prefix_append_right_inj views).mpr (prompt_isPrefix t rest)

/-! ### Nothing is skipped and nothing is repeated -/

/-- All that was said has been shown, once. -/
structure Shows (s : Shell) (views : List View) : Prop where
  handlers : s.conversation.session.engine.handlers = []
  shown : s.shown = s.conversation.session.current.messages.length
  heard : heard views = s.conversation.session.runs.map (·.messages)

/-- What is shown after an operation on the current run that came back. `already` was shown
before it. -/
theorem Shows.resume {already : List View} (h : s.Shows (views ++ already))
    {done : Conversation × Outcome}
    (hc : s.conversation.session.Continues (done.1.session, done.2))
    (hnext : s.resume already done = (views', some t)) : t.Shows (views ++ views') := by
  obtain ⟨c, outcome⟩ := done
  cases outcome with
  | waiting p => cases hnext
  | endless => cases hnext
  | returned snapshot =>
      obtain ⟨new, hnew⟩ := hc.speaks
      have hdrop : c.session.current.messages.drop s.shown = new := by
        rw [← hnew, h.shown, List.drop_left]
      cases hnext
      refine ⟨hc.engine ▸ h.handlers, rfl, ?_⟩
      show Console.heard (views ++ (already ++
        ((c.session.current.messages.drop s.shown).map View.message ++
          [.status c.session.current.snapshot]))) = _
      rw [← List.append_assoc, heard_append, h.heard, hdrop, List.foldl_append]
      simp only [Session.runs, List.map_cons, foldl_hear_messages, hnew]
      show c.session.current.messages :: s.conversation.session.discarded.map (·.messages) = _
      rw [← hc.discarded]

theorem Shows.call {already : List View} (h : s.Shows (views ++ already)) (c : Call)
    (hnext : s.resume already (s.conversation.carry c.on) = (views', some t)) :
    t.Shows (views ++ views') :=
  h.resume (s.conversation.carry_continues h.handlers c) hnext

theorem Shows.reset (h : s.Shows views) :
    Shows ⟨s.conversation.reset, 0⟩ (views ++ [.restarted]) := by
  refine ⟨h.handlers, rfl, ?_⟩
  rw [heard_append, h.heard]
  rfl

theorem Shows.aside (h : s.Shows views) {v : View} (hv : v.Aside) : s.Shows (views ++ [v]) := by
  refine ⟨h.handlers, h.shown, ?_⟩
  rw [heard_append, h.heard]
  exact hv _

theorem Shows.obey (h : s.Shows views) {command : Command}
    (hnext : s.obey command = (views', some t)) : t.Shows (views ++ views') := by
  have hnil : s.Shows (views ++ []) := by rwa [List.append_nil]
  cases command with
  | leave | log | vars | transcript =>
      cases hnext
      exact h.aside fun _ => rfl
  | nothing =>
      cases hnext
      exact hnil
  | reset => exact h.reset.call .start hnext
  | answer text =>
      rw [Shell.obey] at hnext
      split at hnext
      · exact hnil.call (.send text) hnext
      · cases hnext
        exact h.aside fun _ => rfl

theorem Shows.heed {before after : Shell × List View} (h : before.1.Shows before.2)
    {line : String} (hheed : Shell.heed before line = some after) : after.1.Shows after.2 := by
  obtain ⟨next, new, hobey, rfl⟩ := heed_eq_some_iff.mp hheed
  have hprompt : before.1.Shows (before.2 ++ [.prompt]) := h.aside fun _ => rfl
  have hshows := hprompt.obey hobey
  rwa [List.append_assoc, List.singleton_append] at hshows

theorem Shows.heedAll {before : Shell × List View} (h : before.1.Shows before.2)
    {lines : List String} (hlines : lines.foldlM Shell.heed before = some (t, views)) :
    t.Shows views := by
  induction lines generalizing before with
  | nil =>
      cases hlines
      exact h
  | cons line lines ih =>
      obtain ⟨after, hheed, hlines⟩ := foldlM_heed_cons.mp hlines
      exact ih (h.heed hheed) hlines

theorem opened_shows {flow : Flow} {settings : Settings} {store : Option RunStore} {g : Gateway}
    {lines : List String} (h : (opened flow settings store g).upTo lines = some (t, views)) :
    t.Shows views := by
  obtain ⟨next, already, hbegin, h⟩ := upTo_eq_some_iff.mp h
  have hopened : (opened flow settings store g).Shows ([] ++ [.heading flow settings]) :=
    ⟨rfl, rfl, rfl⟩
  exact (hopened.call .start hbegin).heedAll h

/-! ### What is sent -/

theorem resume_returned (s : Shell) (already : List View) (done : Conversation × Outcome) :
    (s.resume already done).2.map (·.conversation) = returned done := by
  obtain ⟨c, outcome⟩ := done
  cases outcome with
  | returned snapshot => rfl
  | waiting p => rfl
  | endless => rfl

theorem obey_told (s : Shell) (line : String) :
    (s.obey (.ofLine line)).2.map (·.conversation) = s.told line := by
  simp only [told, ← Command.ofLine_eq_reset_iff]
  by_cases hanswer : Command.IsAnswer line
  · simp only [Command.ofLine_of_isAnswer hanswer, obey, hanswer, true_and, reduceCtorEq, if_false]
    split
    · exact resume_returned s [] _
    · rfl
  · rw [if_neg fun h => hanswer h.1]
    cases hcommand : Command.ofLine line with
    | answer text => exact absurd (Command.isAnswer_of_ofLine hcommand).2 hanswer
    | reset => exact resume_returned _ _ _
    | leave | nothing | log | vars | transcript => rfl

theorem upTo_nil (s : Shell) :
    (s.upTo []).map (·.1.conversation) = returned s.conversation.start := by
  rw [← resume_returned s [.heading s.conversation.session.engine.flow
    s.conversation.session.engine.settings]]
  simp only [upTo, List.foldlM_nil]
  show (Option.bind s.begin.2 _).map _ = s.begin.2.map _
  cases s.begin.2 with
  | none => rfl
  | some next => rfl

theorem heed_told (before : Shell × List View) (line : String) :
    (heed before line).map (·.1.conversation) = before.1.told line := by
  rw [← obey_told, heed, Option.map_map]
  rfl

/-- A session shows what each run says, once and in order, before the next prompt. It sends the
lines that are answers, as they were typed, and no others, and goes on as long as each call comes
back. -/
theorem session_shows (flow : Flow) (settings : Settings) (store : Option RunStore) (g : Gateway)
    (lines : List String) :
    let s := opened flow settings store g
    (s.upTo []).map (·.1.conversation) = returned s.conversation.start ∧
    (∀ t views, s.upTo (lines.takeWhile stays) = some (t, views) →
      s.session lines = views ++ [.prompt, closing lines]) ∧
    ∀ typed, typed <+: lines.takeWhile stays → ∀ t views, s.upTo typed = some (t, views) →
      views ++ [.prompt] <+: s.session lines ∧
      heard views = t.conversation.session.runs.map (·.messages) ∧
      ∀ line, (s.upTo (typed ++ [line])).map (·.1.conversation) = t.told line := by
  intro s
  refine ⟨s.upTo_nil, fun t views h => session_eq h, ?_⟩
  intro typed htyped t views h
  refine ⟨prompt_stays htyped h, (opened_shows h).heard, ?_⟩
  intro line
  rw [upTo_concat, h, Option.bind_some, heed_told]

/-- A run that is answered once and completes: all it says is shown, and the session ends. -/
theorem errand_shows :
    let s := opened Scene.errand.flow default none (.builtin "" "" {})
    ∃ t views, s.upTo ["Ana"] = some (t, views) ∧ t.snapshot.status = .completed ∧
      s.session ["Ana", "exit"] = views ++ [.prompt, .farewell] ∧
      heard views = t.conversation.session.runs.map (·.messages) := by
  intro s
  obtain ⟨-, hsession, hshown⟩ :=
    session_shows Scene.errand.flow default none (.builtin "" "" {}) ["Ana", "exit"]
  have hstays : ["Ana", "exit"].takeWhile stays = ["Ana"] := by decide
  have hcompleted : (s.upTo ["Ana"]).map (·.1.snapshot.status) = some .completed := by
    decide +kernel
  obtain ⟨⟨t, views⟩, hupTo, hstatus⟩ := Option.map_eq_some_iff.mp hcompleted
  rw [hstays] at hsession hshown
  exact ⟨t, views, hupTo, hstatus, hsession t views hupTo,
    (hshown _ List.prefix_rfl t views hupTo).2.1⟩

end Shell
end Dialogue.Console
