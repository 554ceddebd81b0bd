import Dialogue.Proofs.Console.Session
import Dialogue.Proofs.Console.Table
import Dialogue.Proofs.Console.Verbatim
import Dialogue.Proofs.Session.Schedule

/-!
# Sessions that are not broken off

A view whose texts can be written and have no markup where it is looked for can be shown
(`View.Legible.succeeds`). A session of such views ends with the farewell or at the end of input,
and its messages and statuses are shown as they are (`Shell.session_verbatim`).
-/
namespace Dialogue.Console

open Reading

theorem presentable_styled {style : String} {ending before text : List Char} {markup : String}
    (hstyle : style ∈ styleNames) (hending : IsEnding style.toList ending)
    (hbefore : Phrase before) (htext : Phrase text)
    (hmarkup : markup.toList =
      before ++ '[' :: (style.toList ++ ']' :: (text ++ '[' :: (ending ++ [']'])))) :
    Presentable markup := by
  have hreads := (leads_styled (isStyle_of_mem hstyle) hending hbefore htext
    (rfl : ({} : Reading).tags = []) []).reads (reads_literal (by decide : Literal []) _)
  rw [say_say, ← hmarkup, List.append_nil] at hreads
  exact presentable_of_reads hreads
    (List.forall_mem_append.mpr ⟨hbefore.visible, htext.visible⟩)

theorem succeeds_dim {before text : List Char} {markup : String} (hbefore : Phrase before)
    (htext : Phrase text) (hmarkup : markup.toList =
      before ++ '[' :: ("dim".toList ++ ']' :: (text ++ '[' :: ('/' :: "dim".toList ++ [']'])))) :
    Succeeds (printed markup) := by
  have hdim : "dim" ∈ styleNames := by simp [styleNames]
  exact (presentable_styled hdim (.inr rfl) hbefore htext hmarkup).printed

namespace View

/-- The texts of a view can be written and have no markup where it is looked for. -/
def Legible : View → Prop
  | heading flow settings => Phrase flow.name.toList ∧ Phrase
      s!"Flow: {flow.id} • Modo: {settings.mode.name} • Contato: {settings.contactName}".toList
  | message m => m.speaker = .system ∨ Literal m.content.toList
  | status s => Fits s.current ∧ Fits s.failure
  | log entries => ∀ e ∈ entries,
      (Literal e.nodeLabel.toList ∧ Literal e.nodeType.toList ∧ Literal e.action.toList) ∧
        (e.success = true ∨ e.output.hasText)
  | vars values => ∀ v ∈ values,
      (Literal v.1.toList ∧ Literal v.2.spaced.toList) ∧ v.2.hasText
  | templates ts => ∀ t ∈ ts, Literal t.flow.id.toList ∧ Literal t.flow.name.toList ∧
      Literal t.category.toList ∧ Literal t.flow.description.toList
  | loadFailure reason => Literal reason.toList
  | transcript _ | prompt | restarted | notWaiting _ | farewell | endOfInput => True

instance : DecidablePred Legible
  | heading _ _ => inferInstanceAs (Decidable (_ ∧ _))
  | message _ => inferInstanceAs (Decidable (_ ∨ _))
  | status _ => inferInstanceAs (Decidable (_ ∧ _))
  | log entries => inferInstanceAs (Decidable (∀ e ∈ entries, _))
  | vars values => inferInstanceAs (Decidable (∀ v ∈ values, _))
  | templates ts => inferInstanceAs (Decidable (∀ t ∈ ts, _))
  | loadFailure reason => inferInstanceAs (Decidable (Literal reason.toList))
  | transcript _ | prompt | restarted | notWaiting _ | farewell | endOfInput => isTrue trivial

theorem succeeds_heading {flow : Flow} {settings : Settings} (h : (heading flow settings).Legible) :
    Succeeds (headingText flow settings) := by
  obtain ⟨hname, hdetails⟩ := h
  have hdim : IsStyle "dim".toList := isStyle_of_mem (by simp [styleNames])
  have hbold : IsStyle "bold cyan".toList := isStyle_of_mem (by simp [styleNames])
  have hcommands : Phrase "Comandos: /log, /vars, /transcript, /reset, exit".toList := by decide
  have hbreak : Phrase ['\n'] := by decide
  have hthird {r : Reading} (hr : r.tags = []) :=
    (leads_styled hdim (.inr rfl) hbreak hcommands hr []).reads
      (reads_literal (by decide : Literal []) _)
  have hsecond {r : Reading} (hr : r.tags = []) :=
    (leads_styled hdim (.inr rfl) hbreak hdetails hr _).reads (hthird hr)
  have hreads := (leads_styled hbold (.inr rfl) (by decide : Phrase []) hname
    (rfl : ({} : Reading).tags = []) _).reads (hsecond rfl)
  have hvisible := List.forall_mem_append.mpr ⟨hname.visible, List.forall_mem_append.mpr
    ⟨List.forall_mem_append.mpr ⟨hbreak.visible, hdetails.visible⟩,
      List.forall_mem_append.mpr ⟨hbreak.visible, hcommands.visible⟩⟩⟩
  simp only [say_say, List.nil_append, List.append_nil, List.append_assoc] at hreads hvisible
  refine Yields.bind (presentable_of_reads ?_ hvisible) fun text htext =>
    Yields.map (succeeds_panel _ htext) fun _ => id
  simpa [toString] using hreads

theorem succeeds_told {entry : LogEntry} (h : entry.output.hasText) : Succeeds entry.told := by
  rw [LogEntry.told, Json.hasText_eq_true.mp h]
  exact ⟨_, rfl, trivial⟩

theorem succeeds_failedLine {entry : LogEntry} (h : entry.output.hasText) :
    Succeeds (entry.told.mapError ShowError.untold >>= fun line =>
      printed s!"[red]{escape line}[/red]") := by
  have hred : IsStyle "red".toList := isStyle_of_mem (by simp [styleNames])
  exact ((succeeds_told h).mapError _).bind fun line _ =>
    (styled_escape_presentable hred line (by simp [toString])).printed

theorem succeeds_totals (processed failed : Nat) (total : Number.Binary64) :
    Succeeds (printed
      s!"[dim]{processed} processados • {failed} falhas • {total.fixedText 1}ms[/dim]") := by
  have htext :
      Phrase s!"{processed} processados • {failed} falhas • {total.fixedText 1}ms".toList := by
    apply phrase_of_inert
    simp only [String.toList_append]
    exact (((((inert_toString _).append (by decide)).append (inert_toString _)).append
      (by decide)).append (inert_fixedText _ _)).append (by decide)
  exact succeeds_dim (by decide : Phrase []) htext (by simp [toString])

theorem succeeds_log {entries : List LogEntry} (h : (log entries).Legible) :
    Succeeds (logText entries) := by
  have htable : Succeeds (Table.lines ⟨"📋 Execution Log", .heavyRule, true, [
      { heading := "#", cells := entries.mapIdx fun i _ => toString (i + 1) },
      { heading := "Node", cells := entries.map (·.nodeLabel) },
      { heading := "Type", cells := entries.map (·.nodeType) },
      { heading := "Action", cells := entries.map (·.action) },
      { heading := "ms", alignment := .right, cells := entries.map (·.duration.fixedText 1) },
      { heading := "OK", alignment := .centre
        cells := entries.map fun e => if e.success then "[green]✓[/]" else "[red]✗[/]" }]⟩) := by
    apply Table.succeeds_lines
    simp only [List.forall_mem_cons, List.not_mem_nil, false_implies, implies_true, and_true,
      List.forall_mem_map]
    refine ⟨⟨Literal.presentable (by decide), ?numbers⟩,
      ⟨Literal.presentable (by decide), fun e he => (h e he).1.1.presentable⟩,
      ⟨Literal.presentable (by decide), fun e he => (h e he).1.2.1.presentable⟩,
      ⟨Literal.presentable (by decide), fun e he => (h e he).1.2.2.presentable⟩,
      ⟨Literal.presentable (by decide), fun e _ =>
        (literal_of_inert (inert_fixedText 1 e.duration)).presentable⟩,
      Literal.presentable (by decide), ?marks⟩
    case numbers =>
      intro cell hcell
      obtain ⟨i, _, rfl⟩ := List.mem_mapIdx.mp hcell
      exact (literal_of_inert (inert_toString (i + 1))).presentable
    case marks =>
      intro e _
      split
      · exact presentable_styled (by simp [styleNames] : "green" ∈ styleNames) (.inl rfl)
          (by decide : Phrase []) (by decide : Phrase ['✓']) (by decide)
      · exact presentable_styled (by simp [styleNames] : "red" ∈ styleNames) (.inl rfl)
          (by decide : Phrase []) (by decide : Phrase ['✗']) (by decide)
  have hfailed : Succeeds ((entries.filter fun e => !e.success).mapM fun e => do
      let line ← e.told.mapError .untold
      printed s!"[red]{escape line}[/red]") := by
    refine succeeds_mapM fun e he => ?_
    obtain ⟨hmem, hfails⟩ := List.mem_filter.mp he
    have hsuccess : e.success ≠ true := by simpa using hfails
    exact succeeds_failedLine ((h e hmem).2.resolve_left hsuccess)
  exact htable.bind fun table _ => hfailed.bind fun failed _ =>
    (succeeds_totals _ _ _).bind fun totals _ => ⟨_, rfl, trivial⟩

theorem succeeds_vars {values : Variables} (h : (vars values).Legible) :
    Succeeds (varsText values) := by
  have htexts : values.findSome? (·.2.fault?) = none := by
    rw [List.findSome?_eq_none_iff]
    exact fun v hv => Json.hasText_eq_true.mp (h v hv).2
  rw [varsText, htexts]
  refine Yields.map (Table.succeeds_lines ?_) fun _ => id
  simp only [List.forall_mem_cons, List.not_mem_nil, false_implies, implies_true, and_true,
    List.forall_mem_map]
  exact ⟨⟨Literal.presentable (by decide), fun v hv => (h v hv).1.1.presentable⟩,
    Literal.presentable (by decide), fun v hv => (h v hv).1.2.presentable⟩

theorem succeeds_templates {ts : List Template} (h : (templates ts).Legible) :
    Succeeds (templatesText ts) := by
  refine Yields.map (Table.succeeds_lines ?_) fun _ => id
  simp only [List.forall_mem_cons, List.not_mem_nil, false_implies, implies_true, and_true,
    List.forall_mem_map]
  exact ⟨⟨Literal.presentable (by decide), fun t ht => (h t ht).1.presentable⟩,
    ⟨Literal.presentable (by decide), fun t ht => (h t ht).2.1.presentable⟩,
    ⟨Literal.presentable (by decide), fun t ht => (h t ht).2.2.1.presentable⟩,
    Literal.presentable (by decide), fun t ht => (h t ht).2.2.2.presentable⟩

theorem succeeds_transcript (messages : List Message) : Succeeds (transcriptText messages) := by
  unfold transcriptText
  dsimp only
  split
  · exact succeeds_dim (by decide : Phrase []) (by decide : Phrase "(vazio)".toList) (by decide)
  · exact (escape_presentable _).printed

theorem succeeds_loadFailure {reason : String} (h : (loadFailure reason).Legible) :
    Succeeds (printed s!"[bold red]Failed to load flow:[/] {reason}") := by
  have hstyle : IsStyle "bold red".toList := isStyle_of_mem (by simp [styleNames])
  have hrest : Literal (' ' :: reason.toList) := (literal_cons_iff (by decide)).mpr h
  have htext : Phrase "Failed to load flow:".toList := by decide
  have hreads := (leads_styled hstyle (.inl rfl) (by decide : Phrase []) htext
    (rfl : ({} : Reading).tags = []) _).reads (reads_literal hrest _)
  rw [say_say] at hreads
  refine (presentable_of_reads (by simpa [toString] using hreads) ?_).printed
  exact List.forall_mem_append.mpr ⟨htext.visible, hrest.visible⟩

theorem succeeds_notWaiting (s : Status) : Succeeds (notWaiting s).text := by
  have htext : Phrase
      s!"O fluxo não aguarda entrada (status: {s.name}). Use /reset.".toList := by
    cases s <;> decide
  exact succeeds_dim (by decide : Phrase []) htext (by simp [toString])

/-- A legible view can be shown. -/
theorem Legible.succeeds {v : View} (h : v.Legible) : Succeeds v.text := by
  cases v with
  | heading flow settings => exact succeeds_heading h
  | message m =>
      rw [text, messageText_eq h]
      exact succeeds_shown (sound_plain _)
  | status s =>
      rw [text, statusText_eq h.1 h.2]
      exact succeeds_shown (sound_plain _)
  | log entries => exact succeeds_log h
  | vars values => exact succeeds_vars h
  | transcript messages => exact succeeds_transcript messages
  | templates ts => exact succeeds_templates h
  | prompt => exact ⟨_, rfl, trivial⟩
  | restarted =>
      exact (presentable_styled (by simp [styleNames] : "yellow" ∈ styleNames) (.inr rfl)
        (by decide : Phrase []) (by decide : Phrase "Execução reiniciada.".toList)
        (by decide)).printed
  | notWaiting s => exact succeeds_notWaiting s
  | farewell =>
      exact succeeds_dim (by decide : Phrase []) (by decide : Phrase "Até mais! 👋".toList)
        (by decide)
  | endOfInput =>
      exact succeeds_dim (by decide : Phrase ['\n']) (by decide : Phrase "Até mais! 👋".toList)
        (by decide)
  | loadFailure reason => exact succeeds_loadFailure h

/-- The message that a view shows. -/
def message? : View → Option Message
  | message m => some m
  | _ => none

theorem mem_filterMap_message? {views : List View} {m : Message} :
    m ∈ views.filterMap message? ↔ .message m ∈ views := by
  rw [List.mem_filterMap]
  constructor
  · rintro ⟨v, hv, hm⟩
    cases v with
    | message m' =>
        cases hm
        exact hv
    | _ => cases hm
  · exact fun hm => ⟨.message m, hm, rfl⟩

end View

/-! ### Sessions -/

theorem Screen.failure_putAll {screen : Screen} {views : List View} (hwhole : screen.failure = none)
    (h : ∀ v ∈ views, Succeeds v.text) : (screen.putAll views).failure = none := by
  induction views generalizing screen with
  | nil => exact hwhole
  | cons v views ih =>
      obtain ⟨shown, hshown, -⟩ := h v List.mem_cons_self
      refine ih ?_ fun v hv => h v (List.mem_cons_of_mem _ hv)
      rw [put, hwhole, hshown]

theorem Screen.failure_putAll_ne_none {screen : Screen} {views : List View} {v : View}
    {e : ShowError} (hv : v ∈ views) (h : v.text = .error e) :
    (screen.putAll views).failure ≠ none := by
  have hstays (screen : Screen) (hfailed : screen.failure ≠ none) (v : View) :
      (screen.put v).failure ≠ none := by
    obtain ⟨e, he⟩ := Option.ne_none_iff_exists'.mp hfailed
    rw [put, he]
    exact hfailed
  have hall (screen : Screen) (hfailed : screen.failure ≠ none) (views : List View) :
      (screen.putAll views).failure ≠ none := by
    induction views generalizing screen with
    | nil => exact hfailed
    | cons v views ih => exact ih _ (hstays screen hfailed v)
  obtain ⟨before, after, rfl⟩ := List.append_of_mem hv
  rw [putAll, List.foldl_append]
  refine hall _ ?_ after
  generalize before.foldl put screen = screen
  cases hfailure : screen.failure with
  | none => simp [put, hfailure, h]
  | some e => exact hstays screen (by simp [hfailure]) v

/-- A text is shown as it is: on the lines of the screen, and on one of them if it fits. -/
structure Verbatim (line : String) (text : Except ShowError String) : Prop where
  lines : text = .ok (joinLines (plainLines line.toList))
  whole : Steady line.toList → line.toList.length ≤ screenWidth →
    Text.width line.toList ≤ screenWidth → text = .ok (line ++ "\n")

theorem verbatim_of_plain {line : String} {text : Except ShowError String}
    (h : text = shown (.plain line.toList)) : Verbatim line text where
  lines := h.trans (shown_plain _)
  whole hsteady hlength hwidth := by
    rw [h, shown_of_fits hsteady hlength hwidth, String.ofList_append, String.ofList_toList]

namespace Shell

/-- A session of legible views shows its messages and statuses as they are, and ends with the
farewell or at the end of input. -/
theorem session_verbatim {s : Shell} {lines : List String}
    (h : ∀ v ∈ s.session lines, v.Legible) :
    (∀ m, .message m ∈ s.session lines → Verbatim (messageLine m) (messageText m)) ∧
    (∀ snapshot, .status snapshot ∈ s.session lines →
      Verbatim (statusLine snapshot) (statusText snapshot)) ∧
    (Screen.putAll {} (s.session lines)).failure = none ∧
    ∀ t views, s.upTo (lines.takeWhile stays) = some (t, views) →
      s.session lines = views ++ [.prompt, closing lines] := by
  refine ⟨fun m hm => ?_, fun snapshot hs => ?_, ?_, fun t views hupTo => session_eq hupTo⟩
  · exact verbatim_of_plain (messageText_eq (h _ hm))
  · exact verbatim_of_plain (statusText_eq (h _ hs).1 (h _ hs).2)
  · exact Screen.failure_putAll rfl fun v hv => (h v hv).succeeds

/-- An answer without markup is shown on its line, and the session goes on to its end. -/
theorem errand_verbatim :
    let s := opened Scene.errand.flow default none (.builtin "" "" {})
    (∀ v ∈ s.session ["Ana", "exit"], v.Legible) ∧
    (∃ m, .message m ∈ s.session ["Ana", "exit"] ∧ messageText m = .ok "👤 Você → Ana\n") ∧
    (Screen.putAll {} (s.session ["Ana", "exit"])).failure = none := by
  intro s
  have hlegible : ∀ v ∈ s.session ["Ana", "exit"], v.Legible := by decide +kernel
  obtain ⟨hmessages, -, hwhole, -⟩ := session_verbatim hlegible
  obtain ⟨m, hm, hline⟩ : ∃ m ∈ (s.session ["Ana", "exit"]).filterMap View.message?,
    messageLine m = "👤 Você → Ana" := by decide +kernel
  rw [View.mem_filterMap_message?] at hm
  have hshown := (hmessages m hm).whole
  rw [hline] at hshown
  exact ⟨hlegible, ⟨m, hm, hshown (by decide) (by decide) (by decide +kernel)⟩, hwhole⟩

/-- An answer that ends a style which was never begun breaks the session off. -/
theorem errand_interrupted :
    let s := opened Scene.errand.flow default none (.builtin "" "" {})
    (∃ m, .message m ∈ s.session ["[/]", "exit"] ∧ m.content = "[/]" ∧
      ¬ ∃ text, messageText m = .ok text) ∧
    (Screen.putAll {} (s.session ["[/]", "exit"])).failure ≠ none := by
  intro s
  obtain ⟨m, hm, hspeaker, hcontent⟩ :
    ∃ m ∈ (s.session ["[/]", "exit"]).filterMap View.message?,
      m.speaker ≠ .system ∧ m.content = "[/]" := by decide +kernel
  rw [View.mem_filterMap_message?] at hm
  have htag : m.content.toList = [] ++ '[' :: '/' :: ']' :: [] := by
    rw [hcontent]
    decide
  obtain ⟨position, herror⟩ := messageText_eq_error hspeaker (by decide : Phrase []) htag
  refine ⟨⟨m, hm, hcontent, ?_⟩, Screen.failure_putAll_ne_none hm herror⟩
  rintro ⟨text, htext⟩
  cases htext.symm.trans herror

end Shell

end Dialogue.Console
