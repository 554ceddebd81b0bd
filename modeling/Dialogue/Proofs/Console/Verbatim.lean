import Dialogue.Proofs.Console.Reading

/-!
# Messages and statuses on the screen

A message or a status whose texts have no markup is shown as it is (`messageText_eq`,
`statusText_eq`).
-/
namespace Dialogue.Console

open Reading

/-- The styles of the screen. -/
def styleNames : List String :=
  ["bold cyan", "bold green", "cyan", "dim", "bold red", "red", "green", "yellow"]

theorem isStyle_of_mem {name : String} (h : name ∈ styleNames) : IsStyle name.toList := by
  simp only [styleNames, List.mem_cons, List.not_mem_nil, or_false] at h
  rcases h with rfl | rfl | rfl | rfl | rfl | rfl | rfl | rfl
  all_goals exact ⟨by decide, by decide, by decide, by decide, by decide +kernel, rfl, rfl⟩

/-! ### Messages -/

/-- A speaker behind its sign. -/
def speakerText (s : Speaker) : String := s!"{(speakerLook s).1} {s.title}"

/-- The text of a message as it is to be shown. -/
def messageLine (m : Message) : String :=
  if m.speaker = .system then s!"  {speakerText m.speaker}: {m.content}"
  else s!"{speakerText m.speaker} → {m.content}"

/-- The markup of a message that is not of the system. -/
def messageMarkup (m : Message) : String :=
  s!"[bold {(speakerLook m.speaker).2}]{speakerText m.speaker}[/] → {m.content}"

theorem messageText_system {m : Message} (h : m.speaker = .system) :
    messageText m = shown (.plain (messageLine m).toList) := by
  simp only [messageText, messageLine, speakerText, h, if_true]

theorem messageText_spoken {m : Message} (h : m.speaker ≠ .system) :
    messageText m = printed (messageMarkup m) := by
  simp only [messageText, messageMarkup, speakerText, h, if_false]

theorem phrase_speakerText (s : Speaker) : Phrase (speakerText s).toList := by cases s <;> decide

theorem printed_of_reads {markup line : String} (h : Reads {} markup.toList (say {} line.toList))
    (hv : ∀ c ∈ line.toList, isHidden c = false) :
    printed markup = shown (.plain line.toList) := by
  rw [printed, ofMarkup_of_reads h hv]
  rfl

theorem leads_spoken {m : Message} (h : m.speaker ≠ .system) :
    ({} : Reading).Leads (messageMarkup m).toList (say {} (speakerText m.speaker).toList)
      (" → ".toList ++ m.content.toList) := by
  have hstyle : IsStyle ("bold " ++ (speakerLook m.speaker).2).toList := by
    apply isStyle_of_mem
    cases hs : m.speaker with
    | system => exact absurd hs h
    | bot | user => decide
  have hleads := leads_styled hstyle (.inl rfl) (by decide : Phrase [])
    (phrase_speakerText m.speaker) (rfl : ({} : Reading).tags = [])
    (" → ".toList ++ m.content.toList)
  simpa [messageMarkup, toString] using hleads

theorem messageLine_spoken {m : Message} (h : m.speaker ≠ .system) : (messageLine m).toList =
    (speakerText m.speaker).toList ++ (" → ".toList ++ m.content.toList) := by
  simp [messageLine, h, toString]

/-- A message without markup is shown as it is, and one of the system whatever it holds. -/
theorem messageText_eq {m : Message} (h : m.speaker = .system ∨ Literal m.content.toList) :
    messageText m = shown (.plain (messageLine m).toList) := by
  by_cases hsystem : m.speaker = .system
  · exact messageText_system hsystem
  · have hline := messageLine_spoken hsystem
    have hrest : Literal (" → ".toList ++ m.content.toList) :=
      (literal_append_iff (by decide)).mpr (h.resolve_left hsystem)
    have hreads := (leads_spoken hsystem).reads (reads_literal hrest _)
    rw [say_say, ← hline] at hreads
    rw [messageText_spoken hsystem]
    apply printed_of_reads hreads
    rw [hline]
    exact List.forall_mem_append.mpr ⟨(phrase_speakerText _).visible, hrest.visible⟩

theorem messageText_eq_error {m : Message} {before rest : List Char}
    (hsystem : m.speaker ≠ .system) (hbefore : Phrase before)
    (hcontent : m.content.toList = before ++ '[' :: '/' :: ']' :: rest) :
    ∃ position, messageText m = .error (.markup (.nothingToClose position)) := by
  obtain ⟨position, hread⟩ := leads_spoken hsystem 0
  have harrow : Phrase (" → ".toList ++ before) := hbefore.append (by decide)
  have htag := read_tag harrow (by decide : IsBody ['/']) position
    (say {} (speakerText m.speaker).toList) rest
  have hcontent : " → ".toList ++ m.content.toList =
      " → ".toList ++ before ++ '[' :: (['/'] ++ ']' :: rest) := by
    rw [hcontent, List.append_assoc]
    rfl
  refine ⟨position + (" → ".toList ++ before).length, ?_⟩
  rw [hcontent, htag] at hread
  rw [messageText_spoken hsystem, printed, ofMarkup_eq, hread]
  rfl

/-! ### Statuses -/

/-- The text of a status as it is to be shown. -/
def statusLine (s : Snapshot) : String :=
  s!"status: {s.status.name}" ++ statusPart (fun id => s!" • nó: {id}") s.current
    ++ statusPart (fun e => s!" • erro: {e}") s.failure

/-- Texts that can stand in a part of a status. -/
def Fits (o : Option String) : Prop := ∀ text ∈ o, Phrase text.toList

instance (o : Option String) : Decidable (Fits o) := inferInstanceAs (Decidable (∀ text ∈ o, _))

/-- The two ways in which a part of a status is written. -/
structure IsPart (style ending label : List Char) (styled unstyled : String → String) : Prop where
  isStyle : IsStyle style
  isEnding : IsEnding style ending
  inert : InertText label
  styled : ∀ text, (styled text).toList = ' ' :: '[' ::
    (style ++ ']' :: (label ++ ':' :: ' ' :: text.toList ++ '[' :: (ending ++ [']'])))
  unstyled : ∀ text, (unstyled text).toList = ' ' :: (label ++ ':' :: ' ' :: text.toList)

namespace IsPart

variable {style ending label : List Char} {styled unstyled : String → String} {o : Option String}

theorem phrase (h : IsPart style ending label styled unstyled) (ho : Fits o) :
    Phrase (statusPart unstyled o).toList := by
  cases o with
  | none => exact (by decide : Phrase "".toList)
  | some text =>
      by_cases hempty : text = ""
      · rw [statusPart, if_pos hempty]
        decide
      · have htext := (ho text rfl).labelled h.inert
        rw [statusPart, if_neg hempty, h.unstyled]
        exact htext.append (by decide : InertText [' '])

theorem leads (h : IsPart style ending label styled unstyled) (ho : Fits o) {r : Reading}
    (hr : r.tags = []) (rest : List Char) :
    r.Leads ((statusPart styled o).toList ++ rest) (r.say (statusPart unstyled o).toList) rest := by
  have hnothing : r.Leads ("".toList ++ rest) (r.say "".toList) rest :=
    fun position => ⟨position, rfl⟩
  cases o with
  | none => exact hnothing
  | some text =>
      by_cases hempty : text = ""
      · rw [statusPart, statusPart, if_pos hempty, if_pos hempty]
        exact hnothing
      · rw [statusPart, statusPart, if_neg hempty, if_neg hempty, h.styled, h.unstyled]
        have hleads := leads_styled h.isStyle h.isEnding (by decide : Phrase [' '])
          ((ho text rfl).labelled h.inert) hr rest
        simpa [List.append_assoc] using hleads

end IsPart

theorem isPart_current : IsPart "dim".toList "/dim".toList "• nó".toList
    (fun id => s!" [dim]• nó: {id}[/dim]") (fun id => s!" • nó: {id}") where
  isStyle := isStyle_of_mem (by simp [styleNames])
  isEnding := .inr (by decide)
  inert := by decide
  styled := by simp [toString]
  unstyled := by simp [toString]

theorem isPart_failure : IsPart "bold red".toList "/".toList "• erro".toList
    (fun e => s!" [bold red]• erro: {e}[/]") (fun e => s!" • erro: {e}") where
  isStyle := isStyle_of_mem (by simp [styleNames])
  isEnding := .inl (by decide)
  inert := by decide
  styled := by simp [toString]
  unstyled := by simp [toString]

theorem statusText_eq {s : Snapshot} (hcurrent : Fits s.current) (hfailure : Fits s.failure) :
    statusText s = shown (.plain (statusLine s).toList) := by
  have hstyle : IsStyle (statusStyle s.status).toList := by
    apply isStyle_of_mem
    cases s.status <;> simp [statusStyle, styleNames]
  have hname : Phrase s!"status: {s.status.name}".toList := by cases s.status <;> decide
  have hfailureReads {r : Reading} (hr : r.tags = []) :=
    (isPart_failure.leads hfailure hr []).reads (reads_literal (by decide : Literal []) _)
  have hcurrentReads {r : Reading} (hr : r.tags = []) :=
    (isPart_current.leads hcurrent hr _).reads (hfailureReads hr)
  have hreads := (leads_styled hstyle (.inl rfl) (by decide : Phrase []) hname
    (rfl : ({} : Reading).tags = []) _).reads (hcurrentReads rfl)
  have hcurrentPhrase := isPart_current.phrase hcurrent
  have hfailurePhrase := isPart_failure.phrase hfailure
  apply printed_of_reads
  · simp only [say_say] at hreads
    simpa [toString, statusLine] using hreads
  · rw [statusLine, String.toList_append, String.toList_append]
    intro c hc
    rcases List.mem_append.mp hc with hc | hc
    · rcases List.mem_append.mp hc with hc | hc
      · exact hname.visible c hc
      · exact hcurrentPhrase.visible c hc
    · exact hfailurePhrase.visible c hc

end Dialogue.Console
