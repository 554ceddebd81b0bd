import Dialogue.Transcript
import Dialogue.Proofs.Text.Lines
import Mathlib.Algebra.BigOperators.Group.List.Basic
import Mathlib.Data.List.TakeWhile

/-!
# Transcripts read back

A line begins a message when a clock and the name of a speaker stand ahead in it (`ofLine?`), and
any other line goes on with the message before it; so a transcript is read (`ofTranscript`). What
is read is what was shown just where no content has a later line that begins a message, as if
another message stood there (`ofTranscript_transcript_iff`). Where one has, what is read are other
messages with the same transcript (`transcript_eq_imp_iff`).
-/
namespace Dialogue

open Text

namespace ClockTime

open Calendar Number

variable {t : ClockTime} {n : Nat} {cs rest : List Char}

/-- A time that a clock can show. -/
structure OnClock (t : ClockTime) : Prop where
  hour : t.hour < 24
  minute : t.minute < 60
  second : t.second < 60

instance (t : ClockTime) : Decidable t.OnClock :=
  decidable_of_iff (t.hour < 24 ∧ t.minute < 60 ∧ t.second < 60)
    ⟨fun h => ⟨h.1, h.2.1, h.2.2⟩, fun h => ⟨h.hour, h.minute, h.second⟩⟩

/-- The time of day that comes first, and what follows it. -/
def read? (cs : List Char) : Option (ClockTime × List Char) := do
  let (hour, cs) ← digits? 2 cs
  let cs ← after? ':' cs
  let (minute, cs) ← digits? 2 cs
  let cs ← after? ':' cs
  let (second, cs) ← digits? 2 cs
  if OnClock ⟨hour, minute, second⟩ then some (⟨hour, minute, second⟩, cs) else none

theorem isDigit_of_mem_twoDigits {c : Char} (h : c ∈ (twoDigits n).toList) : c.isDigit = true := by
  rw [twoDigits, String.toList_append, List.mem_append] at h
  rcases h with h | h
  · split at h
    · rw [List.mem_singleton.mp h]
      rfl
    · cases h
  · have hmem : c ∈ Nat.toDigits 10 n := by simpa [toString, Nat.toList_repr] using h
    exact Nat.isDigit_of_mem_toDigits (by decide) (by decide) hmem

theorem not_mem_text (t : ClockTime) : '\n' ∉ t.text.toList := by
  have hdigits (n : Nat) : '\n' ∉ (twoDigits n).toList := fun h =>
    absurd (isDigit_of_mem_twoDigits h) (by decide)
  simp [text, hdigits]

theorem toList_twoDigits :
    ∀ n < 100, (twoDigits n).toList = [(n / 10).digitChar, (n % 10).digitChar] := by
  decide

theorem exists_digitChar {c : Char} (h : c.isDigit = true) : ∃ k < 10, c = k.digitChar := by
  obtain ⟨hlow, hhigh⟩ := Char.isDigit_iff_toNat.mp h
  have hlt : c.toNat - '0'.toNat < 10 := by
    have hlast : '9'.toNat = '0'.toNat + 9 := rfl
    omega
  have hdigit : ∀ k < 10, Char.ofNat (k + '0'.toNat) = k.digitChar := by decide
  refine ⟨c.toNat - '0'.toNat, hlt, ?_⟩
  rw [← hdigit _ hlt, Nat.sub_add_cancel hlow, Char.ofNat_toNat]

theorem natOfDigits_digitChar :
    ∀ i < 10, ∀ j < 10, natOfDigits [i.digitChar, j.digitChar] = 10 * i + j := by
  decide

theorem digits?_eq_some_iff :
    digits? 2 cs = some (n, rest) ↔ n < 100 ∧ cs = (twoDigits n).toList ++ rest := by
  constructor
  · intro h
    match cs with
    | [] | [_] => cases h
    | a :: b :: cs =>
        simp only [digits?, List.take_succ_cons, List.take_zero, List.length_cons, List.length_nil,
          List.all_cons, List.all_nil, decide_true, Bool.true_and, Bool.and_true] at h
        split at h
        · rename_i hdigits
          obtain ⟨ha, hb⟩ := Bool.and_eq_true_iff.mp hdigits
          obtain ⟨i, hi, rfl⟩ := exists_digitChar ha
          obtain ⟨j, hj, rfl⟩ := exists_digitChar hb
          rw [natOfDigits_digitChar i hi j hj] at h
          cases h
          have hlt : 10 * i + j < 100 := by omega
          have htens : (10 * i + j) / 10 = i := by omega
          have hones : (10 * i + j) % 10 = j := by omega
          rw [toList_twoDigits _ hlt, htens, hones]
          exact ⟨hlt, rfl⟩
        · cases h
  · rintro ⟨hlt, rfl⟩
    have htens : n / 10 < 10 := by omega
    have hones : n % 10 < 10 := by omega
    rw [toList_twoDigits n hlt]
    simp [digits?, Nat.isDigit_digitChar, htens, hones, natOfDigits_digitChar, Nat.div_add_mod]

theorem after?_eq_some_iff {c : Char} : after? c cs = some rest ↔ cs = c :: rest := by
  cases cs with
  | nil => simp [after?]
  | cons d cs =>
      by_cases h : d = c <;> simp [after?, h]

theorem toList_text (t : ClockTime) (rest : List Char) : t.text.toList ++ rest =
    (twoDigits t.hour).toList ++ ':' ::
      ((twoDigits t.minute).toList ++ ':' :: ((twoDigits t.second).toList ++ rest)) := by
  simp [text]

theorem read?_eq_some_iff :
    read? cs = some (t, rest) ↔ t.OnClock ∧ cs = t.text.toList ++ rest := by
  constructor
  · intro h
    simp only [read?, Option.bind_eq_bind, Option.bind_eq_some_iff, Prod.exists,
      digits?_eq_some_iff, after?_eq_some_iff] at h
    obtain ⟨hour, _, ⟨-, rfl⟩, _, rfl, minute, _, ⟨-, rfl⟩, _, rfl, second, _, ⟨-, rfl⟩, h⟩ := h
    split at h
    · rename_i hclock
      obtain ⟨rfl, rfl⟩ := Prod.mk.inj (Option.some.inj h)
      rw [toList_text]
      exact ⟨hclock, rfl⟩
    · cases h
  · rintro ⟨h, rfl⟩
    have hread {n : Nat} (hlt : n < 60) (rest : List Char) :
        digits? 2 ((twoDigits n).toList ++ rest) = some (n, rest) :=
      digits?_eq_some_iff.mpr ⟨by omega, rfl⟩
    have hhour : t.hour < 60 := h.hour.trans (by decide)
    rw [toList_text, read?]
    simp [hread, hhour, h.minute, h.second, after?, h]

end ClockTime

/-! ### Lines that begin a message -/

/-- What stands between the clock of a message and its content. -/
def Speaker.introduction (s : Speaker) : String := s!"] {s.title}: "

/-- Who is introduced, and what follows. -/
def Speaker.introduced? (cs : List Char) : Option (Speaker × List Char) :=
  Speaker.all.findSome? fun s => (cs.dropPrefix? s.introduction.toList).map (s, ·)

theorem Speaker.introduced?_eq_some_iff {cs rest : List Char} {s : Speaker} :
    introduced? cs = some (s, rest) ↔ cs = s.introduction.toList ++ rest := by
  constructor
  · intro h
    obtain ⟨s', -, h⟩ := List.exists_of_findSome?_eq_some h
    obtain ⟨rest', hdrop, h⟩ := Option.map_eq_some_iff.mp h
    cases h
    obtain ⟨_, rfl, hbeq⟩ := List.dropPrefix?_eq_some_iff.mp hdrop
    rw [eq_of_beq hbeq]
  · rintro rfl
    have hbot : bot.introduction.toList = "] Bot: ".toList := by decide
    have huser : user.introduction.toList = "] Você: ".toList := by decide
    have hsystem : system.introduction.toList = "] Sistema: ".toList := by decide
    cases s <;> simp [introduced?, all, hbot, huser, hsystem, List.dropPrefix?]

namespace Message

variable {m : Message} {l : String}

/-- What a transcript tells of a message: all but the step that it comes from. -/
def told (m : Message) : Message := { m with nodeId := none }

/-- What stands ahead of the content on the line of a message. -/
def heading (m : Message) : String := "[" ++ m.time.text ++ m.speaker.introduction

theorem line_eq (m : Message) : m.line = m.heading ++ m.content := by
  simp [line, heading, Speaker.introduction, String.append_assoc, toString]

theorem not_mem_heading (m : Message) : '\n' ∉ m.heading.toList := by
  have hspeaker : ∀ s : Speaker, '\n' ∉ s.introduction.toList := by
    intro s
    cases s <;> decide
  simp [heading, ClockTime.not_mem_text, hspeaker]

/-- The message that a line begins, if it begins one. -/
def ofLine? (l : String) : Option Message := do
  let cs ← Calendar.after? '[' l.toList
  let (time, cs) ← ClockTime.read? cs
  let (speaker, cs) ← Speaker.introduced? cs
  some ⟨speaker, String.ofList cs, none, time⟩

/-- The line of a message begins this message, and no other line begins it. -/
theorem ofLine?_eq_some_iff :
    ofLine? l = some m ↔ m.time.OnClock ∧ m.nodeId = none ∧ m.line = l := by
  have hline (m : Message) : m.line.toList =
      '[' :: (m.time.text.toList ++ (m.speaker.introduction.toList ++ m.content.toList)) := by
    simp [line_eq, heading]
  constructor
  · intro h
    simp only [ofLine?, Option.bind_eq_bind, Option.bind_eq_some_iff, Prod.exists,
      ClockTime.after?_eq_some_iff, ClockTime.read?_eq_some_iff,
      Speaker.introduced?_eq_some_iff] at h
    obtain ⟨_, hl, time, _, ⟨hclock, rfl⟩, speaker, cs, rfl, h⟩ := h
    cases h
    refine ⟨hclock, rfl, String.toList_injective ?_⟩
    rw [hline, hl, String.toList_ofList]
  · rintro ⟨hclock, hnode, rfl⟩
    have htime := ClockTime.read?_eq_some_iff.mpr
      ⟨hclock, (rfl : _ = _ ++ (m.speaker.introduction.toList ++ m.content.toList))⟩
    have hspeaker := Speaker.introduced?_eq_some_iff.mpr
      (rfl : _ = m.speaker.introduction.toList ++ m.content.toList)
    rw [ofLine?, hline]
    simp [Calendar.after?, htime, hspeaker, ← hnode]

/-! ### Messages line by line -/

/-- The message as far as its first line tells it. -/
def opening (m : Message) : Message := ⟨m.speaker, firstLine m.content, none, m.time⟩

/-- The messages that later lines of the content begin, though nobody said them. -/
def forged (m : Message) : List Message := (laterLines m.content).filterMap ofLine?

theorem lines_line (m : Message) : lines m.line = m.opening.line :: laterLines m.content := by
  rw [line_eq, lines_append m.not_mem_heading, line_eq]
  rfl

theorem forged_of_not_mem (h : '\n' ∉ m.content.toList) : m.forged = [] := by
  rw [forged, laterLines_of_not_mem h, List.filterMap_nil]

theorem ofLine?_opening (h : m.time.OnClock) : ofLine? m.opening.line = some m.opening :=
  ofLine?_eq_some_iff.mpr ⟨h, rfl, rfl⟩

/-- The lines of a message that begin a message are its first one and those it forges. -/
theorem filterMap_lines_line (h : m.time.OnClock) :
    (lines m.line).filterMap ofLine? = m.opening :: m.forged := by
  rw [lines_line, List.filterMap_cons, ofLine?_opening h]
  rfl

/-! ### Reading -/

/-- The message with further lines. -/
def below (m : Message) (later : List String) : Message :=
  { m with content := "\n".intercalate (m.content :: later) }

/-- The messages that lines tell of, and the lines ahead of the first. A line that begins no message
belongs to the one before it. -/
def ofLines : List String → List String × List Message
  | [] => ([], [])
  | l :: ls =>
    match ofLine? l with
    | some m => ([], m.below (ofLines ls).1 :: (ofLines ls).2)
    | none => (l :: (ofLines ls).1, (ofLines ls).2)

/-- The messages that a transcript tells of. -/
def ofTranscript (text : String) : List Message := (ofLines (lines text)).2

variable {ls more : List String}

theorem ofLines_append (h : (ofLines more).1 = []) :
    ofLines (ls ++ more) = ((ofLines ls).1, (ofLines ls).2 ++ (ofLines more).2) := by
  induction ls with
  | nil => exact Prod.ext h rfl
  | cons l ls ih =>
      rw [List.cons_append, ofLines, ofLines, ih]
      cases ofLine? l <;> rfl

theorem fst_ofLines (ls : List String) :
    (ofLines ls).1 = ls.takeWhile fun l => (ofLine? l).isNone := by
  induction ls with
  | nil => rfl
  | cons l ls ih =>
      rw [ofLines, List.takeWhile_cons]
      cases ofLine? l with
      | none => exact congrArg (l :: ·) ih
      | some m => rfl

theorem length_ofLines (ls : List String) :
    (ofLines ls).2.length = (ls.filterMap ofLine?).length := by
  induction ls with
  | nil => rfl
  | cons l ls ih =>
      rw [ofLines, List.filterMap_cons]
      cases ofLine? l with
      | none => exact ih
      | some m => simp [ih]

theorem ofLines_of_none (h : ∀ l ∈ ls, ofLine? l = none) : ofLines ls = (ls, []) := by
  induction ls with
  | nil => rfl
  | cons l ls ih =>
      rw [ofLines, h l List.mem_cons_self, ih fun l hl => h l (List.mem_cons_of_mem _ hl)]

theorem fst_ofLines_line (h : m.time.OnClock) : (ofLines (lines m.line)).1 = [] := by
  rw [lines_line, ofLines, ofLine?_opening h]

theorem below_opening (m : Message) : m.opening.below (laterLines m.content) = m.told := by
  have hcontent : "\n".intercalate (m.opening.content :: laterLines m.content) = m.content := by
    rw [opening, ← lines_eq_cons, intercalate_lines]
  rw [below, hcontent]
  rfl

theorem ofTranscript_line (h : m.time.OnClock) (hforged : m.forged = []) :
    ofTranscript m.line = [m.told] := by
  have hlater := ofLines_of_none (List.filterMap_eq_nil_iff.mp hforged)
  rw [ofTranscript, lines_line, ofLines, ofLine?_opening h, hlater]
  exact congrArg ([·]) m.below_opening

theorem ofLines_flatMap {messages : List Message} (h : ∀ m ∈ messages, m.time.OnClock) :
    ofLines (messages.flatMap fun m => lines m.line) =
      ([], messages.flatMap fun m => ofTranscript m.line) := by
  induction messages with
  | nil => rfl
  | cons m messages ih =>
      have hrest := ih fun m hm => h m (List.mem_cons_of_mem _ hm)
      rw [List.flatMap_cons, ofLines_append (by rw [hrest]),
        fst_ofLines_line (h m List.mem_cons_self), hrest]
      rfl

/-! ### Writing what was read -/

theorem not_mem_content (h : '\n' ∉ m.line.toList) : '\n' ∉ m.content.toList := by
  rw [line_eq, String.toList_append] at h
  exact fun hmem => h (List.mem_append_right _ hmem)

theorem content_below (h : '\n' ∉ m.line.toList) (hls : ∀ l ∈ ls, '\n' ∉ l.toList) :
    firstLine (m.below ls).content = m.content ∧ laterLines (m.below ls).content = ls := by
  have hlines : lines (m.below ls).content = m.content :: ls := by
    rw [below, lines_intercalate (List.cons_ne_nil _ _), flatMap_lines_eq_self_iff]
    exact List.forall_mem_cons.mpr ⟨not_mem_content h, hls⟩
  rw [lines_eq_cons] at hlines
  exact List.cons.inj hlines

theorem lines_below (h : '\n' ∉ m.line.toList) (hls : ∀ l ∈ ls, '\n' ∉ l.toList) :
    lines (m.below ls).line = m.line :: ls := by
  obtain ⟨hfirst, hlater⟩ := content_below h hls
  rw [lines_line, hlater, opening, hfirst]
  rfl

theorem not_mem_of_mem_fst_ofLines (hls : ∀ l ∈ ls, '\n' ∉ l.toList) :
    ∀ l ∈ (ofLines ls).1, '\n' ∉ l.toList := by
  rw [fst_ofLines]
  exact fun l hl => hls l ((List.takeWhile_sublist _).subset hl)

/-- A message that was read is one that a transcript tells, and it forges no other. -/
structure Plain (m : Message) : Prop where
  onClock : m.time.OnClock
  told : m.told = m
  forged : m.forged = []

theorem plain_of_mem_ofLines (hls : ∀ l ∈ ls, '\n' ∉ l.toList) (h : m ∈ (ofLines ls).2) :
    m.Plain := by
  induction ls with
  | nil => cases h
  | cons l ls ih =>
      obtain ⟨hl, hrest⟩ := List.forall_mem_cons.mp hls
      rw [ofLines] at h
      cases hline : ofLine? l with
      | none =>
          rw [hline] at h
          exact ih hrest h
      | some first =>
          rw [hline] at h
          rcases List.mem_cons.mp h with rfl | h
          · obtain ⟨hclock, hnode, rfl⟩ := ofLine?_eq_some_iff.mp hline
            obtain ⟨-, hlater⟩ := content_below hl (not_mem_of_mem_fst_ofLines hrest)
            refine ⟨hclock, congrArg (Message.mk _ _ · _) hnode.symm, ?_⟩
            rw [forged, hlater, fst_ofLines, List.filterMap_eq_nil_iff]
            intro l hl
            simpa using List.mem_takeWhile_imp hl
          · exact ih hrest h

theorem flatMap_lines_ofLines (hls : ∀ l ∈ ls, '\n' ∉ l.toList) :
    (ofLines ls).1 ++ (ofLines ls).2.flatMap (fun m => lines m.line) = ls := by
  induction ls with
  | nil => rfl
  | cons l ls ih =>
      obtain ⟨hl, hrest⟩ := List.forall_mem_cons.mp hls
      rw [ofLines]
      cases hline : ofLine? l with
      | none => exact congrArg (l :: ·) (ih hrest)
      | some first =>
          obtain ⟨-, -, rfl⟩ := ofLine?_eq_some_iff.mp hline
          rw [List.flatMap_cons, lines_below hl (not_mem_of_mem_fst_ofLines hrest)]
          exact congrArg (first.line :: ·) (ih hrest)

end Message

/-! ### Transcripts -/

open Message

private theorem length_flatMap_append_eq_iff {α β : Type} {xs : List α} {f g : α → List β} :
    (xs.flatMap fun x => f x ++ g x).length = (xs.flatMap f).length ↔ ∀ x ∈ xs, g x = [] := by
  simp [List.length_flatMap, List.sum_map_add, List.sum_eq_zero_iff_forall_eq_nat]

private theorem flatMap_append_eq_iff {α β : Type} {xs : List α} {f g : α → List β} :
    (xs.flatMap fun x => f x ++ g x) = xs.flatMap f ↔ ∀ x ∈ xs, g x = [] := by
  constructor
  · exact fun h => length_flatMap_append_eq_iff.mp (congrArg List.length h)
  · intro h
    refine List.flatMap_congr fun x hx => ?_
    rw [h x hx, List.append_nil]

variable {messages : List Message} {withSystem : Bool}

/-- The messages that a transcript shows. -/
def shownMessages (withSystem : Bool) (messages : List Message) : List Message :=
  messages.filter fun m => withSystem || m.speaker ≠ .system

theorem shownMessages_true (messages : List Message) : shownMessages true messages = messages :=
  List.filter_eq_self.mpr fun _ _ => rfl

theorem transcript_eq (messages : List Message) (withSystem : Bool) :
    transcript messages withSystem =
      "\n".intercalate ((shownMessages withSystem messages).map line) := rfl

theorem lines_transcript (h : shownMessages withSystem messages ≠ []) :
    lines (transcript messages withSystem) =
      (shownMessages withSystem messages).flatMap fun m => lines m.line := by
  rw [transcript_eq, lines_intercalate (by simpa using h), List.flatMap_map]

/-- A transcript has one line for each message just where each is on one line. -/
theorem lines_transcript_iff (h : shownMessages withSystem messages ≠ []) :
    lines (transcript messages withSystem) = (shownMessages withSystem messages).map line ↔
      ∀ m ∈ shownMessages withSystem messages, '\n' ∉ m.content.toList := by
  rw [lines_transcript h, ← List.flatMap_map, flatMap_lines_eq_self_iff]
  simp [line_eq, not_mem_heading]

theorem transcript_of_nil (h : shownMessages withSystem messages = []) :
    transcript messages withSystem = "" := by
  rw [transcript_eq, h]
  rfl

/-- The lines of a text that read as a speaker's. -/
def attributed (s : Speaker) (text : String) : List Message :=
  ((lines text).filterMap ofLine?).filter (·.speaker = s)

section
variable (hclock : ∀ m ∈ messages, m.time.OnClock)
include hclock

theorem onClock_of_mem_shown : ∀ m ∈ shownMessages withSystem messages, m.time.OnClock :=
  fun m hm => hclock m (List.mem_of_mem_filter hm)

theorem filterMap_lines_transcript :
    (lines (transcript messages withSystem)).filterMap ofLine? =
      (shownMessages withSystem messages).flatMap fun m => [m.opening] ++ m.forged := by
  by_cases h : shownMessages withSystem messages = []
  · rw [transcript_of_nil h, h]
    decide
  · rw [lines_transcript h, List.filterMap_flatMap]
    exact List.flatMap_congr fun m hm => filterMap_lines_line (onClock_of_mem_shown hclock m hm)

theorem ofTranscript_transcript : ofTranscript (transcript messages withSystem) =
    (shownMessages withSystem messages).flatMap fun m => ofTranscript m.line := by
  by_cases h : shownMessages withSystem messages = []
  · rw [transcript_of_nil h, h]
    decide
  · rw [ofTranscript, lines_transcript h, ofLines_flatMap (onClock_of_mem_shown hclock)]

/-- A transcript reads as the messages it shows just where none of them forges another. -/
theorem ofTranscript_transcript_iff : ofTranscript (transcript messages withSystem) =
    (shownMessages withSystem messages).map told ↔
      ∀ m ∈ shownMessages withSystem messages, m.forged = [] := by
  constructor
  · intro h
    have hlength := congrArg List.length h
    rw [ofTranscript, length_ofLines, filterMap_lines_transcript hclock, List.length_map] at hlength
    have hopenings : ((shownMessages withSystem messages).flatMap fun m => [m.opening]).length =
        (shownMessages withSystem messages).length := by simp [List.length_flatMap]
    exact length_flatMap_append_eq_iff.mp (hlength.trans hopenings.symm)
  · intro h
    have hread : ∀ m ∈ shownMessages withSystem messages, ofTranscript m.line = [m.told] :=
      fun m hm => ofTranscript_line (onClock_of_mem_shown hclock m hm) (h m hm)
    rw [ofTranscript_transcript hclock, List.flatMap_congr hread, List.map_eq_flatMap]

/-- What reads as a speaker's are the first lines of the speaker's messages just where none of them
is forged. -/
theorem attributed_transcript_iff (s : Speaker) :
    attributed s (transcript messages withSystem) =
        ((shownMessages withSystem messages).filter (·.speaker = s)).map opening ↔
      ∀ m ∈ shownMessages withSystem messages, ∀ f ∈ m.forged, f.speaker ≠ s := by
  have hown : ((shownMessages withSystem messages).filter (·.speaker = s)).map opening =
      (shownMessages withSystem messages).flatMap fun m =>
        [m.opening].filter (·.speaker = s) := by
    rw [← List.filter_flatMap, ← List.map_eq_flatMap, List.filter_map]
    rfl
  rw [attributed, filterMap_lines_transcript hclock, List.filter_flatMap, hown]
  simp only [List.filter_append]
  rw [flatMap_append_eq_iff]
  simp

theorem transcript_ofTranscript (h : shownMessages withSystem messages ≠ []) :
    transcript (ofTranscript (transcript messages withSystem)) true =
      transcript messages withSystem := by
  have hwritten := flatMap_lines_ofLines
    fun l hl => not_mem_of_mem_lines (s := transcript messages withSystem) hl
  have hread : (ofLines (lines (transcript messages withSystem))).1 = [] := by
    rw [lines_transcript h, ofLines_flatMap (onClock_of_mem_shown hclock)]
  rw [hread, List.nil_append] at hwritten
  apply lines_injective
  rw [lines_transcript, shownMessages_true, ofTranscript, hwritten]
  rw [shownMessages_true, ofTranscript]
  intro hnil
  rw [hnil] at hwritten
  exact lines_ne_nil _ hwritten.symm

/-- No other messages that forge none have the same transcript just where these forge none. -/
theorem transcript_eq_imp_iff : (∀ m ∈ shownMessages withSystem messages, m.forged = []) ↔
    ∀ (others : List Message) (withSystem' : Bool), (∀ m ∈ others, m.time.OnClock) →
      (∀ m ∈ shownMessages withSystem' others, m.forged = []) →
      transcript others withSystem' = transcript messages withSystem →
      (shownMessages withSystem' others).map told =
        (shownMessages withSystem messages).map told := by
  constructor
  · intro h others withSystem' hothers hforged heq
    rw [← (ofTranscript_transcript_iff hothers).mpr hforged, heq]
    exact (ofTranscript_transcript_iff hclock).mpr h
  · intro h
    by_cases hempty : shownMessages withSystem messages = []
    · simp [hempty]
    · have hplain : ∀ m ∈ ofTranscript (transcript messages withSystem), m.Plain :=
        fun m hm => plain_of_mem_ofLines (fun l hl => not_mem_of_mem_lines hl) hm
      have hsame := h (ofTranscript (transcript messages withSystem)) true
        (fun m hm => (hplain m hm).onClock)
        (by
          rw [shownMessages_true]
          exact fun m hm => (hplain m hm).forged)
        (transcript_ofTranscript hclock hempty)
      have htold : (ofTranscript (transcript messages withSystem)).map told =
          ofTranscript (transcript messages withSystem) := by
        rw [List.map_congr_left fun m hm => (hplain m hm).told, List.map_id']
      rw [shownMessages_true, htold] at hsame
      exact (ofTranscript_transcript_iff hclock).mp hsame

end

end Dialogue
