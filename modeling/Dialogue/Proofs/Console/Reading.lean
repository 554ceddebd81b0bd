import Dialogue.Proofs.Console.Markup

/-!
# Reading texts with markup

A literal text is read as it is, between tags as well (`leads_styled`). An escaped text is read
whatever it holds, for none of its tags is taken for one (`escape_presentable`).
-/
namespace Dialogue.Console

variable {cs rest more body text : List Char} {n : Nat} {r r' : Reading}

namespace Reading

/-- Takes a text as it is. -/
def say (r : Reading) (cs : List Char) : Reading := { r with shown := cs.reverse ++ r.shown }

theorem say_say (r : Reading) (cs more : List Char) : (r.say cs).say more = r.say (cs ++ more) := by
  simp [say]

theorem take_text (h : Literal text) (r : Reading) : r.take (.text text) = .ok (r.say text) := by
  have hvisible : text.filter (!isHidden ·) = text :=
    List.filter_eq_self.mpr fun c hc => by simp [h.visible c hc]
  simp only [take, h.escapes, h.emoji, hvisible]
  rfl

/-- Takes marks, the first of which stands at a position. -/
def read (position : Nat) (r : Reading) (ms : List Mark) : Except ShowError Reading :=
  (stretches position [] ms).foldlM take r

/-- Wherever it stands, a text is read up to a reading. -/
def Reads (r : Reading) (cs : List Char) (r' : Reading) : Prop :=
  ∀ position, read position r (marks cs) = .ok r'

/-- Wherever it stands, a text is read up to a later text, and then like that one. -/
def Leads (r : Reading) (cs : List Char) (r' : Reading) (rest : List Char) : Prop :=
  ∀ position, ∃ position', read position r (marks cs) = read position' r' (marks rest)

theorem stretches_plain (position : Nat) (part text : List Char) (ms : List Mark) :
    stretches position part (text.map .plain ++ ms) =
      stretches (position + text.length) (text.reverse ++ part) ms := by
  induction text generalizing position part with
  | nil => rfl
  | cons c text ih =>
      rw [List.map_cons, List.cons_append, stretches, ih, List.length_cons, List.reverse_cons,
        List.append_assoc]
      congr 1
      omega

theorem Leads.trans {r'' : Reading} (h : r.Leads cs r' rest)
    (h' : r'.Leads rest r'' more) : r.Leads cs r'' more := by
  intro position
  obtain ⟨position', hread⟩ := h position
  obtain ⟨position'', hread'⟩ := h' position'
  exact ⟨position'', hread.trans hread'⟩

theorem Leads.reads {r'' : Reading} (h : r.Leads cs r' rest) (h' : r'.Reads rest r'') :
    r.Reads cs r'' := by
  intro position
  obtain ⟨position', hread⟩ := h position
  exact hread.trans (h' position')

theorem reads_literal (h : Literal text) (r : Reading) : r.Reads text (r.say text) := by
  intro position
  have hstretch : stretches position [] (text.map .plain) = [.text text] := by
    have hplain := stretches_plain position [] text []
    rwa [List.append_nil, stretches, List.append_nil, List.reverse_reverse] at hplain
  rw [read, h.tags, hstretch, List.foldlM_cons, take_text h]
  rfl

theorem read_tag (h : Phrase text) (hb : IsBody body) (position : Nat) (r : Reading)
    (rest : List Char) : read position r (marks (text ++ '[' :: (body ++ ']' :: rest))) =
      (r.say text).takeTag (position + text.length) body >>= fun r' =>
        read (position + text.length + body.length + 2) r' (marks rest) := by
  have hmarks : marks (text ++ '[' :: (body ++ ']' :: rest)) =
      text.map .plain ++ .tag 0 body :: marks rest := by
    rw [← source_zero, marks_append_source h.last hb, h.tags]
  rw [read, hmarks, stretches_plain, List.append_nil]
  simp only [stretches, List.reverse_reverse, Nat.zero_div, List.replicate_zero, Nat.zero_mod,
    Nat.zero_ne_one, if_false, List.foldlM_cons, take_text h.toLiteral]
  rfl

theorem leads_tag (h : Phrase text) (hb : IsBody body)
    (htag : ∀ position, (r.say text).takeTag position body = .ok r') (rest : List Char) :
    r.Leads (text ++ '[' :: (body ++ ']' :: rest)) r' rest := by
  intro position
  refine ⟨position + text.length + body.length + 2, ?_⟩
  rw [read_tag h hb, htag]
  rfl

/-! ### Styles -/

/-- A style of the screen by its normal name. -/
structure IsStyle (name : List Char) : Prop where
  body : IsBody name
  whole : '=' ∉ name
  opens : name.head? ≠ some '/'
  trimmed : Text.trim (String.ofList name) = String.ofList name
  action : (String.ofList name).startsWith "@" = false
  normal : Style.normalName (String.ofList name) = .ok (String.ofList name)
  sound : Style.fault? (String.ofList name) = none

/-- The tag that a style opens behind so many characters. -/
def styleTag (name : List Char) (start : Nat) : OpenTag := ⟨String.ofList name, none, start⟩

variable {name ending : List Char}

theorem takeTag_style (h : IsStyle name) (r : Reading) (position : Nat) :
    r.takeTag position name = .ok { r with tags := styleTag name r.shown.length :: r.tags } := by
  have hpos : ∀ c ∈ name, decide (c ≠ '=') = true := fun c hc =>
    decide_eq_true fun heq => h.whole (heq ▸ hc)
  have hname : name.takeWhile (· ≠ '=') = name := takeWhile_of_forall hpos
  simp only [takeTag, hname]
  split
  · exact absurd rfl h.opens
  · simp only [h.normal, Nat.lt_irrefl, if_false]
    rfl

theorem close_style (h : IsStyle name) (r : Reading) (start : Nat) (tags : List OpenTag) :
    close { r with tags := styleTag name start :: tags } (styleTag name start) =
      .ok { r with tags := tags } := by
  have hsound : Style.fault? (styleTag name start).style = none := h.sound
  have haction : (styleTag name start).name.startsWith "@" = false := h.action
  simp only [close, haction, List.erase_cons_head, Bool.false_eq_true, if_false, span, hsound]
  rfl

/-- The tags that end a style: one for whatever is open, and one of its own. -/
def IsEnding (name ending : List Char) : Prop := ending = ['/'] ∨ ending = '/' :: name

theorem takeTag_ending (h : IsStyle name) (hending : IsEnding name ending) (r : Reading)
    (position start : Nat) (tags : List OpenTag) :
    takeTag { r with tags := styleTag name start :: tags } position ending =
      .ok { r with tags := tags } := by
  rcases hending with rfl | rfl
  · exact close_style h r start tags
  · have hpos : ∀ c ∈ '/' :: name, decide (c ≠ '=') = true := by
      intro c hc
      rcases List.mem_cons.mp hc with rfl | hc
      · decide
      · exact decide_eq_true fun heq => h.whole (heq ▸ hc)
    have hname : ('/' :: name).takeWhile (· ≠ '=') = '/' :: name :=
      takeWhile_of_forall hpos
    have hnonempty : String.ofList name ≠ "" := by
      intro hempty
      have hnil : name = [] := by simpa using congrArg String.toList hempty
      have hhead := h.body.head
      rw [hnil] at hhead
      cases hhead
    have hfind : (styleTag name start :: tags).find? (·.name = String.ofList name) =
        some (styleTag name start) := List.find?_cons_of_pos (by simp [styleTag])
    have hnormal : (Style.normalName (String.ofList name)).mapError ShowError.number =
        .ok (String.ofList name) := by
      rw [h.normal]
      rfl
    simp only [takeTag, hname, h.trimmed, hnonempty, if_false, hnormal, hfind, bind, Except.bind]
    exact close_style h r start tags

theorem isBody_ending (h : IsStyle name) (hending : IsEnding name ending) : IsBody ending := by
  refine ⟨?_, fun c hc => ?_⟩
  · rcases hending with rfl | rfl <;> rfl
  · rcases hending with rfl | rfl
    · rw [List.mem_singleton.mp hc]
      decide
    · rcases List.mem_cons.mp hc with rfl | hc
      · decide
      · exact h.body.inner c hc

theorem leads_styled (h : IsStyle name) (hending : IsEnding name ending) {before : List Char}
    (hbefore : Phrase before) (htext : Phrase text) (hr : r.tags = []) (rest : List Char) :
    r.Leads (before ++ '[' :: (name ++ ']' :: (text ++ '[' :: (ending ++ ']' :: rest))))
      (r.say (before ++ text)) rest := by
  have hopen := leads_tag hbefore h.body
    (fun position => takeTag_style h (r.say before) position)
    (text ++ '[' :: (ending ++ ']' :: rest))
  refine hopen.trans ?_
  rw [← say_say]
  refine leads_tag htext (isBody_ending h hending) ?_ rest
  intro position
  have hclose := takeTag_ending h hending ((r.say before).say text) position
    (r.say before).shown.length []
  obtain ⟨shown, tags, spans⟩ := r
  obtain rfl : tags = [] := hr
  exact hclose

theorem ofSpans_nil (cs : List Char) : Styled.ofSpans cs [] = ⟨cs.map (⟨·, none⟩), []⟩ := by
  rw [Styled.ofSpans]
  congr 1
  exact List.ext_getElem (by simp) (by simp)

end Reading

open Reading

theorem ofMarkup_eq (markup : String) :
    ofMarkup markup = finish <$> read 0 {} (marks markup.toList) := by
  unfold ofMarkup Reading.read
  cases (stretches 0 [] (marks markup.toList)).foldlM take {} <;> rfl

theorem ofMarkup_of_reads {markup : String} (h : Reads {} markup.toList (say {} cs))
    (hv : ∀ c ∈ cs, isHidden c = false) : ofMarkup markup = .ok (.plain cs) := by
  have hvisible : cs.filter (!isHidden ·) = cs :=
    List.filter_eq_self.mpr fun c hc => by simp [hv c hc]
  have hfinish : (say {} cs).finish = .plain cs := by
    simp [finish, say, ofSpans_nil, Styled.plain, hvisible]
  rw [ofMarkup_eq, h 0, ← hfinish]
  rfl

/-- A text with markup that can be shown. -/
def Presentable (markup : String) : Prop := Yields (ofMarkup markup) Styled.Sound

theorem Presentable.printed {markup : String} (h : Presentable markup) :
    Succeeds (printed markup) := h.bind fun _ => succeeds_shown

theorem presentable_of_reads {markup : String} (h : Reads {} markup.toList (say {} cs))
    (hv : ∀ c ∈ cs, isHidden c = false) : Presentable markup :=
  ⟨_, ofMarkup_of_reads h hv, sound_plain cs⟩

theorem Literal.presentable {markup : String} (h : Literal markup.toList) : Presentable markup :=
  presentable_of_reads (reads_literal h {}) h.visible

/-! ### Escaped texts -/

/-- A mark that is read as text. -/
def Mark.IsText : Mark → Prop
  | plain _ => True
  | tag n _ => n % 2 = 1

theorem foldlM_take_texts {ms : List Mark} (h : ∀ m ∈ ms, m.IsText) (more : List Mark)
    (position : Nat) (part : List Char) (r : Reading) :
    ∃ position' part' shown, (stretches position part (ms ++ more)).foldlM take r =
      (stretches position' part' more).foldlM take { r with shown := shown } := by
  induction ms generalizing position part r with
  | nil => exact ⟨position, part, r.shown, rfl⟩
  | cons m ms ih =>
      have hms : ∀ m ∈ ms, m.IsText := fun m hm => h m (List.mem_cons_of_mem _ hm)
      cases m with
      | plain c => exact ih hms _ _ _
      | tag n body =>
          have hodd : n % 2 = 1 := h (.tag n body) List.mem_cons_self
          simp only [List.cons_append, stretches, hodd, if_true, List.foldlM_cons, take, bind,
            Except.bind]
          exact ih hms _ _ _

/-- The escaped text, as far as tags go. -/
def withTagsEscaped (cs : List Char) : List Char := (marks cs).flatMap Mark.escaped

theorem withTagsEscaped_cons {c : Char} (h : tagAt? (c :: rest) = none) :
    withTagsEscaped (c :: rest) = c :: withTagsEscaped rest := by
  rw [withTagsEscaped, marks_of_tagAt?_eq_none h]
  rfl

theorem withTagsEscaped_source (h : IsBody body) (n : Nat) (rest : List Char) :
    withTagsEscaped ((Mark.tag n body).source ++ rest) =
      (Mark.tag (2 * n + 1) body).source ++ withTagsEscaped rest := by
  rw [withTagsEscaped, marks_source h]
  rfl

/-- What ends a tag of an escaped text ends one of the text. -/
theorem exists_of_withTagsEscaped (hbody : ∀ c ∈ body, c ≠ '[' ∧ c ≠ ']')
    (h : withTagsEscaped cs = body ++ ']' :: more) : ∃ rest, cs = body ++ ']' :: rest := by
  induction cs using marks_induction generalizing body with
  | nil => simp [withTagsEscaped, marks, marksAfter] at h
  | plain c rest hnone ih =>
      rw [withTagsEscaped_cons hnone] at h
      cases body with
      | nil =>
          obtain rfl : c = ']' := (List.cons.inj h).1
          exact ⟨rest, rfl⟩
      | cons b body =>
          obtain ⟨rfl, hrest⟩ := List.cons.inj h
          obtain ⟨behind, rfl⟩ := ih (fun d hd => hbody d (List.mem_cons_of_mem _ hd)) hrest
          exact ⟨behind, rfl⟩
  | tag n inner rest hinner ih =>
      -- the first bracket here is one that opens
      rw [withTagsEscaped_source hinner, Mark.source, List.append_assoc, List.append_assoc] at h
      have hstart := congrArg (List.takeWhile fun c => c ≠ '[' && c ≠ ']') h
      rw [takeWhile_body hbody, List.takeWhile_append_of_pos (by simp)] at hstart
      obtain rfl : List.replicate (2 * n + 1) '\\' = body := by simpa using hstart
      exact absurd (List.cons.inj (List.append_cancel_left h)).1 (by decide)

theorem tagAt?_of_withTagsEscaped (hbody : IsBody body)
    (h : withTagsEscaped cs = (Mark.tag n body).source ++ more) : tagAt? cs ≠ none := by
  induction cs using marks_induction generalizing n with
  | nil => simp [withTagsEscaped, marks, marksAfter, Mark.source] at h
  | plain c rest hnone ih =>
      rw [withTagsEscaped_cons hnone] at h
      cases n with
      | zero =>
          rw [source_zero] at h
          obtain ⟨rfl, hrest⟩ := List.cons.inj h
          obtain ⟨behind, rfl⟩ := exists_of_withTagsEscaped hbody.inner hrest
          rw [← source_zero, tagAt?_source hbody]
          exact Option.some_ne_none _
      | succ n =>
          rw [source_succ] at h
          obtain ⟨rfl, hrest⟩ := List.cons.inj h
          obtain ⟨⟨k, inner⟩, htag⟩ := Option.ne_none_iff_exists'.mp (ih hrest)
          obtain ⟨hinner, behind, rfl⟩ := exists_of_tagAt? htag
          rw [← source_succ, tagAt?_source hinner]
          exact Option.some_ne_none _
  | tag k inner rest hinner ih =>
      rw [tagAt?_source hinner]
      exact Option.some_ne_none _

theorem marks_withTagsEscaped (cs : List Char) : ∀ m ∈ marks (withTagsEscaped cs), m.IsText := by
  induction cs using marks_induction with
  | nil => simp [withTagsEscaped, marks, marksAfter]
  | plain c rest hnone ih =>
      have htag : tagAt? (withTagsEscaped (c :: rest)) = none := by
        cases htag : tagAt? (withTagsEscaped (c :: rest)) with
        | none => rfl
        | some found =>
            obtain ⟨hbody, behind, hsource⟩ := exists_of_tagAt? htag
            exact absurd hnone (tagAt?_of_withTagsEscaped hbody hsource)
      rw [withTagsEscaped_cons hnone] at htag ⊢
      rw [marks_of_tagAt?_eq_none htag]
      exact List.forall_mem_cons.mpr ⟨trivial, ih⟩
  | tag n body rest hbody ih =>
      rw [withTagsEscaped_source hbody, marks_source hbody]
      refine List.forall_mem_cons.mpr ⟨?_, ih⟩
      show (2 * n + 1) % 2 = 1
      omega

theorem marks_escape (text : String) : ∀ m ∈ marks (escape text).toList, m.IsText := by
  have hmarks := marks_withTagsEscaped text.toList
  rw [escape, String.toList_ofList]
  split
  · rw [← withTagsEscaped, marks_append_slash]
    exact List.forall_mem_append.mpr ⟨hmarks, by simp [Mark.IsText]⟩
  · exact hmarks

theorem finish_sound (hspans : r.spans = [])
    (htags : ∀ t ∈ r.tags, Style.fault? t.style = none) : r.finish.Sound := by
  have hfold : r.tags.foldl span r = r := by
    generalize r.tags = tags at htags
    induction tags with
    | nil => rfl
    | cons t tags ih =>
        rw [List.foldl_cons, span, htags t List.mem_cons_self]
        exact ih fun t ht => htags t (List.mem_cons_of_mem _ ht)
  have hfinish : r.finish = ⟨r.shown.reverse.map (⟨·, none⟩), []⟩ := by
    rw [finish, hfold, hspans, List.mergeSort_nil, ofSpans_nil]
  rw [hfinish]
  refine ⟨fun g hg => ?_, rfl⟩
  obtain ⟨c, -, rfl⟩ := List.mem_map.mp hg
  rfl

theorem escape_presentable (text : String) : Presentable (escape text) := by
  obtain ⟨position, part, shown, hread⟩ := foldlM_take_texts (marks_escape text) [] 0 [] {}
  rw [List.append_nil, stretches, List.foldlM_cons] at hread
  simp only [Presentable, ofMarkup, hread, take, bind, Except.bind]
  exact ⟨_, rfl, finish_sound rfl (by simp)⟩

theorem exists_slashes (cs : List Char) :
    ∃ front n, front.getLast? ≠ some '\\' ∧ cs = front ++ List.replicate n '\\' := by
  have hcs := List.takeWhile_append_dropWhile (p := (· = '\\')) (l := cs.reverse)
  have hslashes : cs.reverse.takeWhile (· = '\\') =
      List.replicate (cs.reverse.takeWhile (· = '\\')).length '\\' :=
    List.eq_replicate_iff.mpr ⟨rfl, fun c hc => by simpa using of_mem_takeWhile hc⟩
  refine ⟨(cs.reverse.dropWhile (· = '\\')).reverse,
    (cs.reverse.takeWhile (· = '\\')).length, ?_, ?_⟩
  · rw [List.getLast?_reverse]
    intro hhead
    have hnot := List.head?_dropWhile_not (· = '\\') cs.reverse
    rw [hhead] at hnot
    simp at hnot
  · rw [← List.reverse_inj, List.reverse_append, List.reverse_replicate, List.reverse_reverse,
      ← hslashes, hcs]

/-- With backslashes before it, the end of a style is either a tag or text. -/
theorem foldlM_take_ending {name : List Char} (h : IsStyle name) (n position start : Nat)
    (part shown : List Char) :
    ∃ r, (stretches position part [.tag n ('/' :: name)]).foldlM take
        { shown := shown, tags := [styleTag name start] } = .ok r ∧
      r.spans = [] ∧ r.tags ⊆ [styleTag name start] := by
  by_cases hodd : n % 2 = 1
  · simp only [stretches, hodd, if_true, List.foldlM_cons, take, bind, Except.bind]
    exact ⟨_, rfl, rfl, List.Subset.refl _⟩
  · have hclose (shown : List Char) (place : Nat) :
        takeTag { shown := shown, tags := [styleTag name start] } place ('/' :: name) =
          .ok { shown := shown } :=
      takeTag_ending h (.inr rfl) { shown := shown } place start []
    simp only [stretches, hodd, if_false, List.foldlM_cons, take, bind, Except.bind, hclose]
    exact ⟨_, rfl, rfl, List.nil_subset _⟩

/-- An escaped text in a style can be shown, even where the end of the style is taken for text. -/
theorem styled_escape_presentable {name : List Char} (h : IsStyle name) (text : String)
    {markup : String} (hmarkup : markup.toList =
      '[' :: (name ++ ']' :: ((escape text).toList ++ '[' :: '/' :: (name ++ [']'])))) :
    Presentable markup := by
  obtain ⟨front, n, hfront, htext⟩ := exists_slashes (escape text).toList
  have hfrontMarks : ∀ m ∈ marks front, m.IsText := by
    intro m hm
    apply marks_escape text
    rw [htext, marks_append_slashes]
    exact List.mem_append_left _ hm
  have hmarks : marks markup.toList =
      .tag 0 name :: (marks front ++ [.tag n ('/' :: name)]) := by
    have hsource : (Mark.tag n ('/' :: name)).source =
        List.replicate n '\\' ++ '[' :: '/' :: (name ++ [']']) := by
      rw [Mark.source, List.append_assoc]
      rfl
    have hend := marks_append_source hfront (isBody_ending h (.inr rfl)) n []
    rw [List.append_nil, hsource] at hend
    rw [hmarkup, ← source_zero, marks_source h.body, htext, List.append_assoc]
    exact congrArg _ hend
  have hopen : take {} (.tag 0 name) = .ok { tags := [styleTag name 0] } := takeTag_style h {} 0
  have hnothing : take {} (.text []) = .ok {} := rfl
  obtain ⟨position, part, shown, hread⟩ := foldlM_take_texts hfrontMarks [.tag n ('/' :: name)]
    (0 + 0 + name.length + 2) [] { tags := [styleTag name 0] }
  obtain ⟨r, hlast, hspans, htags⟩ := foldlM_take_ending h n position 0 part shown
  refine ⟨r.finish, ?_, finish_sound hspans fun t ht => ?_⟩
  · rw [ofMarkup, hmarks]
    simp only [stretches, List.reverse_nil, Nat.zero_div, List.replicate_zero, Nat.zero_mod,
      Nat.zero_ne_one, if_false, List.foldlM_cons, hnothing, Nat.add_zero, hopen, bind,
      Except.bind]
    rw [hread, hlast]
    rfl
  · rw [List.mem_singleton.mp (htags ht)]
    exact h.sound

end Dialogue.Console
