import Dialogue.Proofs.Console.Layout

/-!
# Tags of a text

A text is cut into the same marks wherever it stands, unless a tag lies across its end
(`marks_append`). A text is literal if it has no markup: no tag, no backslash before a bracket, no
name of an emoji and no hidden control.
-/
namespace Dialogue.Console

/-! ### Where tags are -/

/-- What may stand between the brackets of a tag. -/
structure IsBody (body : List Char) : Prop where
  head : body.head?.any startsTag = true
  inner : ∀ c ∈ body, c ≠ '[' ∧ c ≠ ']'

instance (body : List Char) : Decidable (IsBody body) :=
  have := List.decidableBAll (fun c => c ≠ '[' ∧ c ≠ ']') body
  decidable_of_iff (body.head?.any startsTag = true ∧ ∀ c ∈ body, c ≠ '[' ∧ c ≠ ']')
    ⟨fun h => ⟨h.1, h.2⟩, fun h => ⟨h.head, h.inner⟩⟩

variable {cs rest more body text : List Char} {c : Char} {n : Nat}

theorem source_zero (body rest : List Char) :
    (Mark.tag 0 body).source ++ rest = '[' :: (body ++ ']' :: rest) := by
  rw [Mark.source, List.append_assoc, List.append_assoc]
  rfl

theorem source_succ (n : Nat) (body rest : List Char) :
    (Mark.tag (n + 1) body).source ++ rest = '\\' :: ((Mark.tag n body).source ++ rest) := rfl

theorem takeWhile_body (h : ∀ c ∈ body, c ≠ '[' ∧ c ≠ ']') (rest : List Char) :
    (body ++ ']' :: rest).takeWhile (fun c => c ≠ '[' && c ≠ ']') = body := by
  rw [List.takeWhile_append_of_pos (by simpa using h)]
  simp

theorem tagAt?_source (h : IsBody body) (n : Nat) (rest : List Char) :
    tagAt? ((Mark.tag n body).source ++ rest) = some (n, body) := by
  have hslashes : ((Mark.tag n body).source ++ rest).takeWhile (· = '\\') =
      List.replicate n '\\' := by
    rw [Mark.source, List.append_assoc, List.append_assoc, List.takeWhile_append_of_pos (by simp)]
    simp
  have hdrop : ((Mark.tag n body).source ++ rest).drop n = '[' :: (body ++ ']' :: rest) := by
    simp [Mark.source, List.append_assoc]
  have hbody := takeWhile_body h.inner rest
  rw [tagAt?, hslashes, List.length_replicate, hdrop]
  simp only [hbody, h.head]
  simp

theorem takeWhile_append_drop (p : Char → Bool) (cs : List Char) :
    cs.takeWhile p ++ cs.drop (cs.takeWhile p).length = cs :=
  List.prefix_iff_eq_append.mp (List.takeWhile_prefix p)

theorem takeWhile_of_forall {p : Char → Bool} (h : ∀ c ∈ cs, p c = true) : cs.takeWhile p = cs := by
  have happend : (cs ++ []).takeWhile p = cs ++ [].takeWhile p := List.takeWhile_append_of_pos h
  simpa using happend

theorem of_mem_takeWhile {p : Char → Bool} (h : c ∈ cs.takeWhile p) : p c = true :=
  List.all_eq_true.mp List.all_takeWhile c h

theorem exists_of_tagAt? (h : tagAt? cs = some (n, body)) :
    IsBody body ∧ ∃ rest, cs = (Mark.tag n body).source ++ rest := by
  have hcs := takeWhile_append_drop (· = '\\') cs
  have hslashes : cs.takeWhile (· = '\\') =
      List.replicate (cs.takeWhile (· = '\\')).length '\\' :=
    List.eq_replicate_iff.mpr ⟨rfl, fun c hc => by simpa using of_mem_takeWhile hc⟩
  rw [tagAt?] at h
  split at h
  · rename_i behind hbehind
    have hinner := takeWhile_append_drop (fun c => c ≠ '[' && c ≠ ']') behind
    dsimp only at h
    split at h
    · rename_i hbody
      cases h
      rw [Bool.and_eq_true, decide_eq_true_eq] at hbody
      obtain ⟨hhead, hclose⟩ := hbody
      obtain ⟨hlt, hget⟩ := List.getElem?_eq_some_iff.mp hclose
      refine ⟨⟨hhead, fun c hc => by simpa using of_mem_takeWhile hc⟩, ?_⟩
      rw [List.drop_eq_getElem_cons hlt, hget] at hinner
      rw [hbehind, ← hinner] at hcs
      refine ⟨behind.drop ((behind.takeWhile fun c => c ≠ '[' && c ≠ ']').length + 1), ?_⟩
      rw [Mark.source, ← hslashes, List.append_assoc, List.append_assoc, List.singleton_append]
      exact hcs.symm
    · cases h
  · cases h

theorem marks_of_tagAt?_eq_none (h : tagAt? (c :: rest) = none) :
    marks (c :: rest) = .plain c :: marks rest := by
  rw [marks, marksAfter, h]
  rfl

theorem marks_source (h : IsBody body) (n : Nat) (rest : List Char) :
    marks ((Mark.tag n body).source ++ rest) = .tag n body :: marks rest := by
  have htag := tagAt?_source h n rest
  have hlength : (Mark.tag n body).source.length = n + body.length + 2 := by
    simp [Mark.source]
    omega
  have hdrop : ((Mark.tag n body).source ++ rest).drop (n + body.length + 2) = rest := by
    rw [← hlength, List.drop_left]
  generalize (Mark.tag n body).source ++ rest = all at htag hdrop
  cases all with
  | nil => cases htag
  | cons c tail =>
      rw [marks, marksAfter, htag]
      dsimp only
      rw [marksAfter_eq]
      exact congrArg (Mark.tag n body :: marks ·) hdrop

/-- A text is empty, begins with a plain character or begins with a tag. -/
theorem marks_induction {P : List Char → Prop} (nil : P [])
    (plain : ∀ c rest, tagAt? (c :: rest) = none → P rest → P (c :: rest))
    (tag : ∀ n body rest, IsBody body → P rest → P ((Mark.tag n body).source ++ rest))
    (cs : List Char) : P cs := by
  -- on the length of the text, for a tag is taken as a whole
  induction hlength : cs.length using Nat.strongRecOn generalizing cs with
  | ind length ih =>
      cases cs with
      | nil => exact nil
      | cons c rest =>
          cases htag : tagAt? (c :: rest) with
          | none => exact plain c rest htag (ih rest.length (by simp [← hlength]) rest rfl)
          | some found =>
              obtain ⟨hbody, behind, hsource⟩ := exists_of_tagAt? htag
              rw [hsource] at hlength ⊢
              refine tag _ _ behind hbody (ih behind.length ?_ behind rfl)
              rw [← hlength, Mark.source]
              simp
              omega

theorem tagAt?_cons_eq_none (hopen : c ≠ '[') (hslash : c ≠ '\\') (rest : List Char) :
    tagAt? (c :: rest) = none := by
  cases htag : tagAt? (c :: rest) with
  | none => rfl
  | some found =>
      obtain ⟨n, body⟩ := found
      obtain ⟨-, behind, hsource⟩ := exists_of_tagAt? htag
      cases n with
      | zero => exact absurd (List.cons.inj hsource).1 hopen
      | succ n => exact absurd (List.cons.inj hsource).1 hslash

/-- Texts are cut into marks apart from each other where no tag lies across. -/
theorem marks_append (h : ∀ c rest, c :: rest <:+ cs → tagAt? (c :: rest) = none →
      tagAt? (c :: rest ++ more) = none) : marks (cs ++ more) = marks cs ++ marks more := by
  induction cs using marks_induction with
  | nil => rfl
  | plain c rest hnone ih =>
      have hall : tagAt? (c :: (rest ++ more)) = none := h c rest List.suffix_rfl hnone
      rw [List.cons_append, marks_of_tagAt?_eq_none hall, marks_of_tagAt?_eq_none hnone,
        ih fun d tail htail => h d tail (htail.trans (List.suffix_cons c rest)), List.cons_append]
  | tag n body rest hbody ih =>
      rw [List.append_assoc, marks_source hbody, marks_source hbody,
        ih fun d tail htail => h d tail (htail.trans (List.suffix_append _ _)), List.cons_append]

theorem source_bracket (h : IsBody body) {i : Nat} (hi : (Mark.tag n body).source[i]? = some '[') :
    i = n := by
  rw [Mark.source, List.append_assoc, List.getElem?_append, List.length_replicate] at hi
  split at hi
  · rw [List.getElem?_replicate] at hi
    split at hi <;> simp at hi
  · cases hsub : i - n with
    | zero => omega
    | succ k =>
        rw [hsub, List.cons_append, List.getElem?_cons_succ] at hi
        rcases List.mem_append.mp (List.mem_of_getElem? hi) with hi | hi
        · exact absurd rfl (h.inner _ hi).1
        · simp at hi

/-- A tag that begins in one text ends in it, or lies across what comes behind. -/
theorem tagAt?_append (hnone : tagAt? cs = none) (h : tagAt? (cs ++ more) = some (n, body)) :
    IsBody body ∧ ∃ c across behind, (Mark.tag n body).source = cs ++ c :: across ∧
      more = c :: across ++ behind := by
  obtain ⟨hbody, behind, hsource⟩ := exists_of_tagAt? h
  refine ⟨hbody, ?_⟩
  have hfree (bs : List Char) (hcs : cs = (Mark.tag n body).source ++ bs) : False := by
    rw [hcs, tagAt?_source hbody] at hnone
    cases hnone
  rcases List.append_eq_append_iff.mp hsource with ⟨across, hacross, hmore⟩ | ⟨bs, hcs, -⟩
  · cases across with
    | nil => exact (hfree [] (by rw [hacross, List.append_nil, List.append_nil])).elim
    | cons c across => exact ⟨c, across, behind, hacross, hmore⟩
  · exact (hfree bs hcs).elim

theorem marks_append_source (hend : cs.getLast? ≠ some '\\') (hbody : IsBody body) (n : Nat)
    (rest : List Char) :
    marks (cs ++ ((Mark.tag n body).source ++ rest)) = marks cs ++ .tag n body :: marks rest := by
  rw [← marks_source hbody]
  apply marks_append
  intro c tail hsuffix hnone
  cases htag : tagAt? (c :: tail ++ ((Mark.tag n body).source ++ rest)) with
  | none => rfl
  | some found =>
      obtain ⟨m, inner⟩ := found
      obtain ⟨hinner, b, across, behind, hacross, hmore⟩ := tagAt?_append hnone htag
      -- what lies across ends with a bracket, so that it reaches the one of the tag
      have hreach : n < (b :: across).length := by
        refine Nat.lt_of_not_le fun hshort => ?_
        have hlast : ']' ∈ b :: across := by
          have hend : (Mark.tag m inner).source.getLast? = some ']' := by
            rw [Mark.source, List.getLast?_concat]
          rw [hacross, List.getLast?_append,
            List.getLast?_eq_some_getLast (List.cons_ne_nil b across)] at hend
          exact Option.some.inj hend ▸ List.getLast_mem _
        have htake := congrArg (List.take (b :: across).length) hmore
        rw [List.take_left, Mark.source, List.append_assoc, List.append_assoc,
          List.take_append_of_le_length (by simpa using hshort)] at htake
        rw [← htake] at hlast
        exact absurd (List.eq_of_mem_replicate (List.mem_of_mem_take hlast)) (by decide)
      have hplace : (c :: tail).length + n = m := by
        apply source_bracket hinner
        rw [hacross, List.getElem?_append_right (Nat.le_add_right _ _), Nat.add_sub_cancel_left,
          ← List.getElem?_append_left hreach, ← hmore, Mark.source, List.append_assoc,
          List.append_assoc, List.getElem?_append_right (by simp)]
        simp
      have hslashes : List.replicate (c :: tail).length '\\' = c :: tail := by
        have htake := congrArg (List.take (c :: tail).length) hacross
        rwa [List.take_left, Mark.source, ← hplace, ← List.replicate_append_replicate,
          List.append_assoc, List.append_assoc, List.take_left' List.length_replicate] at htake
      have hlast : (c :: tail).getLast? = cs.getLast? := by
        obtain ⟨before, rfl⟩ := hsuffix
        rw [List.getLast?_append, List.getLast?_eq_some_getLast (List.cons_ne_nil c tail)]
        rfl
      rw [← hlast, ← hslashes, List.getLast?_replicate, if_neg (by simp)] at hend
      exact absurd rfl hend

theorem marks_append_slash (cs : List Char) : marks (cs ++ ['\\']) = marks cs ++ [.plain '\\'] := by
  have hslash : marks ['\\'] = [.plain '\\'] := by decide
  rw [← hslash]
  apply marks_append
  intro c tail hsuffix hnone
  cases htag : tagAt? (c :: tail ++ ['\\']) with
  | none => rfl
  | some found =>
      obtain ⟨n, body⟩ := found
      obtain ⟨-, b, across, behind, hacross, hmore⟩ := tagAt?_append hnone htag
      obtain ⟨rfl, hrest⟩ := List.cons.inj hmore
      obtain ⟨rfl, -⟩ := List.append_eq_nil_iff.mp hrest.symm
      exact absurd (List.append_inj' hacross rfl).2 (by decide)

theorem marks_append_slashes (cs : List Char) (n : Nat) :
    marks (cs ++ List.replicate n '\\') = marks cs ++ List.replicate n (.plain '\\') := by
  induction n with
  | zero => simp
  | succ n ih =>
      rw [List.replicate_succ', ← List.append_assoc, marks_append_slash, ih, List.append_assoc,
        ← List.replicate_succ']

/-! ### Texts without markup -/

/-- A text without markup. -/
structure Literal (cs : List Char) : Prop where
  tags : marks cs = cs.map .plain
  escapes : withoutEscapes cs = cs
  emoji : withEmoji cs = cs
  visible : ∀ c ∈ cs, isHidden c = false

instance (cs : List Char) : Decidable (Literal cs) :=
  have := List.decidableBAll (isHidden · = false) cs
  decidable_of_iff (marks cs = cs.map .plain ∧ withoutEscapes cs = cs ∧ withEmoji cs = cs ∧
      ∀ c ∈ cs, isHidden c = false)
    ⟨fun h => ⟨h.1, h.2.1, h.2.2.1, h.2.2.2⟩, fun h => ⟨h.tags, h.escapes, h.emoji, h.visible⟩⟩

/-- A character that is shown and is no part of any markup. -/
def Inert (c : Char) : Prop := c ∉ ['[', '\\', ':'] ∧ isHidden c = false

instance (c : Char) : Decidable (Inert c) := inferInstanceAs (Decidable (_ ∧ _))

/-- A text of such characters. -/
def InertText (cs : List Char) : Prop := ∀ c ∈ cs, Inert c

instance (cs : List Char) : Decidable (InertText cs) := List.decidableBAll _ cs

theorem InertText.append (h : InertText cs) (h' : InertText more) : InertText (cs ++ more) :=
  List.forall_mem_append.mpr ⟨h, h'⟩

theorem withEmoji_cons (h : emojiCode? (c :: cs) = none) :
    withEmoji (c :: cs) = c :: withEmoji cs := by
  rw [withEmoji, emojiAfter, h]
  rfl

theorem emojiCode?_eq_none (h : c ≠ ':') (cs : List Char) : emojiCode? (c :: cs) = none := by
  unfold emojiCode?
  split
  · rename_i heq
    exact absurd (List.cons.inj heq).1 h
  · rfl

theorem literal_cons_iff (hc : Inert c) : Literal (c :: cs) ↔ Literal cs := by
  obtain ⟨hc, hv⟩ := hc
  simp only [List.mem_cons, List.not_mem_nil, or_false, not_or] at hc
  obtain ⟨hopen, hslash, hcolon⟩ := hc
  have hmarks : marks (c :: cs) = .plain c :: marks cs :=
    marks_of_tagAt?_eq_none (tagAt?_cons_eq_none hopen hslash cs)
  have hescapes : withoutEscapes (c :: cs) = c :: withoutEscapes cs :=
    withoutEscapes.eq_2 _ _ fun _ heq => absurd heq hslash
  have hemoji := withEmoji_cons (emojiCode?_eq_none hcolon cs)
  constructor
  · rintro ⟨htags, hplain, hnames, hvisible⟩
    rw [hmarks] at htags
    rw [hescapes] at hplain
    rw [hemoji] at hnames
    exact ⟨(List.cons.inj htags).2, (List.cons.inj hplain).2, (List.cons.inj hnames).2,
      (List.forall_mem_cons.mp hvisible).2⟩
  · rintro ⟨htags, hplain, hnames, hvisible⟩
    exact ⟨hmarks.trans (congrArg _ htags), hescapes.trans (congrArg _ hplain),
      hemoji.trans (congrArg _ hnames), List.forall_mem_cons.mpr ⟨hv, hvisible⟩⟩

theorem Literal.colon (h : Literal (' ' :: cs)) : Literal (':' :: ' ' :: cs) where
  tags := by
    rw [marks_of_tagAt?_eq_none (tagAt?_cons_eq_none (by decide) (by decide) _), h.tags]
    rfl
  escapes := by rw [withoutEscapes.eq_2 _ _ (by simp), h.escapes]
  emoji := by
    have hcode : emojiCode? (':' :: ' ' :: cs) = none := rfl
    rw [withEmoji_cons hcode, h.emoji]
  visible := List.forall_mem_cons.mpr ⟨rfl, h.visible⟩

theorem literal_append_iff (h : InertText text) : Literal (text ++ cs) ↔ Literal cs := by
  induction text with
  | nil => exact Iff.rfl
  | cons c text ih =>
      obtain ⟨hc, htext⟩ := List.forall_mem_cons.mp h
      exact (literal_cons_iff hc).trans (ih htext)

theorem literal_of_inert (h : InertText cs) : Literal cs := by
  have happend := (literal_append_iff h).mpr (by decide : Literal [])
  rwa [List.append_nil] at happend

/-- A text without markup that a tag may follow. -/
structure Phrase (cs : List Char) : Prop extends Literal cs where
  last : cs.getLast? ≠ some '\\'

instance (cs : List Char) : Decidable (Phrase cs) :=
  decidable_of_iff (Literal cs ∧ cs.getLast? ≠ some '\\')
    ⟨fun h => ⟨h.1, h.2⟩, fun h => ⟨h.toLiteral, h.last⟩⟩

theorem phrase_of_inert (h : InertText cs) : Phrase cs where
  toLiteral := literal_of_inert h
  last hlast := absurd (h _ (List.mem_of_getLast? hlast)) (by decide)

theorem Phrase.append (h : Phrase cs) (ht : InertText text) : Phrase (text ++ cs) where
  toLiteral := (literal_append_iff ht).mpr h.toLiteral
  last := by
    rw [List.getLast?_append]
    intro hlast
    cases hcs : cs.getLast? with
    | none =>
        rw [hcs, Option.none_or] at hlast
        exact absurd (ht _ (List.mem_of_getLast? hlast)) (by decide)
    | some c =>
        rw [hcs, Option.some_or] at hlast
        exact h.last (hcs.trans hlast)

theorem Phrase.labelled (h : Phrase text) (hlabel : InertText body) :
    Phrase (body ++ ':' :: ' ' :: text) where
  toLiteral :=
    (literal_append_iff hlabel).mpr ((literal_cons_iff (by decide)).mpr h.toLiteral).colon
  last := by
    have hlast := h.last
    cases text with
    | nil => simp
    | cons c text => simpa [List.getLast?_cons] using hlast

end Dialogue.Console
