import Dialogue.Proofs.Console.Verbatim

/-!
# What markup takes away

Where no emoji are named, reading a text with markup shows fewer characters than it has, unless it
has no markup at all (`literal_of_read`). So of the messages with a speaker in a style only those
without markup are shown as they are (`message_read_iff`).
-/
namespace Dialogue.Console

open Reading

variable {cs part body : List Char} {ms : List Mark} {r r' : Reading}

/-- What is shown of a stretch of text. -/
def textOf (cs : List Char) : List Char := (withEmoji (withoutEscapes cs)).filter (!isHidden ·)

theorem withoutEscapes_sublist (cs : List Char) : (withoutEscapes cs).Sublist cs := by
  fun_induction withoutEscapes cs with
  | case1 rest ih => exact (ih.cons_cons '[').cons '\\'
  | case2 c rest _ ih => exact ih.cons_cons c
  | case3 => exact .slnil

theorem textOf_sublist (h : ':' ∉ cs) : (textOf cs).Sublist (withoutEscapes cs) := by
  have hcolon : ':' ∉ withoutEscapes cs := fun hmem => h ((withoutEscapes_sublist cs).subset hmem)
  rw [textOf, withEmoji, emojiAfter_of_not_mem hcolon]
  exact List.filter_sublist

theorem length_textOf_le (h : ':' ∉ cs) : (textOf cs).length ≤ cs.length :=
  ((textOf_sublist h).trans (withoutEscapes_sublist cs)).length_le

theorem of_textOf_eq (h : ':' ∉ cs) (heq : textOf cs = cs) :
    withoutEscapes cs = cs ∧ ∀ c ∈ cs, isHidden c = false := by
  have hlength := (textOf_sublist h).length_le
  rw [heq] at hlength
  have hescapes : withoutEscapes cs = cs := (withoutEscapes_sublist cs).eq_of_length_le hlength
  refine ⟨hescapes, ?_⟩
  rw [textOf, hescapes, withEmoji, emojiAfter_of_not_mem h] at heq
  simpa using List.filter_eq_self.mp heq

namespace Reading

theorem shown_span (r : Reading) (t : OpenTag) : (r.span t).shown = r.shown := by
  unfold span
  split <;> rfl

theorem shown_close {t : OpenTag} (h : r.close t = .ok r') : r'.shown = r.shown := by
  unfold close at h
  dsimp only at h
  split at h
  · obtain ⟨_, -, h⟩ := exists_of_bind h
    cases h
    rfl
  · cases h
    exact shown_span _ _

theorem shown_takeTag {position : Nat} (h : r.takeTag position body = .ok r') :
    r'.shown = r.shown := by
  unfold takeTag at h
  dsimp only at h
  split at h
  · split at h
    · split at h
      · cases h
      · exact shown_close h
    · obtain ⟨name, -, h⟩ := exists_of_bind h
      split at h
      · cases h
      · exact shown_close h
  · obtain ⟨normal, -, h⟩ := exists_of_bind h
    cases h
    rfl

theorem take_text_eq (r : Reading) (cs : List Char) :
    r.take (.text cs) = .ok { r with shown := (textOf cs).reverse ++ r.shown } := rfl

end Reading

def Mark.isTag : Mark → Bool
  | plain _ => false
  | tag .. => true

theorem length_of_read (hms : ':' ∉ ms.flatMap Mark.source) (hpart : ':' ∉ part) {position : Nat}
    (h : (stretches position part ms).foldlM take r = .ok r') :
    r'.shown.length + ms.countP Mark.isTag ≤
      r.shown.length + part.length + (ms.flatMap Mark.source).length := by
  induction ms generalizing position part r with
  | nil =>
      have hlength := length_textOf_le (by simpa using hpart : ':' ∉ part.reverse)
      rw [stretches, List.foldlM_cons, take_text_eq] at h
      cases h
      simp only [List.length_append, List.length_reverse, List.countP_nil, List.flatMap_nil,
        List.length_nil] at hlength ⊢
      omega
  | cons m ms ih =>
      rw [List.flatMap_cons, List.mem_append, not_or] at hms
      obtain ⟨hm, hms⟩ := hms
      cases m with
      | plain c =>
          have hc : ':' ∉ c :: part := by simpa [Mark.source, hpart] using hm
          have hrest := ih hms hc h
          simp only [List.length_cons, List.flatMap_cons, List.length_append, Mark.source,
            List.countP_cons, Mark.isTag, List.length_nil, Bool.false_eq_true, if_false] at hrest ⊢
          omega
      | tag n body =>
          have hbody : ':' ∉ '[' :: body ++ [']'] := fun hmem =>
            hm (by rw [Mark.source, List.append_assoc]; exact List.mem_append_right _ hmem)
          have hlength := length_textOf_le (by simpa using hpart : ':' ∉ part.reverse)
          have hslashes := length_textOf_le (by simp : ':' ∉ List.replicate (n / 2) '\\')
          have hinner := length_textOf_le hbody
          simp only [List.length_reverse, List.length_replicate, List.length_cons,
            List.length_append, List.length_nil, List.flatMap_cons, List.countP_cons, Mark.isTag,
            Mark.source, if_true] at hlength hslashes hinner ⊢
          by_cases hodd : n % 2 = 1
          · simp only [stretches, hodd, if_true, List.foldlM_cons, take_text_eq, bind,
              Except.bind] at h
            have hrest := ih hms (by simp : ':' ∉ []) h
            simp only [List.length_append, List.length_reverse, List.length_nil] at hrest
            omega
          · simp only [stretches, hodd, if_false, List.foldlM_cons, take_text_eq] at h
            obtain ⟨_, htaken, h⟩ := exists_of_bind h
            cases htaken
            obtain ⟨_, htaken, h⟩ := exists_of_bind h
            cases htaken
            obtain ⟨after, hafter, h⟩ := exists_of_bind h
            have hrest := ih hms (by simp : ':' ∉ []) h
            rw [shown_takeTag hafter] at hrest
            simp only [List.length_append, List.length_reverse, List.length_nil] at hrest
            omega

theorem flatMap_source_marks (cs : List Char) : (marks cs).flatMap Mark.source = cs := by
  induction cs using marks_induction with
  | nil => rfl
  | plain c rest hnone ih =>
      rw [marks_of_tagAt?_eq_none hnone, List.flatMap_cons, ih]
      rfl
  | tag n body rest hbody ih => rw [marks_source hbody, List.flatMap_cons, ih]

theorem eq_map_plain (h : ms.countP Mark.isTag = 0) :
    ms = (ms.flatMap Mark.source).map .plain := by
  rw [List.countP_eq_zero] at h
  induction ms with
  | nil => rfl
  | cons m ms ih =>
      cases m with
      | plain c => exact congrArg (Mark.plain c :: ·) (ih fun m hm => h m (.tail _ hm))
      | tag n body => exact absurd rfl (h (.tag n body) List.mem_cons_self)

theorem literal_of_read (hcolon : ':' ∉ cs) {position : Nat}
    (h : Reading.read position r (marks cs) = .ok r')
    (hshown : r'.shown = cs.reverse ++ r.shown) : Literal cs := by
  have hmarks : marks cs = cs.map .plain := by
    have hlength := length_of_read (by rwa [flatMap_source_marks]) (by simp : ':' ∉ []) h
    rw [hshown, flatMap_source_marks, List.length_append, List.length_reverse,
      List.length_nil] at hlength
    have hcount : (marks cs).countP Mark.isTag = 0 := by omega
    have hplain := eq_map_plain hcount
    rwa [flatMap_source_marks] at hplain
  have htext : textOf cs = cs := by
    have hplain := stretches_plain position [] cs []
    rw [List.append_nil, stretches, List.append_nil, List.reverse_reverse] at hplain
    rw [Reading.read, hmarks, hplain, List.foldlM_cons, take_text_eq] at h
    cases h
    exact List.reverse_inj.mp (List.append_cancel_right hshown)
  obtain ⟨hescapes, hvisible⟩ := of_textOf_eq hcolon htext
  exact ⟨hmarks, hescapes, emojiAfter_of_not_mem hcolon, hvisible⟩

theorem chars_finish (r : Reading) : r.finish.chars = r.shown.reverse := by
  have hshown (tags : List OpenTag) (r : Reading) : (tags.foldl span r).shown = r.shown := by
    induction tags generalizing r with
    | nil => rfl
    | cons t tags ih => exact (ih _).trans (shown_span r t)
  rw [finish, Styled.chars_ofSpans, hshown]

/-- A message without colons that is not of the system is read as it is if it has no markup, and
only then. -/
theorem message_read_iff {m : Message} (hsystem : m.speaker ≠ .system)
    (hcolon : ':' ∉ m.content.toList) :
    (∃ t, ofMarkup (messageMarkup m) = .ok t ∧ t.chars = (messageLine m).toList) ↔
      Literal m.content.toList := by
  have harrow : InertText " → ".toList := by decide
  obtain ⟨position, hleads⟩ := leads_spoken hsystem 0
  rw [ofMarkup_eq, hleads, messageLine_spoken hsystem]
  constructor
  · rintro ⟨t, ht, hchars⟩
    cases hread : Reading.read position (say {} (speakerText m.speaker).toList)
        (marks (" → ".toList ++ m.content.toList)) with
    | error e =>
        rw [hread] at ht
        cases ht
    | ok r' =>
        rw [hread] at ht
        cases ht
        rw [chars_finish] at hchars
        have hcontent : ':' ∉ " → ".toList ++ m.content.toList := by simpa using hcolon
        refine (literal_append_iff harrow).mp (literal_of_read hcontent hread ?_)
        rw [← List.reverse_reverse r'.shown, hchars, List.reverse_append]
        simp [say]
  · intro hliteral
    have hread := reads_literal ((literal_append_iff harrow).mpr hliteral)
      (say {} (speakerText m.speaker).toList) position
    refine ⟨_, congrArg (finish <$> ·) hread, ?_⟩
    rw [chars_finish, say_say]
    simp [say]

end Dialogue.Console
