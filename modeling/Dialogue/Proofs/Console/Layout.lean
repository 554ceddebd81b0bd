import Dialogue.Console.View
import Dialogue.Proofs.Yields

/-!
# Texts on the screen

A text whose styles have no faults can always be shown (`Layout.shownLines_of_sound`). One without
styles that fits on a line of the screen is shown as it is (`shown_of_fits`).
-/
namespace Dialogue.Console

/-! ### Texts without faulty styles -/

/-- No style on the glyphs has a fault. -/
def Faultless (gs : List Glyph) : Prop := ∀ g ∈ gs, g.fault = none

variable {gs line part : Line} {cs : List Char}

theorem Faultless.of_subset (h : Faultless gs) (hs : line ⊆ gs) : Faultless line :=
  fun g hg => h g (hs hg)

theorem Faultless.append (h : Faultless line) (h' : Faultless part) : Faultless (line ++ part) :=
  fun g hg => (List.mem_append.mp hg).elim (h g) (h' g)

theorem faultless_blankGlyphs (n : Nat) : Faultless (blankGlyphs n) := by
  intro g hg
  rw [List.eq_of_mem_replicate hg]

theorem linesOf_subset (h : line ∈ linesOf gs) : line ⊆ gs := by
  induction gs generalizing line with
  | nil =>
      rw [List.mem_singleton.mp h]
      exact List.Subset.refl _
  | cons g rest ih =>
      rw [linesOf] at h
      split at h
      · rw [List.mem_singleton.mp h]
        exact List.cons_subset_cons _ (List.nil_subset _)
      · rename_i first later hrest
        split at h
        · rcases List.mem_cons.mp h with rfl | h
          · exact List.nil_subset _
          · exact List.subset_cons_of_subset _ (ih (hrest ▸ h))
        · rcases List.mem_cons.mp h with rfl | h
          · exact List.cons_subset_cons _ (ih (hrest ▸ List.mem_cons_self))
          · exact List.subset_cons_of_subset _ (ih (hrest ▸ List.mem_cons_of_mem _ h))

theorem faultless_fillTabs (hl : Faultless line) (hp : Faultless part) (column : Nat) :
    Faultless (fillTabs column part line) := by
  induction line generalizing column part with
  | nil => exact fun g hg => hp g (List.mem_reverse.mp hg)
  | cons g rest ih =>
      have hg := hl g List.mem_cons_self
      have hrest : Faultless rest := hl.of_subset (List.subset_cons_self _ _)
      rw [fillTabs]
      split
      · have htab : Faultless (⟨' ', g.fault⟩ :: part).reverse := by
          intro g' hg'
          rcases List.mem_cons.mp (List.mem_reverse.mp hg') with rfl | hg'
          · exact hg
          · exact hp g' hg'
        exact (htab.append (faultless_blankGlyphs _)).append (ih hrest (by simp [Faultless]) _)
      · refine ih hrest ?_ _
        intro g' hg'
        rcases List.mem_cons.mp hg' with rfl | hg'
        · exact hg
        · exact hp g' hg'

theorem cutAt_subset {l : Line} {done : Nat} {places : List Nat} (h : part ∈ cutAt done l places) :
    part ⊆ l := by
  induction places generalizing done l with
  | nil =>
      rw [List.mem_singleton.mp h]
      exact List.Subset.refl _
  | cons p ps ih =>
      rcases List.mem_cons.mp h with rfl | h
      · exact List.take_subset _ _
      · exact List.Subset.trans (ih h) (List.drop_subset _ _)

theorem faultless_withChars (h : Faultless line) (cs : List Char) :
    Faultless (withChars line cs) := by
  induction line generalizing cs with
  | nil =>
      intro g hg
      obtain ⟨c, -, rfl⟩ := List.mem_map.mp (by simpa [withChars] using hg)
      rfl
  | cons g rest ih =>
      cases cs with
      | nil => simp [withChars, Faultless]
      | cons c cs =>
          intro g' hg'
          rw [withChars] at hg'
          rcases List.mem_cons.mp hg' with rfl | hg'
          · exact h g List.mem_cons_self
          · exact ih (h.of_subset (List.subset_cons_self _ _)) cs g' hg'

theorem faultless_truncate (h : Faultless line) (overflow : Overflow) (width : Nat) :
    Faultless (truncate overflow width line) := by
  unfold truncate
  split
  · exact h
  · cases overflow <;> exact faultless_withChars h _

theorem faultless_take (h : Faultless line) (n : Nat) : Faultless (line.take n) :=
  h.of_subset (List.take_subset _ _)

theorem faultless_align (h : Faultless line) (overflow : Overflow) (width : Nat) (a : Alignment) :
    Faultless (a.fit overflow width line) := by
  have hcut (n : Nat) : Faultless (truncate overflow width (line.take n)) :=
    faultless_truncate (faultless_take h n) overflow width
  cases a with
  | left => exact (faultless_truncate h overflow width).append (faultless_blankGlyphs _)
  | right => exact (faultless_blankGlyphs _).append (hcut _)
  | centre =>
      exact ((faultless_blankGlyphs _).append (hcut _)).append (faultless_blankGlyphs _)

/-- No style on a text or between its characters has a fault. -/
structure Styled.Sound (t : Styled) : Prop where
  glyphs : Faultless t.glyphs
  loose : t.loose = []

theorem sound_plain (cs : List Char) : (Styled.plain cs).Sound where
  glyphs := by
    intro g hg
    obtain ⟨c, -, rfl⟩ := List.mem_map.mp hg
    rfl
  loose := rfl

namespace Layout

theorem shownLines_of_sound (l : Layout) {t : Styled} (h : t.Sound) :
    l.shownLines t = .ok ((l.lines t).map charsOf) := by
  have hlines : ∀ line ∈ l.lines t, Faultless line := by
    intro line hline
    obtain ⟨filled, hfilled, hline⟩ := List.mem_flatMap.mp hline
    obtain ⟨part, hpart, rfl⟩ := List.mem_map.mp hline
    obtain ⟨given, hgiven, rfl⟩ := List.mem_map.mp hfilled
    have hgiven : Faultless given := h.glyphs.of_subset (linesOf_subset hgiven)
    have hfilled : Faultless (fillTabs 0 [] given) :=
      faultless_fillTabs hgiven (by simp [Faultless]) 0
    have hpart : Faultless part := hfilled.of_subset (cutAt_subset hpart)
    have hcrop : Faultless (cropEnd l.width part) := faultless_take hpart _
    rw [fit]
    cases l.alignment with
    | none => exact faultless_truncate hcrop _ _
    | some a => exact faultless_truncate (faultless_align hcrop _ _ a) _ _
  have hnone : l.fault? t = none := by
    have honLines : (l.lines t).flatten.findSome? (·.fault) = none := by
      rw [List.findSome?_eq_none_iff]
      intro g hg
      obtain ⟨line, hline, hg⟩ := List.mem_flatten.mp hg
      exact hlines line hline g hg
    have hloose : l.looseFaults t = [] := by
      unfold looseFaults
      rw [h.loose]
      split
      · rfl
      · split <;> simp
    rw [fault?, hloose, honLines]
  rw [shownLines, hnone]

end Layout

theorem Layout.succeeds_shownLines (l : Layout) {t : Styled} (h : t.Sound) :
    Succeeds (l.shownLines t) := ⟨_, l.shownLines_of_sound h, trivial⟩

theorem succeeds_shown {t : Styled} (h : t.Sound) : Succeeds (shown t) :=
  ((Layout.succeeds_shownLines _ h).mapError _).map fun _ => id

/-- The lines of the screen that a text without styles takes. -/
def plainLines (cs : List Char) : List (List Char) :=
  (Layout.lines ⟨screenWidth, .fold, none⟩ (.plain cs)).map charsOf

theorem shown_plain (cs : List Char) : shown (.plain cs) = .ok (joinLines (plainLines cs)) := by
  rw [shown, Layout.shownLines_of_sound _ (sound_plain cs)]
  rfl

/-! ### Texts that fit -/

/-- Characters that are shown, end no line and take their own cells wherever they stand. -/
def Steady (cs : List Char) : Prop :=
  ∀ c ∈ cs, c ∉ ['\n', '\t', Text.joiner, Text.emojiSelector] ∧ isHidden c = false

instance (cs : List Char) : Decidable (Steady cs) := List.decidableBAll _ cs

theorem Steady.of_subset (h : Steady cs) {ds : List Char} (hs : ds ⊆ cs) : Steady ds :=
  fun c hc => h c (hs hc)

/-- The cells of characters one by one. -/
def cells : List Char → Nat
  | [] => 0
  | c :: cs => Text.cellsOf c + cells cs

theorem cells_append (cs ds : List Char) : cells (cs ++ ds) = cells cs + cells ds := by
  induction cs with
  | nil => exact (Nat.zero_add _).symm
  | cons c cs ih => rw [List.cons_append, cells, cells, ih, Nat.add_assoc]

theorem width_of_steady (h : Steady cs) : Text.width cs = cells cs := by
  suffices ∀ last, Text.widthAfter last cs = cells cs from this none
  induction cs with
  | nil => exact fun _ => rfl
  | cons c rest ih =>
      intro last
      have hc := (h c List.mem_cons_self).1
      simp only [List.mem_cons, List.not_mem_nil, or_false, not_or] at hc
      have hrest := ih (h.of_subset (List.subset_cons_self _ _))
      rw [Text.widthAfter.eq_def]
      simp only [hc, if_false, hrest]
      rfl

theorem withoutBlankEnd_starts (cs : List Char) : withoutBlankEnd cs <+: cs := by
  rw [withoutBlankEnd, ← List.reverse_suffix, List.reverse_reverse]
  exact List.dropWhile_suffix _

theorem mem_of_mem_wordsWithBlanks {part word : List Char}
    (h : word ∈ wordsWithBlanks part cs) : word ⊆ part.reverse ++ cs := by
  induction cs generalizing part with
  | nil =>
      rw [wordsWithBlanks] at h
      split at h
      · cases h
      · rw [List.mem_singleton.mp h, List.append_nil]
        exact List.Subset.refl _
  | cons c rest ih =>
      rw [wordsWithBlanks] at h
      split at h
      · rcases List.mem_cons.mp h with rfl | h
        · exact List.subset_append_left _ _
        · exact List.Subset.trans (ih h) (List.subset_append_right _ _)
      · have hword := ih h
        rwa [List.reverse_cons, List.append_assoc] at hword

theorem cells_wordsWithBlanks (part cs : List Char) :
    cells (wordsWithBlanks part cs).flatten ≤ cells (part.reverse ++ cs) := by
  induction cs generalizing part with
  | nil =>
      rw [wordsWithBlanks, List.append_nil]
      split
      · exact Nat.zero_le _
      · simp
  | cons c rest ih =>
      rw [wordsWithBlanks]
      split
      · have hrest := ih [c]
        rw [List.flatten_cons, cells_append, cells_append]
        exact Nat.add_le_add_left hrest _
      · have hrest := ih (c :: part)
        rwa [List.reverse_cons, List.append_assoc] at hrest

theorem breaks_eq_nil {overflow : Overflow} {width start used : Nat} {words : List (List Char)}
    (hs : ∀ word ∈ words, Steady word) (h : used + cells words.flatten ≤ width) :
    breaks overflow width start used words = [] := by
  induction words generalizing start used with
  | nil => rfl
  | cons word words ih =>
      have hword := hs word List.mem_cons_self
      obtain ⟨blanks, hblanks⟩ := withoutBlankEnd_starts word
      have hsize : cells (withoutBlankEnd word) ≤ cells word := by
        rw [← hblanks, cells_append, hblanks]
        exact Nat.le_add_right _ _
      have hstripped : Steady (withoutBlankEnd word) :=
        hword.of_subset (withoutBlankEnd_starts word).subset
      rw [List.flatten_cons, cells_append] at h
      rw [breaks.eq_def]
      simp only [width_of_steady hword, width_of_steady hstripped]
      rw [if_pos (by omega)]
      exact ih (fun w hw => hs w (List.mem_cons_of_mem _ hw)) (by omega)

theorem linesOf_of_no_break (h : ∀ g ∈ gs, g.char ≠ '\n') : linesOf gs = [gs] := by
  induction gs with
  | nil => rfl
  | cons g rest ih =>
      have hg := h g List.mem_cons_self
      simp [linesOf, ih fun g' hg' => h g' (List.mem_cons_of_mem _ hg'), hg]

theorem fillTabs_of_no_tab (h : ∀ g ∈ line, g.char ≠ '\t') (column : Nat) (part : Line) :
    fillTabs column part line = part.reverse ++ line := by
  induction line generalizing part with
  | nil => simp [fillTabs]
  | cons g rest ih =>
      have hg := h g List.mem_cons_self
      simp [fillTabs, hg, ih fun g' hg' => h g' (List.mem_cons_of_mem _ hg')]

theorem breakLine_of_fits {l : Layout} (hs : Steady (charsOf line))
    (hwidth : lineWidth line ≤ l.width) : l.breakLine line = [line] := by
  have hcells : cells (charsOf line) ≤ l.width := width_of_steady hs ▸ hwidth
  have hwords := cells_wordsWithBlanks [] (charsOf line)
  rw [List.reverse_nil, List.nil_append] at hwords
  have hbreaks : breaks l.overflow l.width 0 0 (wordsWithBlanks [] (charsOf line)) = [] :=
    breaks_eq_nil (fun word hword => hs.of_subset (mem_of_mem_wordsWithBlanks hword)) (by omega)
  rw [Layout.breakLine, hbreaks, cutAt]

theorem fit_of_fits {l : Layout} (hl : l.alignment = none) (hlength : line.length ≤ l.width)
    (hwidth : lineWidth line ≤ l.width) : l.fit line = line := by
  have hcrop : cropEnd l.width line = line := by
    rw [cropEnd, Nat.sub_eq_zero_of_le hlength, Nat.min_zero, Nat.sub_zero, List.take_length]
  simp only [Layout.fit, hl, hcrop, truncate]
  rw [if_pos hwidth]

theorem shown_of_fits (hs : Steady cs) (hlength : cs.length ≤ screenWidth)
    (hwidth : Text.width cs ≤ screenWidth) :
    shown (.plain cs) = .ok (String.ofList (cs ++ ['\n'])) := by
  have hvisible : cs.filter (!isHidden ·) = cs :=
    List.filter_eq_self.mpr fun c hc => by simp [(hs c hc).2]
  have hchars : charsOf (cs.map (⟨·, none⟩)) = cs := by simp [charsOf, Function.comp_def]
  have hlines : Layout.lines ⟨screenWidth, .fold, none⟩ (.plain cs) = [cs.map (⟨·, none⟩)] := by
    have hbreak : ∀ g ∈ cs.map (⟨·, none⟩ : Char → Glyph), g.char ≠ '\n' := by
      intro g hg heq
      obtain ⟨c, hc, rfl⟩ := List.mem_map.mp hg
      exact (hs c hc).1 (heq ▸ List.mem_cons_self)
    have htab : ∀ g ∈ cs.map (⟨·, none⟩ : Char → Glyph), g.char ≠ '\t' := by
      intro g hg heq
      obtain ⟨c, hc, rfl⟩ := List.mem_map.mp hg
      exact (hs c hc).1 (heq ▸ List.mem_cons_of_mem _ List.mem_cons_self)
    have hwide : lineWidth (cs.map (⟨·, none⟩)) ≤ screenWidth := by
      rw [lineWidth, hchars]
      exact hwidth
    rw [Layout.lines, Styled.plain, hvisible, linesOf_of_no_break hbreak, List.map_singleton,
      fillTabs_of_no_tab htab, List.reverse_nil, List.nil_append, List.flatMap_singleton,
      breakLine_of_fits (by rw [hchars]; exact hs) hwide, List.map_singleton,
      fit_of_fits rfl (by rw [List.length_map]; exact hlength) hwide]
  rw [shown_plain, plainLines, hlines, List.map_singleton, hchars, joinLines,
    List.flatMap_singleton]

end Dialogue.Console
