import Dialogue.Text.Blank
import Mathlib.Data.List.DropRight
import Mathlib.Data.List.Infix

/-!
# Trimmed texts

A text is trimmed when no blank stands at its ends. Trimming takes nothing from such a text, also
where it is a part of what is trimmed.
-/
namespace Dialogue.Text

/-- No blank stands at either end. -/
structure Tight (cs : List Char) : Prop where
  head : ∀ c ∈ cs.head?, isBlank c = false
  last : ∀ c ∈ cs.getLast?, isBlank c = false

instance (cs : List Char) : Decidable (Tight cs) :=
  decidable_of_iff (cs.head?.all (!isBlank ·) = true ∧ cs.getLast?.all (!isBlank ·) = true)
    (by
      simp only [Option.all_eq_true, Bool.not_eq_true']
      exact ⟨fun h => ⟨h.1, h.2⟩, fun h => ⟨h.head, h.last⟩⟩)

variable {cs needle before after : List Char}

theorem Tight.reverse (h : Tight cs) : Tight cs.reverse where
  head := by simpa using h.last
  last := by simpa using h.head

/-! ### Blanks in front -/

theorem head_dropWhile (cs : List Char) :
    ∀ c ∈ (cs.dropWhile isBlank).head?, isBlank c = false := by
  intro c hc
  have hnot := List.head?_dropWhile_not isBlank cs
  rw [hc] at hnot
  simpa using hnot

theorem dropWhile_append_of_head (h : ∀ c ∈ cs.head?, isBlank c = false) (hne : cs ≠ [])
    (before : List Char) :
    (before ++ cs).dropWhile isBlank = before.dropWhile isBlank ++ cs := by
  induction before with
  | nil =>
      obtain ⟨c, cs, rfl⟩ := List.exists_cons_of_ne_nil hne
      simp [h c rfl]
  | cons b before ih =>
      rw [List.cons_append, List.dropWhile_cons, List.dropWhile_cons]
      split
      · exact ih
      · rfl

theorem infix_dropWhile (h : ∀ c ∈ needle.head?, isBlank c = false) :
    needle <:+: cs.dropWhile isBlank ↔ needle <:+: cs := by
  induction cs with
  | nil => rfl
  | cons c cs ih =>
      rw [List.dropWhile_cons]
      split
      · rename_i hblank
        rw [ih, List.infix_cons_iff, or_iff_right_of_imp]
        intro hprefix
        cases needle with
        | nil => exact List.nil_infix
        | cons d needle =>
            obtain ⟨rfl, -⟩ := List.cons_prefix_cons.mp hprefix
            simp [h d rfl] at hblank
      · rfl

/-! ### Trimming -/

theorem trimChars_infix (cs : List Char) : trimChars cs <:+: cs :=
  (List.rdropWhile_prefix _ _).isInfix.trans (List.dropWhile_suffix _).isInfix

theorem tight_trimChars (cs : List Char) : Tight (trimChars cs) where
  head := by
    obtain ⟨rest, hrest⟩ : trimChars cs <+: cs.dropWhile isBlank := List.rdropWhile_prefix _ _
    intro c hc
    refine head_dropWhile cs c ?_
    rw [← hrest, List.head?_append, hc]
    rfl
  last := by
    rw [trimChars, List.getLast?_reverse]
    exact head_dropWhile _

theorem trimChars_append (h : Tight cs) (hne : cs ≠ []) (before after : List Char) :
    trimChars (before ++ (cs ++ after)) =
      before.dropWhile isBlank ++ (cs ++ after.rdropWhile isBlank) := by
  have hfront : ∀ c ∈ (cs ++ after).head?, isBlank c = false := by
    rw [List.head?_append_of_ne_nil _ hne]
    exact h.head
  have hback : ∀ c ∈ (cs.reverse ++ (before.dropWhile isBlank).reverse).head?,
      isBlank c = false := by
    rw [List.head?_append_of_ne_nil _ (by simpa using hne)]
    exact h.reverse.head
  rw [trimChars, dropWhile_append_of_head hfront (by simp [hne])]
  rw [List.reverse_append, List.reverse_append, List.append_assoc,
    dropWhile_append_of_head hback (by simp [hne])]
  simp [List.rdropWhile]

theorem Tight.trimChars (h : Tight cs) : trimChars cs = cs := by
  by_cases hne : cs = []
  · rw [hne]
    rfl
  · simpa using trimChars_append h hne [] []

theorem trimChars_trimChars (cs : List Char) : trimChars (trimChars cs) = trimChars cs :=
  (tight_trimChars cs).trimChars

theorem trim_trim (s : String) : trim (trim s) = trim s := by
  simp [trim, trimChars_trimChars]

theorem infix_trimChars (h : Tight needle) : needle <:+: trimChars cs ↔ needle <:+: cs := by
  rw [Text.trimChars, ← List.reverse_infix, List.reverse_reverse, infix_dropWhile h.reverse.head,
    List.reverse_infix, infix_dropWhile h.head]

end Dialogue.Text
