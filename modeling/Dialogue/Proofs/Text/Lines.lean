import Mathlib.Data.List.Basic

/-!
# The lines of a text

A text is its lines with a break between any two of them. So the lines of texts that are put one
below the other are the lines of each in turn (`lines_intercalate`), and they are the texts
themselves just where none has a break of its own (`flatMap_lines_eq_self_iff`).
-/
namespace Dialogue.Text

def lines (s : String) : List String := (s.toList.splitOn '\n').map String.ofList

def firstLine (s : String) : String := (lines s).headD ""

def laterLines (s : String) : List String := (lines s).tail

variable {s t : String} {ss : List String}

theorem lines_ne_nil (s : String) : lines s ≠ [] := by
  rw [lines, Ne, List.map_eq_nil_iff]
  exact List.splitOn_ne_nil _ _

theorem lines_eq_cons (s : String) : lines s = firstLine s :: laterLines s := by
  rw [firstLine, laterLines]
  cases h : lines s with
  | nil => exact absurd h (lines_ne_nil s)
  | cons l ls => rfl

theorem lines_of_not_mem (h : '\n' ∉ s.toList) : lines s = [s] := by
  rw [lines, List.splitOn_eq_singleton h, List.map_singleton, String.ofList_toList]

theorem laterLines_of_not_mem (h : '\n' ∉ s.toList) : laterLines s = [] := by
  rw [laterLines, lines_of_not_mem h, List.tail_cons]

theorem lines_append_break (s t : String) : lines (s ++ "\n" ++ t) = lines s ++ lines t := by
  have hbreak : (s ++ "\n" ++ t).toList = s.toList ++ '\n' :: t.toList := by simp
  rw [lines, hbreak, List.splitOn_append_cons_self, List.map_append]
  rfl

theorem lines_intercalate (hne : ss ≠ []) : lines ("\n".intercalate ss) = ss.flatMap lines := by
  induction ss with
  | nil => exact absurd rfl hne
  | cons s ss ih =>
      by_cases hlast : ss = []
      · simp [hlast]
      · rw [← List.singleton_append, String.intercalate_append_of_ne_nil (by simp) hlast,
          String.intercalate_singleton, lines_append_break, ih hlast]
        simp

theorem intercalate_lines (s : String) : "\n".intercalate (lines s) = s := by
  apply String.toList_injective
  rw [String.toList_intercalate, lines, List.map_map]
  have hlines : String.toList ∘ String.ofList = id := funext fun _ => String.toList_ofList
  rw [hlines, List.map_id]
  exact List.intercalate_splitOn '\n'

theorem lines_injective : Function.Injective lines :=
  Function.LeftInverse.injective intercalate_lines

private theorem not_mem_of_mem_splitOn {cs l : List Char} (h : l ∈ cs.splitOn '\n') :
    '\n' ∉ l := by
  induction cs generalizing l with
  | nil =>
      rw [List.mem_singleton.mp h]
      exact List.not_mem_nil
  | cons c cs ih =>
      rw [List.splitOn_cons_eq_if_modifyHead] at h
      split at h
      · rcases List.mem_cons.mp h with rfl | hmem
        · exact List.not_mem_nil
        · exact ih hmem
      · rename_i hc
        have hne : '\n' ≠ c := fun heq => hc (beq_iff_eq.mpr heq.symm)
        obtain ⟨first, more, hsplit⟩ := List.exists_cons_of_ne_nil (List.splitOn_ne_nil '\n' cs)
        rw [hsplit] at ih h
        rcases List.mem_cons.mp h with rfl | hmem
        · exact List.not_mem_cons_of_ne_of_not_mem hne (ih List.mem_cons_self)
        · exact ih (List.mem_cons_of_mem _ hmem)

theorem not_mem_of_mem_lines (h : t ∈ lines s) : '\n' ∉ t.toList := by
  obtain ⟨cs, hcs, rfl⟩ := List.mem_map.mp h
  rw [String.toList_ofList]
  exact not_mem_of_mem_splitOn hcs

theorem flatMap_lines_eq_self_iff : ss.flatMap lines = ss ↔ ∀ s ∈ ss, '\n' ∉ s.toList := by
  constructor
  · intro heq s hs
    rw [← heq] at hs
    obtain ⟨t, -, hmem⟩ := List.mem_flatMap.mp hs
    exact not_mem_of_mem_lines hmem
  · intro h
    have hlines : ∀ s ∈ ss, lines s = [s] := fun s hs => lines_of_not_mem (h s hs)
    rw [List.flatMap_congr hlines]
    simp

theorem not_mem_firstLine (s : String) : '\n' ∉ (firstLine s).toList :=
  not_mem_of_mem_lines (lines_eq_cons s ▸ List.mem_cons_self)

theorem not_mem_of_mem_laterLines (h : t ∈ laterLines s) : '\n' ∉ t.toList :=
  not_mem_of_mem_lines (List.mem_of_mem_tail h)

theorem lines_append (h : '\n' ∉ s.toList) (t : String) :
    lines (s ++ t) = (s ++ firstLine t) :: laterLines t := by
  have hwhole : s ++ t = "\n".intercalate ((s ++ firstLine t) :: laterLines t) := by
    rw [String.intercalate_cons_append, ← lines_eq_cons, intercalate_lines]
  rw [hwhole, lines_intercalate (List.cons_ne_nil _ _), flatMap_lines_eq_self_iff]
  intro l hl
  rcases List.mem_cons.mp hl with rfl | hl
  · simp [h, not_mem_firstLine]
  · exact not_mem_of_mem_laterLines hl

end Dialogue.Text
