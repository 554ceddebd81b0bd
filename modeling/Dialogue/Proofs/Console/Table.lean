import Dialogue.Number.Layout
import Dialogue.Proofs.Console.Reading

/-!
# Tables on the screen

A table can be shown if all its cells can (`Table.succeeds_lines`), and a panel if its text can.
The texts of numbers have no markup.
-/
namespace Dialogue.Console

theorem Column.yields_read {headed : Bool} {c : Column} (hheading : Presentable c.heading)
    (hcells : ∀ cell ∈ c.cells, Presentable cell) :
    Yields (c.read headed) fun r => ∀ t ∈ r.cells, t.Sound := by
  have hall : ∀ cell ∈ (if headed then [c.heading] else []) ++ c.cells, Presentable cell := by
    intro cell hcell
    rcases List.mem_append.mp hcell with hcell | hcell
    · split at hcell
      · exact List.mem_singleton.mp hcell ▸ hheading
      · cases hcell
    · exact hcells cell hcell
  exact (yields_mapM hall).bind fun cells h => ⟨⟨c.alignment, cells⟩, rfl, h⟩

theorem ReadColumn.succeeds_cellLines {c : ReadColumn} (h : ∀ t ∈ c.cells, t.Sound)
    (width i : Nat) : Succeeds (c.cellLines width i) := by
  unfold cellLines
  split
  · exact ⟨[], rfl, trivial⟩
  · rename_i t ht
    have ht : t.Sound := h t (List.mem_of_getElem? ht)
    split
    · exact ⟨[], rfl, trivial⟩
    · exact ((Layout.succeeds_shownLines _ ht).mapError _).bind fun _ _ => ⟨_, rfl, trivial⟩

theorem Table.succeeds_lines {t : Table}
    (h : ∀ c ∈ t.columns, Presentable c.heading ∧ ∀ cell ∈ c.cells, Presentable cell) :
    Succeeds t.lines := by
  unfold lines
  refine (yields_mapM fun c hc => Column.yields_read (h c hc).1 (h c hc).2).bind ?_
  intro columns hcolumns
  refine ((Layout.succeeds_shownLines _ (sound_plain _)).mapError _).bind fun title _ => ?_
  refine Yields.bind (P := fun _ => True) ?_ fun rows _ => ⟨_, rfl, trivial⟩
  refine succeeds_mapM fun i _ => succeeds_mapM fun cell hcell => ?_
  exact ReadColumn.succeeds_cellLines (hcolumns _ (List.of_mem_zip hcell).1) _ _

theorem succeeds_panel (title : String) {text : Styled} (h : text.Sound) :
    Succeeds (panel title text) :=
  ((Layout.succeeds_shownLines _ h).mapError _).bind fun _ _ => ⟨_, rfl, trivial⟩

/-! ### Numbers -/

theorem inert_of_isDigit {c : Char} (h : c.isDigit = true) : Inert c := by
  have hrange : 48 ≤ c.toNat ∧ c.toNat ≤ 57 := by
    simpa [Char.isDigit, UInt32.le_iff_toNat_le] using h
  constructor
  · intro hc
    simp only [List.mem_cons, List.not_mem_nil, or_false] at hc
    rcases hc with rfl | rfl | rfl <;> cases h
  · simp only [isHidden, List.contains_eq_mem, List.mem_cons, List.not_mem_nil, or_false,
      decide_eq_false_iff_not]
    omega

theorem inert_of_mem_toDigits {n : Nat} : InertText (Nat.toDigits 10 n) :=
  fun _ hc => inert_of_isDigit (Nat.isDigit_of_mem_toDigits (by decide) (by decide) hc)

theorem inert_toString (n : Nat) : InertText (toString n).toList := by
  rw [show toString n = String.ofList (Nat.toDigits 10 n) from rfl, String.toList_ofList]
  exact inert_of_mem_toDigits

theorem inert_withPoint (n places : Nat) : InertText (Number.withPoint n places).toList := by
  have hzeros (k : Nat) : InertText (List.replicate k '0') :=
    fun c hc => List.eq_of_mem_replicate hc ▸ by decide
  have htext := (hzeros (places + 1 - (Nat.toDigits 10 n).length)).append
    (inert_of_mem_toDigits (n := n))
  intro c hc
  simp only [Number.withPoint] at hc
  split at hc
  · rw [String.toList_ofList] at hc
    exact htext c (List.mem_of_mem_take hc)
  · rw [String.toList_ofList] at hc
    rcases List.mem_append.mp hc with hc | hc
    · exact htext c (List.mem_of_mem_take hc)
    · rcases List.mem_cons.mp hc with rfl | hc
      · decide
      · exact htext c (List.mem_of_mem_drop hc)

theorem inert_fixedText (places : Nat) (x : Number.Binary64) :
    InertText (x.fixedText places).toList := by
  have hsign (negative : Bool) : InertText (Number.Binary64.signText negative).toList := by
    cases negative <;> decide
  cases x with
  | nan => exact (by decide : InertText "nan".toList)
  | infinite negative =>
      show InertText (Number.Binary64.signText negative ++ "inf").toList
      rw [String.toList_append]
      exact (hsign negative).append (by decide)
  | finite negative m e =>
      show InertText (Number.Binary64.signText negative ++ Number.withPoint _ places).toList
      rw [String.toList_append]
      exact (hsign negative).append (inert_withPoint _ _)

end Dialogue.Console
