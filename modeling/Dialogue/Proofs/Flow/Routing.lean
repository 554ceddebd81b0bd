import Dialogue.Flow.Branching
import Dialogue.Proofs.Text.LowerCase

/-!
# Routing by keywords

An answer goes to the first branch with a keyword that occurs in it, whatever their case and the
blanks around them. So a longer answer goes to the same branch or to an earlier one, and branches
that are added at the end take no answer from the others (`resolveBranch_routes`).
-/
namespace Dialogue

namespace Branch

variable {b : Branch} {text longer : String}

/-- A keyword occurs in the text, both in lower case. Blanks around the keyword do not count, and a
keyword of blanks only is none. -/
def Matches (b : Branch) (text : String) : Prop :=
  ∃ k ∈ b.ownKeywords, Text.trim k ≠ "" ∧
    (Text.lower (Text.trim k)).toList <:+: (Text.lower text).toList

theorem matchesText_iff (b : Branch) (text : String) :
    b.matchesText (Text.trimChars (Text.lower text).toList) = true ↔ b.Matches text := by
  simp only [matchesText, keywordTexts, List.any_map, List.any_filter, List.any_eq_true,
    Function.comp_apply, Bool.and_eq_true, Text.occurs_iff,
    Text.infix_trimChars (Text.tight_lower_trim _), Matches, decide_eq_true_eq]

theorem matchesText_nil (b : Branch) : ¬ b.matchesText [] = true := by
  intro h
  obtain ⟨k, -, hne, hoccurs⟩ := (b.matchesText_iff "").mp h
  exact Text.lower_ne_empty hne (String.toList_eq_nil_iff.mp (List.infix_nil.mp hoccurs))

instance (b : Branch) (text : String) : Decidable (b.Matches text) :=
  decidable_of_iff _ (matchesText_iff b text)

theorem Matches.mono (h : b.Matches text) (hpart : text.toList <:+: longer.toList)
    (hsigma : 'Σ' ∉ longer.toList) : b.Matches longer := by
  obtain ⟨k, hk, hne, hoccurs⟩ := h
  exact ⟨k, hk, hne, hoccurs.trans (Text.lower_infix hpart hsigma)⟩

theorem matches_of_infix {k word : String} (hk : k ∈ b.ownKeywords) (hne : Text.trim k ≠ "")
    (hplain : 'Σ' ∉ k.toList) (hsigma : 'Σ' ∉ text.toList) (hword : word.toList <:+: text.toList)
    (hcase : Text.lower word = Text.lower k) : b.Matches text := by
  have htrim : (Text.trim k).toList <:+: k.toList := by
    rw [Text.trim, String.toList_ofList]
    exact Text.trimChars_infix _
  refine ⟨k, hk, hne, (Text.lower_infix htrim hplain).trans ?_⟩
  rw [← hcase]
  exact Text.lower_infix hword hsigma

end Branch

variable {text longer : String} {branches : List Branch} {i : Nat}

theorem resolveBranch_eq (text : String) (branches : List Branch) :
    resolveBranch text branches = branches.findIdx? fun b => b.Matches text := by
  have hmatches : ∀ b : Branch, b.matchesText (Text.trimChars (Text.lower text).toList) =
      decide (b.Matches text) := fun b => by
    rw [Bool.eq_iff_iff, b.matchesText_iff, decide_eq_true_eq]
  unfold resolveBranch
  simp only [hmatches]
  split
  · rename_i hblank
    symm
    rw [List.findIdx?_eq_none_iff]
    intro b _
    rw [← hmatches, hblank, Bool.eq_false_iff]
    exact b.matchesText_nil
  · rfl

theorem resolveBranch_eq_some_iff : resolveBranch text branches = some i ↔
    ∃ b, branches[i]? = some b ∧ b.Matches text ∧
      ∀ j < i, ∀ b' ∈ branches[j]?, ¬ b'.Matches text := by
  rw [resolveBranch_eq, List.findIdx?_eq_some_iff_getElem]
  constructor
  · rintro ⟨hi, hmatches, hbefore⟩
    refine ⟨branches[i], List.getElem?_eq_getElem hi, of_decide_eq_true hmatches, ?_⟩
    intro j hj b' hb'
    rw [List.getElem?_eq_getElem (hj.trans hi), Option.mem_some_iff] at hb'
    simpa [hb'] using hbefore j hj
  · rintro ⟨b, hb, hmatches, hbefore⟩
    obtain ⟨hi, rfl⟩ := List.getElem?_eq_some_iff.mp hb
    refine ⟨hi, decide_eq_true hmatches, fun j hj => ?_⟩
    have hnot := hbefore j hj branches[j] (List.getElem?_eq_getElem (hj.trans hi))
    simpa using hnot

theorem resolveBranch_le (h : ∀ b ∈ branches, b.Matches text → b.Matches longer)
    (hi : resolveBranch text branches = some i) :
    ∃ j ≤ i, resolveBranch longer branches = some j := by
  rw [resolveBranch_eq, List.findIdx?_eq_some_iff_findIdx_eq] at hi
  obtain ⟨hlt, rfl⟩ := hi
  have hle : branches.findIdx (fun b => b.Matches longer) ≤
      branches.findIdx fun b => b.Matches text :=
    List.findIdx_le_findIdx fun b hb => by simpa using h b hb
  refine ⟨_, hle, ?_⟩
  rw [resolveBranch_eq, List.findIdx?_eq_some_iff_findIdx_eq]
  exact ⟨hle.trans_lt hlt, rfl⟩

theorem exists_resolveBranch {b : Branch} (hb : branches[i]? = some b) (h : b.Matches text) :
    ∃ j ≤ i, resolveBranch text branches = some j := by
  obtain ⟨hi, rfl⟩ := List.getElem?_eq_some_iff.mp hb
  rw [resolveBranch_eq]
  refine ⟨_, ?_, List.findIdx?_eq_some_of_exists ⟨_, List.getElem_mem hi, decide_eq_true h⟩⟩
  by_contra hlate
  have hnot := List.not_of_lt_findIdx (not_le.mp hlate)
  exact of_decide_eq_false hnot h

theorem resolveBranch_append (hi : resolveBranch text branches = some i) (more : List Branch) :
    resolveBranch text (branches ++ more) = some i := by
  rw [resolveBranch_eq] at hi ⊢
  exact (List.prefix_append branches more).findIdx?_eq_some hi

/-- An answer goes to the first branch with a keyword in it, in any case of its letters. A longer
answer goes to that branch or to one before it, and further branches make no difference. -/
theorem resolveBranch_routes (branches : List Branch) {text : String} (h : 'Σ' ∉ text.toList) :
    (∀ i, resolveBranch text branches = some i ↔ ∃ b, branches[i]? = some b ∧ b.Matches text ∧
        ∀ j < i, ∀ b' ∈ branches[j]?, ¬ b'.Matches text) ∧
      (∀ i b k word, branches[i]? = some b → k ∈ b.ownKeywords → Text.trim k ≠ "" →
        'Σ' ∉ k.toList → word.toList <:+: text.toList → Text.lower word = Text.lower k →
        ∃ j ≤ i, resolveBranch text branches = some j) ∧
      (∀ i before after, 'Σ' ∉ before.toList → 'Σ' ∉ after.toList →
        resolveBranch text branches = some i →
        ∃ j ≤ i, resolveBranch (before ++ text ++ after) branches = some j) ∧
      ∀ i more, resolveBranch text branches = some i →
        resolveBranch text (branches ++ more) = some i := by
  refine ⟨fun i => resolveBranch_eq_some_iff, ?_, ?_, fun i more hi => resolveBranch_append hi more⟩
  · intro i b k word hb hk hne hplain hword hcase
    exact exists_resolveBranch hb (Branch.matches_of_infix hk hne hplain h hword hcase)
  · intro i before after hbefore hafter hi
    refine resolveBranch_le (fun b _ hmatches => hmatches.mono ?_ ?_) hi
    · simp only [String.toList_append]
      exact ⟨_, _, rfl⟩
    · simp [h, hbefore, hafter]

namespace Vote

def yes : Branch := ⟨"yes", "Sim", "", some [" Sim "]⟩

/-- Without keywords of its own. -/
def no : Branch := ⟨"no", "Não", "não", none⟩

/-- A word in capitals is found, and a longer answer may go to an earlier branch. -/
theorem word_routed : 'Σ' ∉ "NÃO!".toList ∧ resolveBranch "NÃO!" [yes, no] = some 1 ∧
    (∃ j ≤ 1, resolveBranch "NÃO!" [yes, no] = some j) ∧
    (∃ j ≤ 1, resolveBranch ("Sim, digo " ++ "NÃO!" ++ "") [yes, no] = some j) ∧
    resolveBranch "NÃO!" ([yes, no] ++ [yes]) = some 1 := by
  have hplain : 'Σ' ∉ "NÃO!".toList := by decide
  have hno : resolveBranch "NÃO!" [yes, no] = some 1 := by decide
  obtain ⟨-, hword, hlonger, hmore⟩ := resolveBranch_routes [yes, no] hplain
  refine ⟨hplain, hno, ?_, hlonger 1 "Sim, digo " "" (by decide) (by decide) hno,
    hmore 1 [yes] hno⟩
  exact hword 1 no "não" "NÃO" rfl (by decide) (by decide) (by decide)
    ⟨[], ['!'], by decide⟩ (by decide)

end Vote
end Dialogue
