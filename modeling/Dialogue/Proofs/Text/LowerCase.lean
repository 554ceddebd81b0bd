import Dialogue.Proofs.Text.Trimming
import Dialogue.Text.LowerCase

/-!
# Texts in lower case

Apart from the choice between the two small sigmas, each character is lowered on its own. Lowering
turns no character into a blank, so a trimmed text stays trimmed.
-/
namespace Dialogue.Text

/-- Each character lowered on its own. -/
def lowerEach (cs : List Char) : List Char := cs.flatMap lowerChar

variable {cs needle hay : List Char} {c d : Char}

theorem lowerEach_append (cs ds : List Char) :
    lowerEach (cs ++ ds) = lowerEach cs ++ lowerEach ds := List.flatMap_append

theorem lowerEach_infix (h : needle <:+: hay) : lowerEach needle <:+: lowerEach hay := by
  obtain ⟨before, after, rfl⟩ := h
  rw [lowerEach_append, lowerEach_append]
  exact ⟨_, _, rfl⟩

theorem lowerEach_eq_self (h : ∀ c ∈ cs, lowerChar c = [c]) : lowerEach cs = cs := by
  induction cs with
  | nil => rfl
  | cons c cs ih =>
      rw [lowerEach, List.flatMap_cons, h c List.mem_cons_self]
      exact congrArg (c :: ·) (ih fun d hd => h d (List.mem_cons_of_mem c hd))

/-! ### Sigmas -/

theorem lowerFrom_eq (h : 'Σ' ∉ cs) (before : List Char) : lowerFrom before cs = lowerEach cs := by
  induction cs generalizing before with
  | nil => rfl
  | cons c cs ih =>
      obtain ⟨hc, hcs⟩ := List.mem_cons.not.trans not_or |>.mp h
      rw [lowerFrom, if_neg (Ne.symm hc), ih hcs]
      rfl

theorem toList_lower {s : String} (h : 'Σ' ∉ s.toList) :
    (lower s).toList = lowerEach s.toList := by
  rw [lower, String.toList_ofList, lowerFrom_eq h]

theorem lower_infix {s t : String} (h : s.toList <:+: t.toList) (ht : 'Σ' ∉ t.toList) :
    (lower s).toList <:+: (lower t).toList := by
  have hs : 'Σ' ∉ s.toList := fun hmem => ht (h.subset hmem)
  rw [toList_lower hs, toList_lower ht]
  exact lowerEach_infix h

/-- The final small sigma as the other one. -/
def plainSigma (c : Char) : Char := if c = 'ς' then 'σ' else c

theorem lowerChar_sigma : lowerChar 'Σ' = ['σ'] := by decide

theorem map_plainSigma_lowerFrom (before cs : List Char) :
    (lowerFrom before cs).map plainSigma = (lowerEach cs).map plainSigma := by
  induction cs generalizing before with
  | nil => rfl
  | cons c cs ih =>
      have hsigma : (if meetsCased before && !meetsCased cs then ['ς'] else ['σ']).map plainSigma =
          ['σ'].map plainSigma := by split <;> rfl
      rw [lowerFrom, lowerEach, List.flatMap_cons, List.map_append, List.map_append, ih]
      congr 1
      by_cases hc : c = 'Σ'
      · rw [if_pos hc, hc, lowerChar_sigma]
        split <;> rfl
      · rw [if_neg hc]

/-- A text without small sigmas occurs just where it occurs with all sigmas alike. -/
theorem infix_map_plainSigma (h : 'σ' ∉ needle ∧ 'ς' ∉ needle) :
    needle <:+: hay.map plainSigma ↔ needle <:+: hay := by
  have hsame : ∀ {c d}, d ∈ needle → plainSigma c = d → c = d := by
    intro c d hd hcd
    unfold plainSigma at hcd
    split at hcd
    · exact absurd (hcd ▸ hd) h.1
    · exact hcd
  constructor
  · rintro ⟨before, after, hhay⟩
    obtain ⟨front, back, rfl, hfront, -⟩ := List.map_eq_append_iff.mp hhay.symm
    obtain ⟨before', mid, rfl, -, hmid⟩ := List.map_eq_append_iff.mp hfront
    have hneedle : mid = needle := by
      rw [← hmid]
      refine (List.map_id mid).symm.trans (List.map_congr_left fun c hc => ?_)
      exact hsame (hmid ▸ List.mem_map_of_mem hc) rfl
    exact ⟨before', back, by rw [hneedle]⟩
  · intro hpart
    have hkept : needle.map plainSigma = needle := by
      refine (List.map_congr_left fun c hc => ?_).trans (List.map_id needle)
      have hc' : c ≠ 'ς' := fun heq => h.2 (heq ▸ hc)
      exact if_neg hc'
    exact hkept ▸ hpart.map plainSigma

theorem infix_lowerFrom (h : 'σ' ∉ needle ∧ 'ς' ∉ needle) (before cs : List Char) :
    needle <:+: lowerFrom before cs ↔ needle <:+: lowerEach cs := by
  rw [← infix_map_plainSigma h, map_plainSigma_lowerFrom, infix_map_plainSigma h]

theorem infix_lower (h : 'σ' ∉ needle ∧ 'ς' ∉ needle) (s : String) :
    needle <:+: (lower s).toList ↔ needle <:+: lowerEach s.toList := by
  rw [lower, String.toList_ofList, infix_lowerFrom h]

/-! ### Blanks -/

theorem lowerChar_ne_nil (c : Char) : lowerChar c ≠ [] := by
  unfold lowerChar
  split
  · exact List.cons_ne_nil _ _
  · split
    · exact List.cons_ne_nil _ _
    · split <;> exact List.cons_ne_nil _ _

theorem lower_ne_empty {s : String} (h : s ≠ "") : lower s ≠ "" := by
  intro hempty
  have hnil : lowerFrom [] s.toList = [] := by
    rw [← String.toList_ofList (l := lowerFrom [] s.toList)]
    exact congrArg String.toList hempty
  have heach : lowerEach s.toList = [] := by
    rw [← List.map_eq_nil_iff (f := plainSigma), ← map_plainSigma_lowerFrom [], hnil]
    rfl
  rw [lowerEach, List.flatMap_eq_nil_iff] at heach
  cases hs : s.toList with
  | nil => exact h (String.toList_eq_nil_iff.mp hs)
  | cons c rest => exact lowerChar_ne_nil c (heach c (hs ▸ List.mem_cons_self))

theorem lowerRuns_apart : ∀ r ∈ lowerRuns, ∀ b ∈ blankRanges,
    0 < b.1 ∧ ((r.last : Int) + r.shift < b.1 ∨ (b.2 : Int) < r.first + r.shift) := by
  decide +kernel

theorem toNat_ofNat_cases (n : Nat) : (Char.ofNat n).toNat = n ∨ (Char.ofNat n).toNat = 0 := by
  by_cases h : n.isValidChar
  · left
    rw [show Char.ofNat n = Char.ofNatAux n h from dif_pos h]
    rfl
  · right
    rw [show Char.ofNat n = Char.ofNat 0 from dif_neg h]
    rfl

theorem isBlank_lowerRun {r : CaseRun} (hr : r ∈ lowerRuns) (hcovers : r.covers c = true) :
    isBlank (Char.ofNat (c.toNat + r.shift).toNat) = false := by
  rw [CaseRun.covers, Bool.and_eq_true, Bool.and_eq_true, decide_eq_true_eq,
    decide_eq_true_eq] at hcovers
  obtain ⟨⟨hfirst, hlast⟩, -⟩ := hcovers
  rw [Bool.eq_false_iff]
  intro hblank
  obtain ⟨b, hb, hlow, hhigh⟩ := (Ranges.has_iff _ _).mp hblank
  obtain ⟨hpos, hapart⟩ := lowerRuns_apart r hr b hb
  rcases toNat_ofNat_cases (c.toNat + r.shift).toNat with hcode | hnull <;> omega

/-- What is so of every code below a bound is so of the characters below it. -/
theorem of_codes {P : Char → Prop} {bound : Nat} (h : ∀ n < bound, P (Char.ofNat n))
    (hc : c.toNat < bound) : P c := by
  have hcode := h c.toNat hc
  rwa [Char.ofNat_toNat] at hcode

theorem isBlank_lowerChar (h : isBlank c = false) : ∀ d ∈ lowerChar c, isBlank d = false := by
  unfold lowerChar
  split
  · rename_i hsmall
    have hlower := of_codes (P := fun c => isBlank c = false → isBlank c.toLower = false)
      (by decide +kernel) hsmall
    simpa using hlower h
  · split
    · exact List.forall_mem_cons.mpr
        ⟨by decide, List.forall_mem_singleton.mpr (by decide)⟩
    · split
      · rename_i r hr
        have hcovers : r.covers c = true := by simpa using List.find?_some hr
        simpa using isBlank_lowerRun (List.mem_of_find?_eq_some hr) hcovers
      · simpa using h

theorem tight_lowerEach (h : Tight cs) : Tight (lowerEach cs) where
  head := by
    cases cs with
    | nil => simp [lowerEach]
    | cons c cs =>
        have hsplit : lowerEach (c :: cs) = lowerChar c ++ lowerEach cs := rfl
        rw [hsplit, List.head?_append_of_ne_nil _ (lowerChar_ne_nil c)]
        intro d hd
        exact isBlank_lowerChar (h.head c rfl) d (List.mem_of_mem_head? hd)
  last := by
    rcases List.eq_nil_or_concat' cs with rfl | ⟨front, c, rfl⟩
    · simp [lowerEach]
    · have hsplit : lowerEach [c] = lowerChar c := by simp [lowerEach]
      rw [lowerEach_append, hsplit, List.getLast?_append_of_ne_nil _ (lowerChar_ne_nil c)]
      intro d hd
      exact isBlank_lowerChar (h.last c (by simp)) d (List.mem_of_mem_getLast? hd)

theorem isBlank_plainSigma (c : Char) : isBlank (plainSigma c) = isBlank c := by
  unfold plainSigma
  split
  · rename_i hc
    rw [hc]
    decide
  · rfl

theorem tight_map_plainSigma : Tight (cs.map plainSigma) ↔ Tight cs := by
  constructor
  · intro h
    exact ⟨by simpa [isBlank_plainSigma] using h.head, by simpa [isBlank_plainSigma] using h.last⟩
  · intro h
    exact ⟨by simpa [isBlank_plainSigma] using h.head, by simpa [isBlank_plainSigma] using h.last⟩

theorem tight_lowerFrom (h : Tight cs) (before : List Char) : Tight (lowerFrom before cs) := by
  rw [← tight_map_plainSigma, map_plainSigma_lowerFrom, tight_map_plainSigma]
  exact tight_lowerEach h

theorem tight_lower_trim (s : String) : Tight (lower (trim s)).toList := by
  rw [lower, trim, String.toList_ofList, String.toList_ofList]
  exact tight_lowerFrom (tight_trimChars _) []

end Dialogue.Text
