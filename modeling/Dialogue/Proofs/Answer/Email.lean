import Dialogue.Answer
import Dialogue.Proofs.Text.Trimming
import Mathlib.Data.List.TakeWhile

/-!
# Addresses in answers

The address taken from an answer is the whole stretch between two blanks in which it stands
(`coerce_stretch`). So it comes with the marks that touch it, and alone only where none does
(`coerce_email`).
-/
namespace Dialogue.Answer

/-- The characters of the two sides of an address. -/
def isNameChar (c : Char) : Bool :=
  c.isAlphanum || c == '.' || c == '-' || c == '_' || c == '+'

structure Address where
  user : List Char
  domain : List Char
  user_chars : ∀ c ∈ user, isNameChar c = true
  domain_chars : ∀ c ∈ domain, isNameChar c = true
  inner : ∃ front back, domain = front ++ '.' :: back ∧ front ≠ [] ∧ back ≠ []
  first : ∃ c ∈ user.head?, c.isAlphanum = true
  last : ∃ c ∈ domain.getLast?, c.isAlphanum = true

def Address.chars (a : Address) : List Char := a.user ++ '@' :: a.domain

/-- The marks of a sentence. -/
def sentenceMarks : List Char := [',', '.', ';', ':', '!', '?', '(', ')']

/-- A sentence around an address: a mark may touch it on each side, and blanks or the ends of the
text are beyond. -/
structure Surrounds (before : List Char) (opening closing : Option Char) (after : List Char) :
    Prop where
  opening_mark : ∀ c ∈ opening, c ∈ sentenceMarks
  closing_mark : ∀ c ∈ closing, c ∈ sentenceMarks
  before_last : ∀ c ∈ before.getLast?, Text.isBlank c = true
  after_head : ∀ c ∈ after.head?, Text.isBlank c = true
  before_sign : '@' ∉ before
  after_sign : '@' ∉ after

instance (before after : List Char) (opening closing : Option Char) :
    Decidable (Surrounds before opening closing after) :=
  decidable_of_iff (opening.all sentenceMarks.contains = true ∧
      closing.all sentenceMarks.contains = true ∧ before.getLast?.all Text.isBlank = true ∧
      after.head?.all Text.isBlank = true ∧ '@' ∉ before ∧ '@' ∉ after) (by
    simp only [Option.all_eq_true, List.contains_iff_mem]
    exact ⟨fun ⟨h, h', hbefore, hafter, hs, hs'⟩ => ⟨h, h', hbefore, hafter, hs, hs'⟩,
      fun ⟨h, h', hbefore, hafter, hs, hs'⟩ => ⟨h, h', hbefore, hafter, hs, hs'⟩⟩)

variable {cs user domain before after front back : List Char} {c b : Char}
  {opening closing : Option Char}

/-! ### Characters of an address -/

theorem toNat_of_isAlphanum (h : c.isAlphanum = true) :
    48 ≤ c.toNat ∧ c.toNat ≤ 122 ∧ c.toNat ≠ 64 := by
  have hbounds : ∀ {low high : Char}, low.val ≤ c.val → c.val ≤ high.val →
      low.toNat ≤ c.toNat ∧ c.toNat ≤ high.toNat := fun hlow hhigh =>
    ⟨UInt32.le_iff_toNat_le.mp hlow, UInt32.le_iff_toNat_le.mp hhigh⟩
  rcases (Bool.or_eq_true _ _).mp h with halpha | hdigit
  · rcases (Bool.or_eq_true _ _).mp halpha with hupper | hlower
    · obtain ⟨hlow, hhigh⟩ := of_decide_eq_true hupper
      have hrange : 65 ≤ c.toNat ∧ c.toNat ≤ 90 := hbounds hlow hhigh
      omega
    · obtain ⟨hlow, hhigh⟩ := (Bool.and_eq_true _ _).mp hlower
      have hrange : 97 ≤ c.toNat ∧ c.toNat ≤ 122 :=
        hbounds (of_decide_eq_true hlow) (of_decide_eq_true hhigh)
      omega
  · obtain ⟨hlow, hhigh⟩ := (Bool.and_eq_true _ _).mp hdigit
    have hrange : 48 ≤ c.toNat ∧ c.toNat ≤ 57 :=
      hbounds (of_decide_eq_true hlow) (of_decide_eq_true hhigh)
    omega

theorem isAddressChar_of_isNameChar (h : isNameChar c = true) : isAddressChar c = true := by
  have hapart : ∀ b ∈ Text.blankRanges, b.2 < 0x2b ∨ 0x7a < b.1 := by decide
  have hrange : 0x2b ≤ c.toNat ∧ c.toNat ≤ 0x7a ∧ c.toNat ≠ 0x40 := by
    simp only [isNameChar, Bool.or_eq_true, beq_iff_eq] at h
    rcases h with (((halnum | rfl) | rfl) | rfl) | rfl
    · have hrange := toNat_of_isAlphanum halnum
      omega
    all_goals decide
  have hblank : Text.isBlank c = false := by
    rw [Bool.eq_false_iff]
    intro hblank
    obtain ⟨b, hb, hlow, hhigh⟩ := (Text.Ranges.has_iff _ _).mp hblank
    rcases hapart b hb with hbelow | habove <;> omega
  have hsign : c ≠ '@' := by
    rintro rfl
    exact hrange.2.2 rfl
  simp [isAddressChar, hblank, hsign]

theorem isAddressChar_of_mem_sentenceMarks : ∀ c ∈ sentenceMarks, isAddressChar c = true :=
  List.all_eq_true.mp (by decide)

theorem isBlank_of_isAddressChar (h : isAddressChar c = true) : Text.isBlank c = false := by
  rw [isAddressChar, Bool.and_eq_true, Bool.not_eq_true'] at h
  exact h.1

theorem isAddressChar_of_isBlank (h : Text.isBlank c = true) : isAddressChar c = false := by
  simp [isAddressChar, h]

theorem hasInnerPoint_append (hfront : front ≠ []) (hback : back ≠ []) :
    hasInnerPoint (front ++ '.' :: back) = true := by
  obtain ⟨c, front, rfl⟩ := List.exists_cons_of_ne_nil hfront
  rw [hasInnerPoint, List.cons_append, List.drop_succ_cons, List.drop_zero,
    List.dropLast_append_of_ne_nil (List.cons_ne_nil _ _), List.dropLast_cons_of_ne_nil hback]
  simp

/-! ### The address at a place -/

theorem emailAt?_append (huser : ∀ c ∈ user, isAddressChar c = true)
    (hdomain : ∀ c ∈ domain, isAddressChar c = true) (hne : user ≠ [])
    (hinner : hasInnerPoint domain = true)
    (hafter : ∀ c ∈ after.head?, Text.isBlank c = true) :
    emailAt? (user ++ '@' :: (domain ++ after)) = some (user ++ '@' :: domain) := by
  have htake : (user ++ '@' :: (domain ++ after)).takeWhile isAddressChar = user := by
    rw [List.takeWhile_append_of_pos huser, List.takeWhile_cons_of_neg (by decide),
      List.append_nil]
  have hstop : after.takeWhile isAddressChar = [] := by
    cases after with
    | nil => rfl
    | cons b after =>
        rw [List.takeWhile_cons_of_neg (by simp [isAddressChar_of_isBlank (hafter b rfl)])]
  have hrest : (domain ++ after).takeWhile isAddressChar = domain := by
    rw [List.takeWhile_append_of_pos hdomain, hstop, List.append_nil]
  unfold emailAt?
  simp only [htake, List.drop_left, hrest]
  rw [if_pos ⟨hne, hinner⟩]

theorem emailAt?_blank (hrun : ∀ c ∈ cs, isAddressChar c = true) (hb : Text.isBlank b = true)
    (rest : List Char) : emailAt? (cs ++ b :: rest) = none := by
  have htake : (cs ++ b :: rest).takeWhile isAddressChar = cs := by
    rw [List.takeWhile_append_of_pos hrun,
      List.takeWhile_cons_of_neg (by simp [isAddressChar_of_isBlank hb]), List.append_nil]
  have hsign : b ≠ '@' := by
    rintro rfl
    exact absurd hb (by decide)
  unfold emailAt?
  simp only [htake, List.drop_left]
  split
  · rename_i heq
    exact absurd (List.cons.inj heq).1 hsign
  · rfl

theorem emailAt?_eq_none (h : '@' ∉ cs) : emailAt? cs = none := by
  unfold emailAt?
  dsimp only
  split
  · rename_i rest heq
    exact absurd (List.mem_of_mem_drop (heq ▸ List.mem_cons_self)) h
  · rfl

/-! ### The first address -/

theorem email?_eq_none (h : '@' ∉ cs) : email? cs = none := by
  induction cs with
  | nil => rfl
  | cons c cs ih =>
      rw [email?, emailAt?_eq_none h, ih fun hmem => h (List.mem_cons_of_mem c hmem)]
      rfl

theorem exists_blank (hne : cs ≠ []) (hlast : ∀ c ∈ cs.getLast?, Text.isBlank c = true)
    (hsign : '@' ∉ cs) : ∃ run b rest, cs = run ++ b :: rest ∧
      (∀ c ∈ run, isAddressChar c = true) ∧ Text.isBlank b = true := by
  induction cs with
  | nil => exact absurd rfl hne
  | cons c cs ih =>
      obtain ⟨hc, hcs⟩ := not_or.mp (List.mem_cons.not.mp hsign)
      by_cases hblank : Text.isBlank c = true
      · exact ⟨[], c, cs, rfl, by simp, hblank⟩
      · have hne' : cs ≠ [] := by
          rintro rfl
          exact hblank (hlast c rfl)
        have hlast' : ∀ d ∈ cs.getLast?, Text.isBlank d = true := fun d hd =>
          hlast d (by rw [List.getLast?_cons_of_ne_nil hne']; exact hd)
        obtain ⟨run, b, rest, rfl, hrun, hb⟩ := ih hne' hlast' hcs
        refine ⟨c :: run, b, rest, rfl, fun d hd => ?_, hb⟩
        rcases List.mem_cons.mp hd with rfl | hd
        · simp [isAddressChar, hblank, Ne.symm hc]
        · exact hrun d hd

theorem email?_append (hsign : '@' ∉ before)
    (hlast : ∀ c ∈ before.getLast?, Text.isBlank c = true) (rest : List Char) :
    email? (before ++ rest) = email? rest := by
  induction before with
  | nil => rfl
  | cons c cs ih =>
      obtain ⟨run, b, behind, hsplit, hrun, hb⟩ := exists_blank (List.cons_ne_nil c cs) hlast hsign
      have hnone : emailAt? (c :: cs ++ rest) = none := by
        rw [hsplit, List.append_assoc, List.cons_append]
        exact emailAt?_blank hrun hb _
      have hlast' : ∀ d ∈ cs.getLast?, Text.isBlank d = true := by
        intro d hd
        refine hlast d ?_
        rw [List.getLast?_cons_of_ne_nil (List.ne_nil_of_mem (List.mem_of_mem_getLast? hd))]
        exact hd
      have hskip := ih (fun hmem => hsign (List.mem_cons_of_mem c hmem)) hlast'
      rw [List.cons_append] at hnone ⊢
      rw [email?, hnone, hskip]
      rfl

theorem email?_stretch (hsign : '@' ∉ before)
    (hlast : ∀ c ∈ before.getLast?, Text.isBlank c = true)
    (huser : ∀ c ∈ user, isAddressChar c = true)
    (hdomain : ∀ c ∈ domain, isAddressChar c = true) (hne : user ≠ [])
    (hinner : hasInnerPoint domain = true)
    (hafter : ∀ c ∈ after.head?, Text.isBlank c = true) :
    email? (before ++ (user ++ '@' :: domain ++ after)) = some (user ++ '@' :: domain) := by
  have hat := emailAt?_append huser hdomain hne hinner hafter
  rw [email?_append hsign hlast, List.append_assoc, List.cons_append]
  obtain ⟨c, user, rfl⟩ := List.exists_cons_of_ne_nil hne
  rw [List.cons_append] at hat ⊢
  rw [email?, hat]
  rfl

/-! ### Answers -/

theorem tight_stretch (huser : ∀ c ∈ user, isAddressChar c = true)
    (hdomain : ∀ c ∈ domain, isAddressChar c = true) : Text.Tight (user ++ '@' :: domain) := by
  have hall : ∀ c ∈ user ++ '@' :: domain, Text.isBlank c = false := by
    intro c hc
    rcases List.mem_append.mp hc with hc | hc
    · exact isBlank_of_isAddressChar (huser c hc)
    · rcases List.mem_cons.mp hc with rfl | hc
      · decide
      · exact isBlank_of_isAddressChar (hdomain c hc)
  exact ⟨fun c hc => hall c (List.mem_of_mem_head? hc),
    fun c hc => hall c (List.mem_of_mem_getLast? hc)⟩

/-- Between texts without the sign the stretch around an address is captured. -/
theorem coerce_stretch (hsign : '@' ∉ before)
    (hlast : ∀ c ∈ before.getLast?, Text.isBlank c = true)
    (huser : ∀ c ∈ user, isAddressChar c = true)
    (hdomain : ∀ c ∈ domain, isAddressChar c = true) (hne : user ≠ [])
    (hinner : hasInnerPoint domain = true)
    (hafter : ∀ c ∈ after.head?, Text.isBlank c = true) :
    coerce (String.ofList (before ++ (user ++ '@' :: domain) ++ after)) .email =
      .str (String.ofList (user ++ '@' :: domain)) := by
  have htrim := Text.trimChars_append (tight_stretch huser hdomain) (by simp) before after
  have hsign' : '@' ∉ before.dropWhile Text.isBlank := fun hmem =>
    hsign ((List.dropWhile_sublist _).mem hmem)
  have hlast' : ∀ c ∈ (before.dropWhile Text.isBlank).getLast?, Text.isBlank c = true := by
    intro c hc
    obtain ⟨front, hfront⟩ := List.dropWhile_suffix Text.isBlank (l := before)
    refine hlast c ?_
    have hne := List.ne_nil_of_mem (List.mem_of_mem_getLast? hc)
    rw [← hfront, List.getLast?_append_of_ne_nil _ hne]
    exact hc
  have hafter' : ∀ c ∈ (after.rdropWhile Text.isBlank).head?, Text.isBlank c = true := by
    intro c hc
    obtain ⟨back, hback⟩ := List.rdropWhile_prefix Text.isBlank after
    refine hafter c ?_
    have hne := List.ne_nil_of_mem (List.mem_of_mem_head? hc)
    rw [← hback, List.head?_append_of_ne_nil _ hne]
    exact hc
  have hfirst := email?_stretch hsign' hlast' huser hdomain hne hinner hafter'
  rw [coerce, Text.trim, String.toList_ofList, String.toList_ofList, List.append_assoc, htrim,
    hfirst]
  rfl

theorem coerce_without_sign {answer : String} (h : '@' ∉ answer.toList) :
    coerce answer .email = .str answer := by
  have hnone : email? (Text.trim answer).toList = none := by
    rw [Text.trim, String.toList_ofList]
    exact email?_eq_none fun hmem => h ((Text.trimChars_infix _).subset hmem)
  rw [coerce, hnone]
  rfl

namespace Address

theorem user_ne_nil (a : Address) : a.user ≠ [] := by
  obtain ⟨c, hc, -⟩ := a.first
  exact List.ne_nil_of_mem (List.mem_of_mem_head? hc)

theorem hasInnerPoint_domain (a : Address) (marks : List Char) :
    hasInnerPoint (a.domain ++ marks) = true := by
  obtain ⟨front, back, hdomain, hfront, hback⟩ := a.inner
  rw [hdomain, List.append_assoc, List.cons_append]
  exact hasInnerPoint_append hfront (by simp [hback])

end Address

theorem isAddressChar_of_mem_toList (h : ∀ c ∈ opening, c ∈ sentenceMarks) :
    ∀ c ∈ opening.toList, isAddressChar c = true := fun c hc =>
  isAddressChar_of_mem_sentenceMarks c (h c (Option.mem_toList.mp hc))

theorem Surrounds.captured (h : Surrounds before opening closing after) (a : Address) :
    coerce (String.ofList (before ++ (opening.toList ++ a.chars ++ closing.toList) ++ after))
      .email = .str (String.ofList (opening.toList ++ a.chars ++ closing.toList)) := by
  have hmarked : opening.toList ++ a.chars ++ closing.toList =
      (opening.toList ++ a.user) ++ '@' :: (a.domain ++ closing.toList) := by
    simp [Address.chars]
  rw [hmarked]
  refine coerce_stretch h.before_sign h.before_last (fun c hc => ?_) (fun c hc => ?_)
    (by simp [a.user_ne_nil]) (a.hasInnerPoint_domain _) h.after_head
  · rcases List.mem_append.mp hc with hc | hc
    · exact isAddressChar_of_mem_toList h.opening_mark c hc
    · exact isAddressChar_of_isNameChar (a.user_chars c hc)
  · rcases List.mem_append.mp hc with hc | hc
    · exact isAddressChar_of_isNameChar (a.domain_chars c hc)
    · exact isAddressChar_of_mem_toList h.closing_mark c hc

theorem marked_eq_iff (cs : List Char) :
    Json.str (String.ofList (opening.toList ++ cs ++ closing.toList)) =
      .str (String.ofList cs) ↔ opening = none ∧ closing = none := by
  constructor
  · intro heq
    have hlength := congrArg List.length (String.ofList_injective (Json.str.inj heq))
    cases opening <;> cases closing <;> simp at hlength ⊢
    omega
  · rintro ⟨rfl, rfl⟩
    simp

/-- Of the only address in an answer, beside blanks or marks of a sentence, the answer's value is
the address with the marks that touch it; so it is the address just where none does. An answer
without the sign is its own value. -/
theorem coerce_email (a : Address) (plain : String) :
    (∀ before after opening closing, Surrounds before opening closing after →
      let marked := opening.toList ++ a.chars ++ closing.toList
      let answer := String.ofList (before ++ marked ++ after)
      coerce answer .email = .str (String.ofList marked) ∧
        (coerce answer .email = .str (String.ofList a.chars) ↔ opening = none ∧ closing = none)) ∧
    ('@' ∉ plain.toList → coerce plain .email = .str plain) := by
  refine ⟨fun before after opening closing h => ?_, coerce_without_sign⟩
  have hread := h.captured a
  exact ⟨hread, hread ▸ marked_eq_iff a.chars⟩

def ana : Address where
  user := "ana".toList
  domain := "example.com".toList
  user_chars := List.all_eq_true.mp (by decide)
  domain_chars := List.all_eq_true.mp (by decide)
  inner := ⟨"example".toList, "com".toList, by decide⟩
  first := ⟨'a', rfl, by decide⟩
  last := ⟨'m', rfl, by decide⟩

theorem ana_captured : Surrounds "meu email é ".toList none none " ok".toList ∧
    coerce "meu email é ana@example.com ok" .email = .str "ana@example.com" := by
  have hplace : Surrounds "meu email é ".toList none none " ok".toList := by decide
  have hread := ((coerce_email ana "").1 _ _ _ _ hplace).2.mpr ⟨rfl, rfl⟩
  exact ⟨hplace, hread⟩

/-- The point that ends a sentence is captured with the address. -/
theorem stop_captured : ¬ ∀ (a : Address) (before after : List Char)
    (opening closing : Option Char), Surrounds before opening closing after →
      coerce (String.ofList (before ++ (opening.toList ++ a.chars ++ closing.toList) ++ after))
        .email = .str (String.ofList a.chars) := by
  intro hall
  have hplace : Surrounds "meu email é ".toList none (some '.') [] := by decide
  have hread := hall ana _ _ _ _ hplace
  have hcaptured : coerce "meu email é ana@example.com." .email = .str "ana@example.com." := by
    decide
  exact absurd (hcaptured.symm.trans hread) (by decide)

end Dialogue.Answer
