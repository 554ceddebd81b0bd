import Dialogue.Proofs.Answer.Amount
import Dialogue.Proofs.Text.LowerCase

/-!
# Amounts in answers

An answer keeps of its words only whether they say thousands or millions. So an amount among words
is read as the double nearest to it, times what the word behind it says (`coerce_currency`).
-/
namespace Dialogue.Answer
open Number

/-- Words that say nothing of an amount's digits. -/
def Bare (s : String) : Prop := ∀ c ∈ s.toList, Text.isDigit c = false ∧ c ≠ '.' ∧ c ≠ ','

instance (s : String) : Decidable (Bare s) :=
  decidable_of_iff (s.toList.all (fun c => !Text.isDigit c && c != '.' && c != ',') = true)
    (by simp [Bare, and_assoc])

variable {cs needle before after : List Char} {c d : Char} {a : Amount} {points : Bool}

/-! ### Words around an amount -/

theorem amountChars_append (cs ds : List Char) :
    amountChars (cs ++ ds) = amountChars cs ++ amountChars ds := List.filter_append _ _

theorem amountChars_bare {s : String} (h : Bare s) : amountChars s.toList = [] := by
  refine List.filter_eq_nil_iff.mpr fun c hc => ?_
  obtain ⟨hdigit, hpoint, hcomma⟩ := h c hc
  simp [hdigit, hpoint, hcomma]

theorem amountChars_chars (a : Amount) (points : Bool) :
    amountChars (a.chars points) = a.chars points := by
  refine List.filter_eq_self.mpr fun c hc => ?_
  rcases Amount.mem_chars hc with hdigit | rfl | rfl
  · simp [isDigit_of_isDigit hdigit]
  · simp
  · simp

theorem isBlank_of_isDigit (h : Text.isDigit c = true) : Text.isBlank c = false := by
  have hapart : ∀ z ∈ Text.digitZeros, ∀ b ∈ Text.blankRanges, z + 9 < b.1 ∨ b.2 < z := by
    decide +kernel
  rw [Text.isDigit, Text.digitValue?, Option.isSome_map, List.find?_isSome] at h
  obtain ⟨z, hz, hrange⟩ := h
  rw [Bool.and_eq_true, decide_eq_true_eq, decide_eq_true_eq] at hrange
  rw [Bool.eq_false_iff]
  intro hblank
  obtain ⟨b, hb, hlow, hhigh⟩ := (Text.Ranges.has_iff _ _).mp hblank
  rcases hapart z hz b hb with hbelow | habove <;> omega

theorem amountChars_dropWhile (cs : List Char) :
    amountChars (cs.dropWhile Text.isBlank) = amountChars cs := by
  induction cs with
  | nil => rfl
  | cons c cs ih =>
      rw [List.dropWhile_cons]
      split
      · rename_i hblank
        have hdigit : Text.isDigit c = false :=
          Bool.eq_false_iff.mpr fun hdigit => by simp [isBlank_of_isDigit hdigit] at hblank
        have hpoint : c ≠ '.' := by rintro rfl; exact absurd hblank (by decide)
        have hcomma : c ≠ ',' := by rintro rfl; exact absurd hblank (by decide)
        rw [ih, amountChars, amountChars, List.filter_cons_of_neg]
        simp [hdigit, hpoint, hcomma]
      · rfl

theorem amountChars_reverse (cs : List Char) :
    amountChars cs.reverse = (amountChars cs).reverse := List.filter_reverse

theorem amountChars_trimChars (cs : List Char) :
    amountChars (Text.trimChars cs) = amountChars cs := by
  rw [Text.trimChars, amountChars_reverse, amountChars_dropWhile, amountChars_reverse,
    amountChars_dropWhile, List.reverse_reverse]

/-! ### Words of magnitude -/

theorem infix_append_cons (h : needle <:+: before ++ d :: after) (hd : d ∉ needle) :
    needle <:+: before ∨ needle <:+: after := by
  obtain ⟨front, back, heq⟩ := h
  rcases List.append_eq_append_iff.mp heq with ⟨mid, rfl, -⟩ | ⟨mid, hleft, hright⟩
  · exact .inl ⟨front, mid, rfl⟩
  · rcases List.append_eq_append_iff.mp hleft with ⟨part, rfl, hneedle⟩ | ⟨part, rfl, rfl⟩
    · cases mid with
      | nil => exact .inl ⟨front, [], by simp [hneedle]⟩
      | cons e mid =>
          obtain ⟨rfl, -⟩ := List.cons.inj hright
          exact absurd (by simp [hneedle]) hd
    · cases part with
      | nil =>
          cases needle with
          | nil => exact .inl List.nil_infix
          | cons e needle =>
              obtain ⟨rfl, -⟩ := List.cons.inj hright
              exact absurd List.mem_cons_self hd
      | cons e part =>
          obtain ⟨-, rfl⟩ := List.cons.inj hright
          exact .inr ⟨part, back, by simp⟩

/-- What shares no character with a part between two others occurs in one of these. -/
theorem infix_append_apart {mid : List Char} (h : needle <:+: before ++ (mid ++ after))
    (hmid : ∀ c ∈ mid, c ∉ needle) (hne : mid ≠ []) :
    needle <:+: before ∨ needle <:+: after := by
  induction mid generalizing before with
  | nil => exact absurd rfl hne
  | cons d mid ih =>
      have hd := hmid d List.mem_cons_self
      rcases infix_append_cons h hd with hbefore | hrest
      · exact .inl hbefore
      · cases mid with
        | nil => exact .inr hrest
        | cons e mid =>
            have hrest' : needle <:+: [] ++ (e :: mid ++ after) := hrest
            rcases ih hrest' (fun c hc => hmid c (List.mem_cons_of_mem d hc))
              (List.cons_ne_nil e mid) with hnil | hafter
            · exact .inl (List.infix_nil.mp hnil ▸ List.nil_infix)
            · exact .inr hafter

theorem lowerChar_of_amountChar (h : c.isDigit = true ∨ c = '.' ∨ c = ',') :
    Text.lowerChar c = [c] := by
  have hsmall : c.toNat < 128 := by
    rcases h with hdigit | rfl | rfl
    · have hrange := toNat_of_isDigit hdigit
      omega
    · decide
    · decide
  exact Text.of_codes (P := fun c => c.isDigit = true ∨ c = '.' ∨ c = ',' → Text.lowerChar c = [c])
    (by decide +kernel) hsmall h

theorem lowerEach_chars (a : Amount) (points : Bool) :
    Text.lowerEach (a.chars points) = a.chars points :=
  Text.lowerEach_eq_self fun _ hc => lowerChar_of_amountChar (Amount.mem_chars hc)

/-- A word that occurs around an amount occurs in front of it or behind it. -/
theorem infix_around (hneedle : needle.all (fun c => decide ('a'.toNat ≤ c.toNat)) = true)
    (h : needle <:+: Text.lowerEach (before ++ (a.chars points ++ after))) :
    needle <:+: Text.lowerEach before ∨ needle <:+: Text.lowerEach after := by
  rw [Text.lowerEach_append, Text.lowerEach_append, lowerEach_chars] at h
  refine infix_append_apart h (fun c hc hmem => ?_) (a.chars_ne_nil points)
  have hletter : 97 ≤ c.toNat := of_decide_eq_true (List.all_eq_true.mp hneedle c hmem)
  rcases Amount.mem_chars hc with hdigit | rfl | rfl
  · have hrange := toNat_of_isDigit hdigit
    omega
  · exact absurd hletter (by decide)
  · exact absurd hletter (by decide)

theorem occurs_lower_trim (hneedle : 'σ' ∉ needle ∧ 'ς' ∉ needle) (answer : String) :
    Text.occurs needle (Text.lower (Text.trim answer)).toList = true ↔
      needle <:+: Text.lowerEach (Text.trimChars answer.toList) := by
  rw [Text.occurs_iff, Text.infix_lower hneedle, Text.trim, String.toList_ofList]

theorem infix_lowerEach_trim (h : needle <:+: Text.lowerEach (Text.trimChars cs)) :
    needle <:+: Text.lowerEach cs := h.trans (Text.lowerEach_infix (Text.trimChars_infix cs))

theorem infix_lowerEach_of_infix (htight : Text.Tight needle)
    (hsmall : Text.lowerEach needle = needle) (h : needle <:+: cs) :
    needle <:+: Text.lowerEach (Text.trimChars cs) := by
  have hpart := Text.lowerEach_infix ((Text.infix_trimChars htight).mpr h)
  rwa [hsmall] at hpart

section
variable {answer : String}

theorem magnitude_eq_one (h : ¬ "mil".toList <:+: Text.lowerEach answer.toList) :
    magnitude (Text.trim answer) = 1 := by
  have hmillion : ¬ "milh".toList <:+: Text.lowerEach (Text.trimChars answer.toList) :=
    fun hpart => h ((List.IsPrefix.isInfix ⟨['h'], rfl⟩).trans (infix_lowerEach_trim hpart))
  have hthousand : ¬ "mil".toList <:+: Text.lowerEach (Text.trimChars answer.toList) :=
    fun hpart => h (infix_lowerEach_trim hpart)
  unfold magnitude
  rw [if_neg ((occurs_lower_trim (by decide) answer).not.mpr hmillion),
    if_neg ((occurs_lower_trim (by decide) answer).not.mpr hthousand)]

theorem magnitude_eq_thousand (h : ¬ "milh".toList <:+: Text.lowerEach answer.toList)
    (hmil : "mil".toList <:+: answer.toList) : magnitude (Text.trim answer) = 1000 := by
  have hmillion : ¬ "milh".toList <:+: Text.lowerEach (Text.trimChars answer.toList) :=
    fun hpart => h (infix_lowerEach_trim hpart)
  have hthousand := infix_lowerEach_of_infix (by decide) (by decide) hmil
  unfold magnitude
  rw [if_neg ((occurs_lower_trim (by decide) answer).not.mpr hmillion),
    if_pos ((occurs_lower_trim (by decide) answer).mpr hthousand)]

theorem magnitude_eq_million (h : "milh".toList <:+: answer.toList) :
    magnitude (Text.trim answer) = 1000000 := by
  have hmillion := infix_lowerEach_of_infix (by decide) (by decide) h
  unfold magnitude
  rw [if_pos ((occurs_lower_trim (by decide) answer).mpr hmillion)]

end

/-! ### Reading an answer -/

section
variable {before after : String}

theorem toList_answer (a : Amount) (points : Bool) (before after : String) :
    (before ++ a.text points ++ after).toList =
      before.toList ++ (a.chars points ++ after.toList) := by
  simp [Amount.text]

theorem coerce_written (hbefore : Bare before) (hafter : Bare after) (a : Amount)
    (points : Bool) :
    let answer := before ++ a.text points ++ after
    let factor := magnitude (Text.trim answer)
    coerce answer .currency = .float (if factor = 1 then a.number else a.number.scale factor) := by
  intro answer factor
  have hchars : amountChars (Text.trim answer).toList = a.chars points := by
    rw [Text.trim, String.toList_ofList, amountChars_trimChars, toList_answer,
      amountChars_append, amountChars_append, amountChars_bare hbefore, amountChars_bare hafter,
      amountChars_chars, List.nil_append, List.append_nil]
  rw [coerce, readCurrency, hchars, a.leading?_chars points]

theorem coerce_amount (hbefore : Bare before) (hafter : Bare after) (a : Amount) (points : Bool)
    (hmil : ¬ "mil".toList <:+: (Text.lower (before ++ a.text points ++ after)).toList) :
    coerce (before ++ a.text points ++ after) .currency = .float a.number := by
  rw [Text.infix_lower (by decide)] at hmil
  have hread := coerce_written hbefore hafter a points
  dsimp only at hread
  rw [hread, magnitude_eq_one hmil, if_pos rfl]

theorem coerce_thousands (hbefore : Bare before)
    (hmil : ¬ "mil".toList <:+: (Text.lower before).toList) (a : Amount) (points : Bool) :
    coerce (before ++ a.text points ++ " mil") .currency = .float (a.number.scale 1000) := by
  rw [Text.infix_lower (by decide)] at hmil
  have hmillion : ¬ "milh".toList <:+:
      Text.lowerEach (before ++ a.text points ++ " mil").toList := by
    rw [toList_answer]
    intro hpart
    rcases infix_around (by decide) hpart with hin | hin
    · exact hmil ((List.IsPrefix.isInfix ⟨['h'], rfl⟩).trans hin)
    · exact absurd hin (by decide)
  have hthousand : "mil".toList <:+: (before ++ a.text points ++ " mil").toList := by
    rw [toList_answer]
    exact ⟨before.toList ++ (a.chars points ++ [' ']), [], by simp⟩
  have hread := coerce_written hbefore (by decide : Bare " mil") a points
  dsimp only at hread
  rw [hread, magnitude_eq_thousand hmillion hthousand, if_neg (by decide)]

theorem coerce_millions {word : String} (hword : word = " milhão" ∨ word = " milhões")
    (hbefore : Bare before) (a : Amount) (points : Bool) :
    coerce (before ++ a.text points ++ word) .currency = .float (a.number.scale 1000000) := by
  have hbare : Bare word := by rcases hword with rfl | rfl <;> decide
  have hstem : "milh".toList <:+: word.toList := by rcases hword with rfl | rfl <;> decide
  have hmillion : "milh".toList <:+: (before ++ a.text points ++ word).toList := by
    rw [toList_answer, ← List.append_assoc]
    exact hstem.trans (List.suffix_append _ _).isInfix
  have hread := coerce_written hbefore hbare a points
  dsimp only at hread
  rw [hread, magnitude_eq_million hmillion, if_neg (by decide)]

theorem mem_normalAmount (h : c ∈ normalAmount cs) : c ∈ cs ∨ c = '.' := by
  unfold normalAmount at h
  split at h
  · exact (mem_commaToPoint h).imp_left List.mem_of_mem_filter
  · split at h
    · exact .inl (List.mem_of_mem_filter h)
    · exact .inl h

theorem coerce_without_digits {answer : String}
    (h : ∀ c ∈ answer.toList, Text.isDigit c = false) :
    coerce answer .currency = .str (Text.trim answer) := by
  have hnone : leading? (normalAmount (amountChars (Text.trim answer).toList)) = none := by
    refine leading?_eq_none fun c hc => ?_
    rcases mem_normalAmount hc with hmem | rfl
    · rw [Text.trim, String.toList_ofList] at hmem
      exact h c ((Text.trimChars_infix _).subset (List.mem_of_mem_filter hmem))
    · decide
  rw [coerce, readCurrency, hnone]

/-- An amount among words without digits, points and commas is read as the double nearest to it
where the answer says nothing of thousands, as a thousand times that double before `mil` and as a
million times it before `milhão` and `milhões`. An answer without digits is read as its text. -/
theorem coerce_currency (a : Amount) (points : Bool) (answer : String) :
    (∀ before after, Bare before → Bare after →
      ¬ "mil".toList <:+: (Text.lower (before ++ a.text points ++ after)).toList →
      ∃ x, Binary64.Nearest a.value x ∧
        coerce (before ++ a.text points ++ after) .currency = .float x) ∧
    (∀ before, Bare before → ¬ "mil".toList <:+: (Text.lower before).toList →
      ∃ x y, Binary64.Nearest a.value x ∧ Binary64.IsProduct x 1000 y ∧
        coerce (before ++ a.text points ++ " mil") .currency = .float y) ∧
    (∀ before word, Bare before → word = " milhão" ∨ word = " milhões" →
      ∃ x y, Binary64.Nearest a.value x ∧ Binary64.IsProduct x 1000000 y ∧
        coerce (before ++ a.text points ++ word) .currency = .float y) ∧
    ((∀ c ∈ answer.toList, Text.isDigit c = false) →
      coerce answer .currency = .str (Text.trim answer)) := by
  have hnearest := a.nearest_number
  refine ⟨fun before after hbefore hafter hmil => ?_, fun before hbefore hmil => ?_,
    fun before word hbefore hword => ?_, coerce_without_digits⟩
  · exact ⟨a.number, hnearest, coerce_amount hbefore hafter a points hmil⟩
  · exact ⟨a.number, _, hnearest, hnearest.isProduct_scale 1000,
      coerce_thousands hbefore hmil a points⟩
  · exact ⟨a.number, _, hnearest, hnearest.isProduct_scale 1000000,
      coerce_millions hword hbefore a points⟩

theorem rent_read : Bare "R$ " ∧ Bare " por mês" ∧
    ¬ "mil".toList <:+: (Text.lower "R$ 1.200,50 por mês").toList ∧
    ∃ x, Binary64.Nearest (Amount.value ⟨1200, some 50⟩) x ∧
      coerce "R$ 1.200,50 por mês" .currency = .float x := by
  have hbefore : Bare "R$ " := by decide
  have hafter : Bare " por mês" := by decide
  have hmil : ¬ "mil".toList <:+: (Text.lower "R$ 1.200,50 por mês").toList := by decide
  have htext : "R$ " ++ Amount.text ⟨1200, some 50⟩ true ++ " por mês" = "R$ 1.200,50 por mês" := by
    decide
  have hread := (coerce_currency ⟨1200, some 50⟩ true "").1 "R$ " " por mês" hbefore hafter
  rw [htext] at hread
  exact ⟨hbefore, hafter, hmil, hread hmil⟩

end

end Dialogue.Answer
