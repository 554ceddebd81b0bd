import Dialogue.Answer
import Dialogue.Proofs.Number.Nearest
import Mathlib.Data.List.TakeWhile

/-!
# Written amounts

An amount is written as its whole part, with or without points between its thousands, and two
digits of cents behind a comma. It is read as the double nearest to it, with or without the points
(`Amount.leading?_chars`, `Amount.nearest_number`).
-/
namespace Dialogue.Answer
open Number

/-- Digits with a point between the thousands: behind each digit that a positive multiple of three
others follow. -/
def grouped : List Char → List Char
  | [] => []
  | c :: cs =>
    if cs.length % 3 = 0 ∧ cs ≠ [] then c :: '.' :: grouped cs else c :: grouped cs

structure Amount where
  whole : Nat
  cents : Option (Fin 100)

namespace Amount

def centDigits (c : Fin 100) : List Char :=
  [Nat.digitChar (c / 10), Nat.digitChar (c % 10)]

def fraction (a : Amount) : List Char :=
  match a.cents with
  | none => []
  | some c => ',' :: centDigits c

def chars (a : Amount) (points : Bool) : List Char :=
  (if points then grouped (Nat.toDigits 10 a.whole) else Nat.toDigits 10 a.whole) ++ a.fraction

/-- The amount in writing, with or without points. -/
def text (a : Amount) (points : Bool) : String := String.ofList (a.chars points)

def value (a : Amount) : ℚ :=
  match a.cents with
  | none => a.whole
  | some c => a.whole + c / 100

/-- What an amount is read as. -/
def number (a : Amount) : Binary64 :=
  match a.cents with
  | none => .ofDecimal false a.whole 0
  | some c => .ofDecimal false (100 * a.whole + c) (-2)

end Amount

variable {cs ds fs front back : List Char} {c : Char} {a : Amount} {points : Bool}

/-! ### Digits -/

theorem toNat_of_isDigit (h : c.isDigit = true) : 48 ≤ c.toNat ∧ c.toNat ≤ 57 := by
  simpa [Char.isDigit, UInt32.le_iff_toNat_le] using h

theorem digitValue?_of_isDigit (h : c.isDigit = true) :
    Text.digitValue? c = some (c.toNat - '0'.toNat) := by
  obtain ⟨hlow, hhigh⟩ := toNat_of_isDigit h
  have hzero : Text.digitZeros.find? (fun z => z ≤ c.toNat && c.toNat < z + 10) = some 0x30 := by
    refine List.find?_cons_of_pos ?_
    simp only [Bool.and_eq_true, decide_eq_true_eq]
    omega
  rw [Text.digitValue?, hzero]
  rfl

theorem isDigit_of_isDigit (h : c.isDigit = true) : Text.isDigit c = true := by
  rw [Text.isDigit, digitValue?_of_isDigit h]
  rfl

theorem natOfAnyDigits_eq (h : ∀ c ∈ cs, c.isDigit = true) :
    natOfAnyDigits cs = Nat.ofDigitChars 10 cs 0 := by
  refine List.foldl_ext _ _ _ fun n c hc => ?_
  rw [digitValue?_of_isDigit (h c hc)]
  rfl

theorem isDigit_of_mem_toDigits {n : Nat} (h : c ∈ Nat.toDigits 10 n) : c.isDigit = true :=
  Nat.isDigit_of_mem_toDigits (by decide) (by decide) h

theorem isDigit_of_mem_centDigits {k : Fin 100} (h : c ∈ Amount.centDigits k) :
    c.isDigit = true := by
  have hall : ∀ k : Fin 100, (Amount.centDigits k).all Char.isDigit = true := by decide +kernel
  exact List.all_eq_true.mp (hall k) c h

theorem natOfAnyDigits_toDigits (n : Nat) : natOfAnyDigits (Nat.toDigits 10 n) = n := by
  rw [natOfAnyDigits_eq fun c hc => isDigit_of_mem_toDigits hc, Nat.ofDigitChars_ten_toDigits]

theorem natOfAnyDigits_cents (n : Nat) (k : Fin 100) :
    natOfAnyDigits (Nat.toDigits 10 n ++ Amount.centDigits k) = 100 * n + k := by
  have hcents : ∀ k : Fin 100,
      (Text.digitValue? (Nat.digitChar (k / 10))).getD 0 = k / 10 ∧
      (Text.digitValue? (Nat.digitChar (k % 10))).getD 0 = k % 10 := by decide +kernel
  obtain ⟨htens, hones⟩ := hcents k
  have hwhole := natOfAnyDigits_toDigits n
  rw [natOfAnyDigits] at hwhole ⊢
  rw [List.foldl_append, hwhole, Amount.centDigits, List.foldl_cons, List.foldl_cons,
    List.foldl_nil, htens, hones]
  omega

/-! ### Points between thousands -/

theorem filter_digits (h : ∀ c ∈ ds, c.isDigit = true) : ds.filter (· ≠ '.') = ds := by
  refine List.filter_eq_self.mpr fun c hc => decide_eq_true ?_
  rintro rfl
  exact absurd (h _ hc) (by decide)

theorem filter_grouped (h : '.' ∉ ds) : (grouped ds).filter (· ≠ '.') = ds := by
  induction ds with
  | nil => rfl
  | cons c cs ih =>
      obtain ⟨hc, hcs⟩ := not_or.mp (List.mem_cons.not.mp h)
      rw [grouped]
      split <;> simpa [Ne.symm hc] using ih hcs

theorem count_grouped (h : '.' ∉ ds) : (grouped ds).count '.' = (ds.length - 1) / 3 := by
  induction ds with
  | nil => rfl
  | cons c cs ih =>
      obtain ⟨hc, hcs⟩ := not_or.mp (List.mem_cons.not.mp h)
      rw [grouped, List.length_cons]
      split
      · rename_i hpoint
        have hpos := List.length_pos_iff.mpr hpoint.2
        rw [List.count_cons_of_ne (Ne.symm hc), List.count_cons_self, ih hcs]
        omega
      · rename_i hpoint
        rw [List.count_cons_of_ne (Ne.symm hc), ih hcs]
        rcases cs with _ | ⟨d, cs⟩
        · rfl
        · simp only [ne_eq, reduceCtorEq, not_false_eq_true, and_true, List.length_cons] at hpoint
          simp only [List.length_cons]
          omega

theorem mem_grouped (h : c ∈ grouped ds) : c ∈ ds ∨ c = '.' := by
  induction ds with
  | nil => cases h
  | cons d ds ih =>
      rw [grouped] at h
      split at h <;> grind

theorem grouped_append (hfront : front ≠ []) (hback : back ≠ []) (hthrees : back.length % 3 = 0) :
    grouped (front ++ back) = grouped front ++ '.' :: grouped back := by
  induction front with
  | nil => exact absurd rfl hfront
  | cons c cs ih =>
      rcases cs with _ | ⟨d, cs⟩
      · rw [List.singleton_append, grouped, if_pos ⟨hthrees, hback⟩]
        rfl
      · rw [List.cons_append, grouped, grouped, ih (List.cons_ne_nil d cs)]
        have hsame : (d :: cs ++ back).length % 3 = 0 ∧ d :: cs ++ back ≠ [] ↔
            (d :: cs).length % 3 = 0 ∧ d :: cs ≠ [] := by
          rw [List.length_append]
          simp only [ne_eq, List.append_eq_nil_iff, reduceCtorEq, false_and, not_false_eq_true,
            and_true]
          omega
        simp only [hsame]
        split <;> rfl

theorem grouped_short (h : ds.length ≤ 3) : grouped ds = ds := by
  induction ds with
  | nil => rfl
  | cons c cs ih =>
      rw [List.length_cons] at h
      rw [grouped, ih (by omega), if_neg]
      rintro ⟨hthrees, hne⟩
      have hpos := List.length_pos_iff.mpr hne
      omega

/-! ### Separators -/

theorem commaToPoint_append (h : ',' ∉ ds) (rest : List Char) :
    commaToPoint (ds ++ ',' :: rest) = ds ++ '.' :: rest := by
  induction ds with
  | nil => rfl
  | cons c cs ih =>
      obtain ⟨hc, hcs⟩ := not_or.mp (List.mem_cons.not.mp h)
      rw [List.cons_append, commaToPoint, if_neg (Ne.symm hc), ih hcs]
      rfl

theorem mem_commaToPoint (h : c ∈ commaToPoint cs) : c ∈ cs ∨ c = '.' := by
  induction cs with
  | nil => cases h
  | cons d cs ih =>
      rw [commaToPoint] at h
      split at h <;> grind

theorem isThousands_append (hfront : ∀ c ∈ front, Text.isDigit c = true)
    (hback : ∀ c ∈ back, Text.isDigit c = true) (hne : front ≠ []) (hshort : front.length ≤ 3)
    (hthree : back.length = 3) : isThousands (front ++ '.' :: back) = true := by
  have hwhole : (front ++ '.' :: back).takeWhile Text.isDigit = front := by
    rw [List.takeWhile_append_of_pos hfront, List.takeWhile_cons_of_neg (by decide),
      List.append_nil]
  have hpos := List.length_pos_iff.mpr hne
  unfold isThousands
  simp only [hwhole, List.drop_left]
  simpa [hthree, hshort, Nat.succ_le_iff, hpos] using hback

/-- Four to six digits are one group of three with something in front. -/
theorem isThousands_grouped (h : ∀ c ∈ ds, c.isDigit = true) (hlong : 3 < ds.length)
    (hfew : ds.length ≤ 6) : isThousands (grouped ds) = true := by
  have hsplit := List.take_append_drop (ds.length - 3) ds
  have hfront : (ds.take (ds.length - 3)).length = ds.length - 3 := by
    rw [List.length_take]
    omega
  have hback : (ds.drop (ds.length - 3)).length = 3 := by
    rw [List.length_drop]
    omega
  generalize ds.take (ds.length - 3) = front at *
  generalize ds.drop (ds.length - 3) = back at *
  have hne : front ≠ [] := List.length_pos_iff.mp (by omega)
  have hne' : back ≠ [] := List.length_pos_iff.mp (by omega)
  rw [← hsplit, grouped_append hne hne' (by omega), grouped_short (by omega),
    grouped_short (by omega)]
  exact isThousands_append
    (fun c hc => isDigit_of_isDigit (h c (hsplit ▸ List.mem_append_left _ hc)))
    (fun c hc => isDigit_of_isDigit (h c (hsplit ▸ List.mem_append_right _ hc)))
    hne (by omega) hback

theorem normalAmount_grouped (h : ∀ c ∈ ds, c.isDigit = true) :
    normalAmount (grouped ds) = ds := by
  have hpoint : '.' ∉ ds := fun hmem => absurd (h _ hmem) (by decide)
  have hcomma : ',' ∉ grouped ds := fun hmem =>
    (mem_grouped hmem).elim (fun hmem => absurd (h _ hmem) (by decide)) (by decide)
  have hcontains : (grouped ds).contains ',' = false := by simpa using hcomma
  rw [normalAmount, hcontains, if_neg Bool.false_ne_true]
  split
  · exact filter_grouped hpoint
  · rename_i hkept
    rw [Bool.or_eq_true, decide_eq_true_eq, count_grouped hpoint, not_or] at hkept
    obtain ⟨hcount, hthousands⟩ := hkept
    exact grouped_short (not_lt.mp fun hlong =>
      hthousands (isThousands_grouped h hlong (by omega)))

theorem normalAmount_comma (hfilter : cs.filter (· ≠ '.') = ds) (hds : ∀ c ∈ ds, c.isDigit = true)
    (hfs : ∀ c ∈ fs, c.isDigit = true) : normalAmount (cs ++ ',' :: fs) = ds ++ '.' :: fs := by
  have hcontains : (cs ++ ',' :: fs).contains ',' = true := by simp
  have hcomma : ',' ∉ ds := fun hmem => absurd (hds _ hmem) (by decide)
  rw [normalAmount, if_pos hcontains, List.filter_append, hfilter,
    List.filter_cons_of_pos (by decide), filter_digits hfs, commaToPoint_append hcomma]

theorem normalAmount_digits (h : ∀ c ∈ ds, c.isDigit = true) : normalAmount ds = ds := by
  have hcomma : ',' ∉ ds := fun hmem => absurd (h _ hmem) (by decide)
  have hcontains : ds.contains ',' = false := by simpa using hcomma
  rw [normalAmount, hcontains, if_neg Bool.false_ne_true, filter_digits h, ite_self]

/-! ### The number at the start -/

theorem leading?_digits (h : ∀ c ∈ ds, c.isDigit = true) (hne : ds ≠ []) :
    leading? ds = some (.ofDecimal false (natOfAnyDigits ds) 0) := by
  have hdigits : ∀ c ∈ ds, Text.isDigit c = true := fun c hc => isDigit_of_isDigit (h c hc)
  have hwhole : ds.takeWhile Text.isDigit = ds := List.takeWhile_eq_self_iff.mpr hdigits
  have hrest : ds.dropWhile Text.isDigit = [] := List.dropWhile_eq_nil_iff.mpr hdigits
  unfold leading?
  simp [hwhole, hrest, hne]

theorem leading?_fraction (h : ∀ c ∈ ds, c.isDigit = true) (hne : ds ≠ [])
    (hfs : ∀ c ∈ fs, c.isDigit = true) : leading? (ds ++ '.' :: fs) =
      some (.ofDecimal false (natOfAnyDigits (ds ++ fs)) (-(fs.length : Int))) := by
  have hpoint : Text.isDigit '.' = false := by decide
  have hdigits : ∀ c ∈ ds, Text.isDigit c = true := fun c hc => isDigit_of_isDigit (h c hc)
  have hwhole : (ds ++ '.' :: fs).takeWhile Text.isDigit = ds := by
    rw [List.takeWhile_append_of_pos hdigits, List.takeWhile_cons_of_neg (by simp [hpoint]),
      List.append_nil]
  have hrest : (ds ++ '.' :: fs).dropWhile Text.isDigit = '.' :: fs := by
    rw [List.dropWhile_append_of_pos hdigits, List.dropWhile_cons_of_neg (by simp [hpoint])]
  have hfraction : fs.takeWhile Text.isDigit = fs :=
    List.takeWhile_eq_self_iff.mpr fun c hc => isDigit_of_isDigit (hfs c hc)
  unfold leading?
  simp [hwhole, hrest, hfraction, hne]

theorem leading?_eq_none (h : ∀ c ∈ cs, Text.isDigit c = false) : leading? cs = none := by
  have hnone : ∀ {ds : List Char}, (∀ c ∈ ds, Text.isDigit c = false) →
      ds.takeWhile Text.isDigit = [] := by
    intro ds hds
    cases ds with
    | nil => rfl
    | cons d ds => rw [List.takeWhile_cons_of_neg (by simp [hds d List.mem_cons_self])]
  have hrest : cs.dropWhile Text.isDigit = cs := by
    cases cs with
    | nil => rfl
    | cons c cs => rw [List.dropWhile_cons_of_neg (by simp [h c List.mem_cons_self])]
  unfold leading?
  rw [hnone h, hrest]
  split
  · rename_i rest
    rw [hnone fun c hc => h c (List.mem_cons_of_mem _ hc)]
    rfl
  · rfl

namespace Amount

theorem normalAmount_chars (a : Amount) (points : Bool) :
    normalAmount (a.chars points) = match a.cents with
      | none => Nat.toDigits 10 a.whole
      | some c => Nat.toDigits 10 a.whole ++ '.' :: centDigits c := by
  have hdigits : ∀ c ∈ Nat.toDigits 10 a.whole, c.isDigit = true :=
    fun c hc => isDigit_of_mem_toDigits hc
  have hpoint : '.' ∉ Nat.toDigits 10 a.whole := fun hmem => absurd (hdigits _ hmem) (by decide)
  have hfilter : (if points then grouped (Nat.toDigits 10 a.whole)
      else Nat.toDigits 10 a.whole).filter (· ≠ '.') = Nat.toDigits 10 a.whole := by
    cases points with
    | false => exact filter_digits hdigits
    | true => exact filter_grouped hpoint
  unfold chars fraction
  cases a.cents with
  | some c =>
      exact normalAmount_comma hfilter hdigits fun c hc => isDigit_of_mem_centDigits hc
  | none =>
      rw [List.append_nil]
      cases points with
      | false => exact normalAmount_digits hdigits
      | true => exact normalAmount_grouped hdigits

theorem leading?_chars (a : Amount) (points : Bool) :
    leading? (normalAmount (a.chars points)) = some a.number := by
  have hdigits : ∀ c ∈ Nat.toDigits 10 a.whole, c.isDigit = true :=
    fun c hc => isDigit_of_mem_toDigits hc
  rw [normalAmount_chars, number]
  cases a.cents with
  | none =>
      dsimp only
      rw [leading?_digits hdigits Nat.toDigits_ne_nil, natOfAnyDigits_toDigits]
  | some c =>
      dsimp only
      rw [leading?_fraction hdigits Nat.toDigits_ne_nil fun c hc => isDigit_of_mem_centDigits hc,
        natOfAnyDigits_cents]
      rfl

theorem nearest_number (a : Amount) : Binary64.Nearest a.value a.number := by
  rw [value, number]
  cases a.cents with
  | none => simpa using Binary64.ofDecimal_nearest a.whole 0
  | some c =>
      have hvalue : (a.whole + (c : Nat) / 100 : ℚ) =
          ((100 * a.whole + c : Nat) : ℚ) * 10 ^ (-2 : Int) := by
        push_cast
        ring
      dsimp only
      rw [hvalue]
      exact Binary64.ofDecimal_nearest _ _

theorem mem_chars (h : c ∈ a.chars points) : c.isDigit = true ∨ c = '.' ∨ c = ',' := by
  rcases List.mem_append.mp h with hwhole | hfraction
  · split at hwhole
    · exact (mem_grouped hwhole).imp isDigit_of_mem_toDigits .inl
    · exact .inl (isDigit_of_mem_toDigits hwhole)
  · unfold fraction at hfraction
    split at hfraction
    · cases hfraction
    · rcases List.mem_cons.mp hfraction with rfl | hcents
      · exact .inr (.inr rfl)
      · exact .inl (isDigit_of_mem_centDigits hcents)

theorem chars_ne_nil (a : Amount) (points : Bool) : a.chars points ≠ [] := by
  intro hnil
  have hleading := a.leading?_chars points
  rw [hnil] at hleading
  exact absurd hleading (by simp [normalAmount, leading?, isThousands])

end Amount

end Dialogue.Answer
