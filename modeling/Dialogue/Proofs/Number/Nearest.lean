import Dialogue.Number.Binary64
import Mathlib.Algebra.Order.Field.Power
import Mathlib.Algebra.Order.Field.Rat
import Mathlib.Data.Nat.Log
import Mathlib.Tactic.FieldSimp
import Mathlib.Tactic.Linarith
import Mathlib.Tactic.NormNum
import Mathlib.Tactic.Positivity
import Mathlib.Tactic.Ring

/-!
# The nearest double

A quotient is rounded to the double nearest to it, to the one with the even significand where two
are equally near, and to infinity from the middle between the greatest double and the power of two
behind it on (`ofRatio_nearest`). There is one such double (`Nearest.unique`). So a decimal is read
as the double nearest to it, and a product is rounded once.
-/
namespace Dialogue.Number

/-! ### Rounding quotients -/

section
variable {num den : Nat}

theorem abs_roundDiv_sub (num : Nat) (hd : 0 < den) :
    |(roundDiv num den : ℚ) - num / den| ≤ 1 / 2 := by
  obtain ⟨hlow, hhigh⟩ := roundDiv_near num hd
  have hden : (0 : ℚ) < den := by exact_mod_cast hd
  have hlow' : (2 * num : ℚ) ≤ 2 * (roundDiv num den * den) + den := by exact_mod_cast hlow
  have hhigh' : (2 * (roundDiv num den * den) : ℚ) ≤ 2 * num + den := by exact_mod_cast hhigh
  have hquot : (num : ℚ) / den * den = num := div_mul_cancel₀ _ hden.ne'
  rw [abs_le]
  constructor <;> nlinarith

theorem roundDiv_even (hd : 0 < den) (h : |(roundDiv num den : ℚ) - num / den| = 1 / 2) :
    roundDiv num den % 2 = 0 := by
  have hden : (0 : ℚ) < den := by exact_mod_cast hd
  have hquot : (num : ℚ) / den * den = num := div_mul_cancel₀ _ hden.ne'
  have hfar : 2 * (roundDiv num den * den) = 2 * num + den ∨
      2 * num = 2 * (roundDiv num den * den) + den := by
    rcases abs_cases ((roundDiv num den : ℚ) - num / den) with ⟨habs, -⟩ | ⟨habs, -⟩
    · left
      have hrat : (2 * (roundDiv num den * den) : ℚ) = 2 * num + den := by nlinarith
      exact_mod_cast hrat
    · right
      have hrat : (2 * num : ℚ) = 2 * (roundDiv num den * den) + den := by nlinarith
      exact_mod_cast hrat
  apply roundDiv_tie
  have hdiv := Nat.div_add_mod num den
  have hmod := Nat.mod_lt num hd
  have hnext : (num / den + 1) * den = den * (num / den) + den := by
    rw [Nat.add_mul, Nat.one_mul, Nat.mul_comm]
  have hlast : num / den * den = den * (num / den) := Nat.mul_comm _ _
  unfold roundDiv at hfar
  dsimp only at hfar
  split at hfar
  · rw [hlast] at hfar
    omega
  · split at hfar
    · rw [hnext] at hfar
      omega
    · omega

end

namespace Binary64

/-- What a finite double consists of: 53 bits, the first of them set unless the exponent is the
least. -/
structure Canonical (m : Nat) (e : Int) : Prop where
  bits : m < 2 ^ 53
  least : leastExponent ≤ e
  greatest : e ≤ greatestExponent
  full : 2 ^ 52 ≤ m ∨ e = leastExponent

def IsDouble : Binary64 → Prop
  | finite _ m e => Canonical m e
  | _ => False

/-- The value of a finite number. -/
def toRat : Binary64 → ℚ
  | finite negative m e => (if negative then -1 else 1) * (m * 2 ^ e)
  | _ => 0

/-- The middle between the greatest double and the power of two behind it. -/
def overflow : ℚ := 2 ^ 1024 - 2 ^ 970

/-- What a number that is not negative is rounded to: the double nearest to it, the one with the
even significand of two that are equally near, and infinity from `overflow` on. -/
inductive Nearest (q : ℚ) : Binary64 → Prop
  | finite {m : Nat} {e : Int} (canonical : Canonical m e) (below : q < overflow)
      (nearest : ∀ y : Binary64, y.IsDouble → |m * 2 ^ e - q| ≤ |y.toRat - q|)
      (even : ∀ y : Binary64, y.IsDouble → y.toRat ≠ m * 2 ^ e →
        |y.toRat - q| = |m * 2 ^ e - q| → m % 2 = 0) : Nearest q (.finite false m e)
  | infinite (beyond : overflow ≤ q) : Nearest q (.infinite false)

/-- The product of a number that is not negative with an integer, rounded once. Infinity stays. -/
def IsProduct (x : Binary64) (k : Nat) : Binary64 → Prop :=
  match x with
  | finite .. => Nearest (x.toRat * k)
  | _ => (· = x)

/-- The exponent at which a number has the full bits of a significand, or the least one. -/
structure Binade (q : ℚ) (e : Int) : Prop where
  least : leastExponent ≤ e
  upper : q < 2 ^ 53 * 2 ^ e
  lower : 2 ^ 52 * 2 ^ e ≤ q ∨ e = leastExponent

/-- A multiple of a power of two is at most half a unit away from a number, and even if it is half
a unit away. -/
structure Rounded (q : ℚ) (e : Int) (r : Nat) : Prop where
  near : |r * 2 ^ e - q| ≤ 2 ^ e / 2
  even : |r * 2 ^ e - q| = 2 ^ e / 2 → r % 2 = 0

variable {q : ℚ} {k m n r num den : Nat} {e f : Int}

theorem two_zpow_pos (e : Int) : (0 : ℚ) < 2 ^ e := zpow_pos (by norm_num) e

theorem toRat_finite (m : Nat) (e : Int) : (finite false m e).toRat = m * 2 ^ e := by
  simp [toRat]

/-! ### Doubles around a number -/

theorem unit_le_abs_sub (h : k ≠ r) (e : Int) : (2 : ℚ) ^ e ≤ |(k : ℚ) * 2 ^ e - r * 2 ^ e| := by
  have hne : (k : ℤ) - r ≠ 0 := sub_ne_zero.mpr (by exact_mod_cast h)
  have hone : (1 : ℚ) ≤ |(k : ℚ) - r| := by exact_mod_cast Int.one_le_abs hne
  have hpos := two_zpow_pos e
  rw [← sub_mul, abs_mul, abs_of_pos hpos]
  nlinarith

theorem Rounded.nearest (h : Rounded q e r) (k : Nat) :
    |(r : ℚ) * 2 ^ e - q| ≤ |(k : ℚ) * 2 ^ e - q| := by
  by_cases hk : k = r
  · rw [hk]
  · have hfar := unit_le_abs_sub hk e
    have htri := abs_sub_le ((k : ℚ) * 2 ^ e) q (r * 2 ^ e)
    rw [abs_sub_comm q] at htri
    linarith [h.near]

theorem Rounded.even_of_eq (h : Rounded q e r) (hk : k ≠ r)
    (heq : |(k : ℚ) * 2 ^ e - q| = |(r : ℚ) * 2 ^ e - q|) : r % 2 = 0 := by
  have hfar := unit_le_abs_sub hk e
  have htri := abs_sub_le ((k : ℚ) * 2 ^ e) q (r * 2 ^ e)
  rw [abs_sub_comm q] at htri
  exact h.even (le_antisymm h.near (by linarith))

/-- A double is on the grid of the number, or below the part of the grid with full significands. -/
theorem Binade.cases (h : Binade q e) (hc : Canonical n f) :
    (∃ k : Nat, (n : ℚ) * 2 ^ f = k * 2 ^ e) ∨
      (n : ℚ) * 2 ^ f < 2 ^ 52 * 2 ^ e ∧ 2 ^ 52 * 2 ^ e ≤ q := by
  rcases le_or_gt e f with hle | hlt
  · left
    refine ⟨n * 2 ^ (f - e).toNat, ?_⟩
    have hpow : (2 : ℚ) ^ f = 2 ^ (f - e).toNat * 2 ^ e := by
      rw [← zpow_natCast, ← zpow_add₀ (by norm_num)]
      congr 1
      omega
    rw [hpow]
    push_cast
    ring
  · right
    have hleast := hc.least
    have hlower : 2 ^ 52 * 2 ^ e ≤ q := h.lower.resolve_right (by omega)
    refine ⟨?_, hlower⟩
    have hbits : (n : ℚ) < 2 ^ 53 := by exact_mod_cast hc.bits
    have hpow : (2 : ℚ) ^ 53 * 2 ^ f ≤ 2 ^ 52 * 2 ^ e := by
      rw [← zpow_natCast, ← zpow_natCast, ← zpow_add₀ (by norm_num), ← zpow_add₀ (by norm_num)]
      exact zpow_le_zpow_right₀ (by norm_num) (by push_cast; omega)
    calc (n : ℚ) * 2 ^ f < 2 ^ 53 * 2 ^ f := by gcongr
      _ ≤ 2 ^ 52 * 2 ^ e := hpow

/-- The point of the grid nearest to a number is nearer to it than the doubles off the grid. -/
theorem Binade.farther (h : Binade q e) (hr : Rounded q e r) (hc : Canonical n f) :
    (∃ k : Nat, (n : ℚ) * 2 ^ f = k * 2 ^ e) ∨ |(r : ℚ) * 2 ^ e - q| < |(n : ℚ) * 2 ^ f - q| := by
  rcases h.cases hc with hgrid | ⟨hbelow, hfull⟩
  · exact .inl hgrid
  · right
    have hpoint := hr.nearest (2 ^ 52)
    rw [Nat.cast_pow, Nat.cast_ofNat] at hpoint
    rw [abs_of_nonpos (by linarith : 2 ^ 52 * 2 ^ e - q ≤ 0)] at hpoint
    rw [abs_of_nonpos (by linarith : (n : ℚ) * 2 ^ f - q ≤ 0)]
    linarith

/-- Without its sign a double is no farther from a positive number, and as far only if it is the
same number. -/
theorem exists_magnitude {y : Binary64} (hy : y.IsDouble) (hq : 0 < q) :
    ∃ n f, Canonical n f ∧ |(n : ℚ) * 2 ^ f - q| ≤ |y.toRat - q| ∧
      (|y.toRat - q| ≤ |(n : ℚ) * 2 ^ f - q| → y.toRat = n * 2 ^ f) := by
  cases y with
  | nan => cases hy
  | infinite negative => cases hy
  | finite negative n f =>
      refine ⟨n, f, hy, ?_⟩
      cases negative with
      | false => simp [toRat_finite]
      | true =>
          have hsize : (0 : ℚ) ≤ n * 2 ^ f := by positivity
          have hvalue : (finite true n f).toRat = -(n * 2 ^ f) := by simp [toRat]
          rw [hvalue]
          generalize (n : ℚ) * 2 ^ f = v at *
          rw [abs_of_nonpos (by linarith : -v - q ≤ 0)]
          constructor
          · rw [abs_le]
            constructor <;> linarith
          · intro hfar
            rcases abs_cases (v - q) with ⟨habs, -⟩ | ⟨habs, -⟩ <;> linarith

/-- A double with the value of the nearest point of the grid, and an even significand where that
point is even, is nearest. -/
theorem Binade.nearest (h : Binade q e) (hr : Rounded q e r) (hq : 0 < q)
    (hbelow : q < overflow) (hc : Canonical m f) (hvalue : (m : ℚ) * 2 ^ f = r * 2 ^ e)
    (hparity : r % 2 = 0 → m % 2 = 0) : Nearest q (.finite false m f) := by
  refine .finite hc hbelow (fun y hy => ?_) (fun y hy hne heq => ?_)
  · obtain ⟨n, g, hn, hle, -⟩ := exists_magnitude hy hq
    rw [hvalue]
    rcases h.farther hr hn with ⟨k, hk⟩ | hfar
    · exact (hr.nearest k).trans (hk ▸ hle)
    · exact hfar.le.trans hle
  · obtain ⟨n, g, hn, hle, hsame⟩ := exists_magnitude hy hq
    rw [hvalue] at hne heq
    apply hparity
    rcases h.farther hr hn with ⟨k, hk⟩ | hfar
    · have hy' : y.toRat = k * 2 ^ e := by
        rw [← hk]
        exact hsame (by rw [heq, hk]; exact hr.nearest k)
      rw [hy'] at hne heq
      exact hr.even_of_eq (fun hkr => hne (by rw [hkr])) heq
    · exact absurd hfar (by rw [← heq]; exact not_lt.mpr hle)

/-! ### One nearest double -/

theorem Canonical.lt_of_lt (hm : Canonical m e) (hn : Canonical n f) (h : e < f) :
    (m : ℚ) * 2 ^ e < n * 2 ^ f := by
  have hleast := hm.least
  have hfull : (2 : ℚ) ^ 52 ≤ n := by exact_mod_cast hn.full.resolve_right (by omega)
  have hbits : (m : ℚ) < 2 ^ 53 := by exact_mod_cast hm.bits
  have hstep : (2 : ℚ) ^ e * 2 ≤ 2 ^ f := by
    rw [← zpow_add_one₀ (by norm_num)]
    exact zpow_le_zpow_right₀ (by norm_num) h
  have hpos := two_zpow_pos e
  nlinarith

theorem Canonical.unique (hm : Canonical m e) (hn : Canonical n f)
    (h : (m : ℚ) * 2 ^ e = n * 2 ^ f) : m = n ∧ e = f := by
  rcases lt_trichotomy e f with hlt | rfl | hgt
  · exact absurd h (hm.lt_of_lt hn hlt).ne
  · exact ⟨by exact_mod_cast mul_right_cancel₀ (two_zpow_pos e).ne' h, rfl⟩
  · exact absurd h.symm (hn.lt_of_lt hm hgt).ne

theorem Canonical.between (hm : Canonical m e) (hn : Canonical n f) (hme : m % 2 = 0)
    (hne : n % 2 = 0) (hlt : (m : ℚ) * 2 ^ e < n * 2 ^ f) :
    Canonical (m + 1) e ∧ ((m + 1 : Nat) : ℚ) * 2 ^ e < n * 2 ^ f := by
  have hbits := hm.bits
  have hnext : Canonical (m + 1) e :=
    ⟨by omega, hm.least, hm.greatest, hm.full.imp_left (by omega)⟩
  refine ⟨hnext, ?_⟩
  have hpos := two_zpow_pos e
  rcases lt_trichotomy e f with hef | rfl | hef
  · exact hnext.lt_of_lt hn hef
  · have hmn : m < n := by exact_mod_cast lt_of_mul_lt_mul_right hlt hpos.le
    have hnext' : ((m + 1 : Nat) : ℚ) < n := by
      have hnat : m + 1 < n := by omega
      exact_mod_cast hnat
    exact mul_lt_mul_of_pos_right hnext' hpos
  · exact absurd hlt (hn.lt_of_lt hm hef).not_gt

theorem abs_sub_lt_of_between {v w v' : ℚ} (hlow : v < w) (hhigh : w < v')
    (heq : |v' - q| = |v - q|) : |w - q| < |v - q| := by
  rcases abs_cases (v - q) with ⟨hv, hside⟩ | ⟨hv, hside⟩ <;>
    rcases abs_cases (v' - q) with ⟨hv', hside'⟩ | ⟨hv', hside'⟩ <;>
    rw [abs_lt] <;> constructor <;> linarith

theorem even_unique (hm : Canonical m e) (hn : Canonical n f) (hme : m % 2 = 0)
    (hne : n % 2 = 0) (heq : |(n : ℚ) * 2 ^ f - q| = |(m : ℚ) * 2 ^ e - q|)
    (hnear : ∀ y : Binary64, y.IsDouble → |(m : ℚ) * 2 ^ e - q| ≤ |y.toRat - q|) :
    ¬ (m : ℚ) * 2 ^ e < n * 2 ^ f := by
  intro hlt
  obtain ⟨hnext, hbehind⟩ := hm.between hn hme hne hlt
  have hahead : (m : ℚ) * 2 ^ e < ((m + 1 : Nat) : ℚ) * 2 ^ e := by
    have hpos := two_zpow_pos e
    push_cast
    linarith
  have hfar := hnear (finite false (m + 1) e) hnext
  rw [toRat_finite] at hfar
  exact absurd hfar (abs_sub_lt_of_between hahead hbehind heq).not_ge

theorem Nearest.unique {x y : Binary64} (hx : Nearest q x) (hy : Nearest q y) : x = y := by
  cases hx with
  | infinite hbeyond =>
      cases hy with
      | infinite => rfl
      | finite _ hbelow => exact absurd hbeyond hbelow.not_ge
  | @finite m e hm hbelow hnear heven =>
      cases hy with
      | infinite hbeyond => exact absurd hbeyond hbelow.not_ge
      | @finite n f hn _ hnear' heven' =>
          have hm' := toRat_finite m e
          have hn' := toRat_finite n f
          have hle := hn' ▸ hnear (.finite false n f) hn
          have hge := hm' ▸ hnear' (.finite false m e) hm
          have heq := le_antisymm hge hle
          by_cases hsame : (m : ℚ) * 2 ^ e = n * 2 ^ f
          · obtain ⟨rfl, rfl⟩ := hm.unique hn hsame
            rfl
          · have hme := heven (.finite false n f) hn (hn' ▸ Ne.symm hsame) (hn' ▸ heq)
            have hne := heven' (.finite false m e) hm (hm' ▸ hsame) (hm' ▸ heq.symm)
            rcases lt_or_gt_of_ne hsame with hlt | hlt
            · exact absurd hlt (even_unique hm hn hme hne heq hnear)
            · exact absurd hlt (even_unique hn hm hne hme heq.symm hnear')

/-! ### The exponent of a quotient -/

theorem cast_two_pow (k : Nat) : ((Nat.pow 2 k : Nat) : ℚ) = 2 ^ k := by
  rw [show Nat.pow 2 k = 2 ^ k from rfl, Nat.cast_pow, Nat.cast_ofNat]

theorem scaled_spec (num : Nat) (hd : 0 < den) (e : Int) : 0 < (scaled num den e).2 ∧
    ((scaled num den e).1 : ℚ) / (scaled num den e).2 * 2 ^ e = num / den := by
  have hden : (den : ℚ) ≠ 0 := by exact_mod_cast hd.ne'
  unfold scaled
  split
  · rename_i he
    obtain ⟨k, rfl⟩ := Int.eq_ofNat_of_zero_le he
    refine ⟨Nat.mul_pos hd (Nat.two_pow_pos k), ?_⟩
    rw [Int.toNat_natCast, Nat.cast_mul, cast_two_pow, zpow_natCast]
    field_simp
  · rename_i he
    obtain ⟨k, rfl⟩ := Int.exists_eq_neg_ofNat (by omega : e ≤ 0)
    refine ⟨hd, ?_⟩
    rw [neg_neg, Int.toNat_natCast, Nat.cast_mul, cast_two_pow, zpow_neg, zpow_natCast]
    field_simp

theorem binade_max {top : Int} (hupper : q < 2 ^ 53 * 2 ^ top) (hlower : 2 ^ 52 * 2 ^ top ≤ q) :
    Binade q (max leastExponent top) := by
  rcases le_or_gt leastExponent top with hle | hlt
  · rw [max_eq_right hle]
    exact ⟨hle, hupper, .inl hlower⟩
  · rw [max_eq_left hlt.le]
    refine ⟨le_rfl, hupper.trans_le ?_, .inr rfl⟩
    have hpow : (2 : ℚ) ^ top ≤ 2 ^ leastExponent := zpow_le_zpow_right₀ (by norm_num) hlt.le
    linarith

theorem two_pow_mul (k : Nat) (e : Int) : (2 : ℚ) ^ k * 2 ^ (e - k) = 2 ^ e := by
  rw [← zpow_natCast, ← zpow_add₀ (by norm_num)]
  congr 1
  omega

/-- The difference of the binary lengths is the exponent of a quotient, or one too large. -/
theorem div_log2_bounds (hn : 0 < num) (hd : 0 < den) :
    (2 : ℚ) ^ ((num.log2 : Int) - den.log2) < 2 * (num / den) ∧
      (num / den : ℚ) < 2 * 2 ^ ((num.log2 : Int) - den.log2) := by
  have hden : (0 : ℚ) < den := by exact_mod_cast hd
  have hnum_low : (2 : ℚ) ^ num.log2 ≤ num := by exact_mod_cast Nat.log2_self_le hn.ne'
  have hden_low : (2 : ℚ) ^ den.log2 ≤ den := by exact_mod_cast Nat.log2_self_le hd.ne'
  have hnum_high : (num : ℚ) < 2 ^ num.log2 * 2 := by
    rw [← pow_succ]
    exact_mod_cast Nat.lt_log2_self (n := num)
  have hden_high : (den : ℚ) < 2 ^ den.log2 * 2 := by
    rw [← pow_succ]
    exact_mod_cast Nat.lt_log2_self (n := den)
  have hguess : (2 : ℚ) ^ ((num.log2 : Int) - den.log2) * 2 ^ den.log2 = 2 ^ num.log2 := by
    rw [mul_comm, two_pow_mul, zpow_natCast]
  have hpos := two_zpow_pos ((num.log2 : Int) - den.log2)
  rw [← mul_div_assoc, lt_div_iff₀ hden, div_lt_iff₀ hden]
  constructor <;> nlinarith

theorem binade_exponentOf (hn : 0 < num) (hd : 0 < den) :
    Binade (num / den) (exponentOf num den) := by
  obtain ⟨hlow, hhigh⟩ := div_log2_bounds hn hd
  obtain ⟨hpos, hquot⟩ := scaled_spec num hd ((num.log2 : Int) - den.log2)
  have hunfold : exponentOf num den = max leastExponent
      (if (scaled num den ((num.log2 : Int) - den.log2)).1 <
          (scaled num den ((num.log2 : Int) - den.log2)).2
        then (num.log2 : Int) - den.log2 - 53 else (num.log2 : Int) - den.log2 - 52) := rfl
  rw [hunfold]
  generalize (num.log2 : Int) - den.log2 = guess at *
  generalize scaled num den guess = fraction at *
  obtain ⟨n, d⟩ := fraction
  have hd' : (0 : ℚ) < d := by exact_mod_cast hpos
  have hguess := two_zpow_pos guess
  have h53 : (2 : ℚ) ^ 53 * 2 ^ (guess - 53) = 2 ^ guess := two_pow_mul 53 guess
  have h52 : (2 : ℚ) ^ 52 * 2 ^ (guess - 52) = 2 ^ guess := two_pow_mul 52 guess
  apply binade_max <;> split
  · rename_i hlt
    have hless : (n : ℚ) / d < 1 := (div_lt_one hd').mpr (by exact_mod_cast hlt)
    rw [h53, ← hquot]
    nlinarith
  · linarith
  · linarith
  · rename_i hle
    have hmore : 1 ≤ (n : ℚ) / d := (one_le_div hd').mpr (by exact_mod_cast not_lt.mp hle)
    rw [h52, ← hquot]
    nlinarith

/-! ### Rounded quotients -/

theorem rounded_roundDiv (hd : 0 < den) (hq : (num : ℚ) / den * 2 ^ e = q) :
    Rounded q e (roundDiv num den) := by
  have hpos := two_zpow_pos e
  have hdist : |(roundDiv num den : ℚ) * 2 ^ e - q| =
      |(roundDiv num den : ℚ) - num / den| * 2 ^ e := by
    rw [← hq, ← sub_mul, abs_mul, abs_of_pos hpos]
  constructor
  · rw [hdist]
    nlinarith [abs_roundDiv_sub num hd]
  · intro hhalf
    rw [hdist] at hhalf
    exact roundDiv_even hd (mul_right_cancel₀ hpos.ne' (by rw [hhalf]; ring))

theorem Rounded.le (h : Rounded q e r) (hb : Binade q e) : r ≤ 2 ^ 53 := by
  have hnear := (abs_le.mp h.near).2
  have hupper := hb.upper
  have hpos := two_zpow_pos e
  have hrat : (r : ℚ) < 2 ^ 53 + 1 := by nlinarith
  have hnat : r < 2 ^ 53 + 1 := by exact_mod_cast hrat
  omega

theorem Rounded.full (h : Rounded q e r) (hb : Binade q e) : 2 ^ 52 ≤ r ∨ e = leastExponent := by
  rcases hb.lower with hlower | hleast
  · left
    have hnear := (abs_le.mp h.near).1
    have hpos := two_zpow_pos e
    have hrat : (2 : ℚ) ^ 52 < r + 1 := by nlinarith
    have hnat : 2 ^ 52 < r + 1 := by exact_mod_cast hrat
    omega
  · exact .inr hleast

theorem overflow_eq : overflow = (2 ^ 53 - 1 / 2) * 2 ^ greatestExponent := by
  have htop : (2 : ℚ) ^ 1024 = 2 ^ 54 * 2 ^ 970 := by rw [← pow_add]
  have hunit : (2 : ℚ) ^ 971 = 2 * 2 ^ 970 := by rw [← pow_succ']
  rw [overflow, show greatestExponent = ((971 : Nat) : Int) from rfl, zpow_natCast, htop, hunit]
  generalize (2 : ℚ) ^ 970 = half
  ring

private theorem two_zpow_mul_two_le {a b : Int} (h : a < b) : (2 : ℚ) ^ a * 2 ≤ 2 ^ b := by
  rw [← zpow_add_one₀ (by norm_num)]
  exact zpow_le_zpow_right₀ (by norm_num) h

theorem Binade.lt_overflow (hb : Binade q e) (h : e < greatestExponent) : q < overflow := by
  have hsmall := two_zpow_mul_two_le h
  have hpos := two_zpow_pos e
  have hupper := hb.upper
  rw [overflow_eq]
  nlinarith

theorem Binade.overflow_le (hb : Binade q e) (h : greatestExponent < e) : overflow ≤ q := by
  have hlarge := two_zpow_mul_two_le h
  have hpos := two_zpow_pos greatestExponent
  have hleast : leastExponent < e := by
    have hrange : leastExponent ≤ greatestExponent := by decide
    omega
  have hlower := hb.lower.resolve_right hleast.ne'
  rw [overflow_eq]
  nlinarith

/-- In the last binade the numbers beyond the doubles are those that are rounded up out of it. -/
theorem Rounded.overflow_le_iff_carry (h : Rounded q greatestExponent r)
    (hb : Binade q greatestExponent) : overflow ≤ q ↔ r = 2 ^ 53 := by
  have hunit := two_zpow_pos greatestExponent
  have hnear := abs_le.mp h.near
  rw [overflow_eq]
  constructor
  · intro hle
    by_contra hcarry
    have hr : (r : ℚ) ≤ 2 ^ 53 - 1 := by
      have hlt : r + 1 ≤ 2 ^ 53 := lt_of_le_of_ne (h.le hb) hcarry
      have hrat : (r : ℚ) + 1 ≤ 2 ^ 53 := by exact_mod_cast hlt
      linarith
    -- the number would be the middle itself, which goes to the even side
    have hlast : (r : ℚ) = 2 ^ 53 - 1 := by nlinarith
    have heven := h.even (by rw [hlast, abs_of_nonpos] <;> nlinarith)
    have hodd : r = 2 ^ 53 - 1 := by
      have hrat : (r : ℚ) + 1 = 2 ^ 53 := by rw [hlast]; ring
      have hnat : r + 1 = 2 ^ 53 := by exact_mod_cast hrat
      omega
    omega
  · intro hcarry
    have hr : (r : ℚ) = 2 ^ 53 := by exact_mod_cast hcarry
    rw [hr] at hnear
    linarith

/-- The exponent grows beyond the greatest one just where the number is beyond the doubles. -/
theorem overflow_le_iff (h : Rounded q e r) (hb : Binade q e) :
    overflow ≤ q ↔ greatestExponent < if r = 2 ^ 53 then e + 1 else e := by
  rcases lt_trichotomy e greatestExponent with hlt | heq | hgt
  · refine iff_of_false (not_le.mpr (hb.lt_overflow hlt)) ?_
    split <;> omega
  · subst heq
    rw [h.overflow_le_iff_carry hb]
    split <;> simp_all
  · refine iff_of_true (hb.overflow_le hgt) ?_
    split <;> omega

/-! ### Reading and multiplying -/

theorem ofRatio_eq (hn : num ≠ 0) (den : Nat) (negative : Bool) :
    let e := exponentOf num den
    let r := roundDiv (scaled num den e).1 (scaled num den e).2
    ofRatio negative num den = if greatestExponent < if r = 2 ^ 53 then e + 1 else e
      then .infinite negative
      else .finite negative (if r = 2 ^ 53 then 2 ^ 52 else r)
        (if r = 2 ^ 53 then e + 1 else e) := by
  intro e r
  unfold ofRatio
  rw [if_neg hn]
  by_cases hr : r = 2 ^ 53
  · have hcarry : roundDiv (scaled num den (exponentOf num den)).1
        (scaled num den (exponentOf num den)).2 = Nat.pow 2 53 := hr
    simp only [if_pos hcarry, if_pos hr]
    rfl
  · have hcarry : ¬ roundDiv (scaled num den (exponentOf num den)).1
        (scaled num den (exponentOf num den)).2 = Nat.pow 2 53 := hr
    simp only [if_neg hcarry, if_neg hr]
    rfl

theorem nearest_zero (hq : 0 ≤ q) (hsmall : 2 * q ≤ 2 ^ leastExponent) : Nearest q zero := by
  have hcanonical : Canonical 0 leastExponent := ⟨by decide, le_rfl, by decide, .inr rfl⟩
  have hbelow : q < overflow := by
    have hpow : (2 : ℚ) ^ leastExponent ≤ 2 ^ greatestExponent :=
      zpow_le_zpow_right₀ (by norm_num) (by decide)
    have hpos := two_zpow_pos greatestExponent
    rw [overflow_eq]
    nlinarith
  refine .finite hcanonical hbelow (fun y hy => ?_) (fun y hy hne heq => rfl)
  rw [Nat.cast_zero, zero_mul, zero_sub, abs_neg, abs_of_nonneg hq]
  cases y with
  | nan => cases hy
  | infinite negative => cases hy
  | finite negative n f =>
      have hsize : |(finite negative n f).toRat| = n * 2 ^ f := by
        cases negative <;> simp [toRat, abs_of_nonneg (show (0 : ℚ) ≤ n * 2 ^ f by positivity)]
      rcases Nat.eq_zero_or_pos n with rfl | hn
      · have hzero : (finite negative 0 f).toRat = 0 := by simp [toRat]
        rw [hzero, zero_sub, abs_neg, abs_of_nonneg hq]
      · have hone : (1 : ℚ) ≤ n := by exact_mod_cast hn
        have hleast : (2 : ℚ) ^ leastExponent ≤ 2 ^ f :=
          zpow_le_zpow_right₀ (by norm_num) hy.least
        have hpos := two_zpow_pos f
        have htri := abs_sub_abs_le_abs_sub (finite negative n f).toRat q
        rw [hsize, abs_of_nonneg hq] at htri
        nlinarith

theorem ofRatio_nearest (num : Nat) (hd : 0 < den) :
    Nearest (num / den) (ofRatio false num den) := by
  by_cases hn : num = 0
  · subst hn
    rw [Nat.cast_zero, zero_div]
    exact nearest_zero le_rfl (by rw [mul_zero]; exact (two_zpow_pos _).le)
  · have hpos : 0 < num := Nat.pos_of_ne_zero hn
    have hb := binade_exponentOf hpos hd
    obtain ⟨hd', hquot⟩ := scaled_spec num hd (exponentOf num den)
    have hr := rounded_roundDiv hd' hquot
    have hunfold := ofRatio_eq hn den false
    dsimp only at hunfold
    rw [hunfold]
    generalize roundDiv _ _ = r at *
    generalize exponentOf num den = e at *
    have hq : (0 : ℚ) < num / den := by positivity
    by_cases hbeyond : greatestExponent < if r = 2 ^ 53 then e + 1 else e
    · rw [if_pos hbeyond]
      exact .infinite ((overflow_le_iff hr hb).mpr hbeyond)
    · rw [if_neg hbeyond]
      have hbelow := not_le.mp (hbeyond ∘ (overflow_le_iff hr hb).mp)
      by_cases hcarry : r = 2 ^ 53
      · simp only [if_pos hcarry] at hbeyond ⊢
        have hleast := hb.least
        refine hb.nearest hr hq hbelow ⟨by decide, by omega, by omega, .inl le_rfl⟩ ?_
          fun _ => by decide
        rw [hcarry, zpow_add_one₀ (by norm_num)]
        push_cast
        ring
      · simp only [if_neg hcarry] at hbeyond ⊢
        exact hb.nearest hr hq hbelow
          ⟨lt_of_le_of_ne (hr.le hb) hcarry, hb.least, by omega, hr.full hb⟩ rfl id

theorem ratio_spec (m : Nat) (e : Int) :
    0 < (ratio m e).2 ∧ ((ratio m e).1 : ℚ) / (ratio m e).2 = m * 2 ^ e := by
  unfold ratio
  split
  · rename_i he
    obtain ⟨k, rfl⟩ := Int.eq_ofNat_of_zero_le he
    refine ⟨Nat.one_pos, ?_⟩
    rw [Int.toNat_natCast, Nat.cast_mul, cast_two_pow, zpow_natCast, Nat.cast_one, div_one]
  · rename_i he
    obtain ⟨k, rfl⟩ := Int.exists_eq_neg_ofNat (by omega : e ≤ 0)
    refine ⟨Nat.two_pow_pos _, ?_⟩
    rw [neg_neg, Int.toNat_natCast, cast_two_pow, zpow_neg, zpow_natCast, div_eq_mul_inv]

theorem scale_nearest (m : Nat) (e : Int) (k : Nat) :
    Nearest ((finite false m e).toRat * k) ((finite false m e).scale k) := by
  obtain ⟨hd, hratio⟩ := ratio_spec m e
  have hnearest := ofRatio_nearest ((ratio m e).1 * k) hd
  have hvalue : (((ratio m e).1 * k : Nat) : ℚ) / (ratio m e).2 =
      (finite false m e).toRat * k := by
    rw [Nat.cast_mul, mul_div_right_comm, hratio, toRat_finite]
  rw [← hvalue]
  exact hnearest

theorem Nearest.isProduct_scale {x : Binary64} (h : Nearest q x) (k : Nat) :
    IsProduct x k (x.scale k) := by
  cases h with
  | finite => exact scale_nearest _ _ k
  | infinite => rfl

theorem overflow_le_decimal {digits : Nat} (hd : digits ≠ 0) {exponent : Int}
    (h : 330 < exponent) : overflow ≤ digits * 10 ^ exponent := by
  have hdigits : (1 : ℚ) ≤ digits := by exact_mod_cast Nat.pos_of_ne_zero hd
  have hpow : (10 : ℚ) ^ 331 ≤ 10 ^ exponent := by
    rw [← zpow_natCast]
    exact zpow_le_zpow_right₀ (by norm_num) (by omega)
  have hbig : (2 : ℚ) ^ 1024 ≤ 10 ^ 331 := by
    have hnat : 2 ^ 1024 ≤ 10 ^ 331 := by decide +kernel
    exact_mod_cast hnat
  calc overflow ≤ 2 ^ 1024 := sub_le_self _ (by positivity)
    _ ≤ 10 ^ 331 := hbig
    _ ≤ 10 ^ exponent := hpow
    _ ≤ digits * 10 ^ exponent := le_mul_of_one_le_left (by positivity) hdigits

theorem decimal_le_least {digits : Nat} {exponent : Int}
    (h : exponent < -((digits.log2 : Int) + 1100)) :
    2 * ((digits : ℚ) * 10 ^ exponent) ≤ 2 ^ leastExponent := by
  obtain ⟨k, rfl⟩ := Int.exists_eq_neg_ofNat (by omega : exponent ≤ 0)
  have hdigits : (digits : ℚ) ≤ 2 ^ (digits.log2 + 1) := by
    exact_mod_cast (Nat.lt_log2_self (n := digits)).le
  have htens : (10 : ℚ) ^ (-(k : Int)) ≤ 2 ^ (-(k : Int)) := by
    rw [zpow_neg, zpow_neg, zpow_natCast, zpow_natCast]
    gcongr
    norm_num
  calc 2 * ((digits : ℚ) * 10 ^ (-(k : Int)))
      ≤ 2 ^ (1 : Int) * (2 ^ (digits.log2 + 1) * 2 ^ (-(k : Int))) := by
        rw [zpow_one]
        gcongr
    _ = 2 ^ (1 + ((digits.log2 : Int) + 1 + -k)) := by
        rw [← zpow_natCast, ← zpow_add₀ (by norm_num), ← zpow_add₀ (by norm_num)]
        push_cast
        rfl
    _ ≤ 2 ^ leastExponent := by
        refine zpow_le_zpow_right₀ (by norm_num) ?_
        unfold leastExponent
        omega

theorem ofDecimal_nearest (digits : Nat) (exponent : Int) :
    Nearest (digits * 10 ^ exponent) (ofDecimal false digits exponent) := by
  have hcast : ∀ k : Nat, ((Nat.pow 10 k : Nat) : ℚ) = 10 ^ k := fun k => by
    rw [show Nat.pow 10 k = 10 ^ k from rfl, Nat.cast_pow, Nat.cast_ofNat]
  unfold ofDecimal
  split
  · rename_i hzero
    rw [hzero, Nat.cast_zero, zero_mul]
    exact nearest_zero le_rfl (by rw [mul_zero]; exact (two_zpow_pos _).le)
  · rename_i hd
    split
    · rename_i hlarge
      exact .infinite (overflow_le_decimal hd hlarge)
    · split
      · rename_i hsmall
        exact nearest_zero (by positivity) (decimal_le_least hsmall)
      · split
        · rename_i he
          obtain ⟨k, rfl⟩ := Int.eq_ofNat_of_zero_le he
          have hnearest := ofRatio_nearest (digits * Nat.pow 10 k) Nat.one_pos
          rw [Nat.cast_one, div_one, Nat.cast_mul, hcast] at hnearest
          rw [Int.toNat_natCast, zpow_natCast]
          exact hnearest
        · rename_i he
          obtain ⟨k, rfl⟩ := Int.exists_eq_neg_ofNat (by omega : exponent ≤ 0)
          have hnearest := ofRatio_nearest digits (Nat.pow_pos (n := k) (by decide : 0 < 10))
          rw [show 10 ^ k = Nat.pow 10 k from rfl, hcast, div_eq_mul_inv] at hnearest
          rw [neg_neg, Int.toNat_natCast, zpow_neg, zpow_natCast]
          exact hnearest

end Binary64
end Dialogue.Number
