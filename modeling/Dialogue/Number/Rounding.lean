/-!
# Rounding quotients

Division of natural numbers to the nearest integer. The result is within half a unit of the
quotient, and a quotient halfway between two integers goes to the even one.
-/
namespace Dialogue.Number

/-- The integer nearest to `num / den`, the even one of two that are equally near. -/
def roundDiv (num den : Nat) : Nat :=
  let low := num / den
  let rest := num % den
  if 2 * rest < den then low
  else if den < 2 * rest then low + 1
  else if low % 2 = 0 then low else low + 1

theorem roundDiv_near (num : Nat) {den : Nat} (hd : 0 < den) :
    2 * num ≤ 2 * (roundDiv num den * den) + den ∧
      2 * (roundDiv num den * den) ≤ 2 * num + den := by
  have h := Nat.div_add_mod num den
  have hr := Nat.mod_lt num hd
  have hm : (num / den + 1) * den = den * (num / den) + den := by
    rw [Nat.add_mul, Nat.one_mul, Nat.mul_comm]
  have hl : num / den * den = den * (num / den) := Nat.mul_comm _ _
  unfold roundDiv
  dsimp only
  split
  · rw [hl]; omega
  · split
    · rw [hm]; omega
    · split
      · rw [hl]; omega
      · rw [hm]; omega

theorem roundDiv_tie {num den : Nat} (h : 2 * (num % den) = den) :
    roundDiv num den % 2 = 0 := by
  unfold roundDiv
  dsimp only
  rw [if_neg (by omega), if_neg (by omega)]
  split <;> omega

end Dialogue.Number
