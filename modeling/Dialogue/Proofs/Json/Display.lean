import Dialogue.Json.Display
import Mathlib.Data.List.Basic

/-!
# Values displayed and spoken

What counts as something is displayed by a text that says something. A value is spoken as it is
displayed unless it is null, a truth value or a whole double (`Json.spoken_eq_display_iff`): the
text of a double has a point or an exponent, which no integer has.
-/
namespace Dialogue

namespace Number

/-- The text has a point or an exponent. -/
def IsMarked (s : String) : Prop := ∃ c ∈ s.toList, c = '.' ∨ c = 'e'

theorem withPoint_isMarked (digits : Nat) {places : Nat} (h : 0 < places) :
    IsMarked (withPoint digits places) := by
  unfold withPoint
  dsimp only
  generalize htext : List.replicate (places + 1 - (Nat.toDigits 10 digits).length) '0' ++
    Nat.toDigits 10 digits = text
  have hlong : places < text.length := by
    rw [← htext, List.length_append, List.length_replicate]
    omega
  have hrest : (text.drop (text.length - places)).isEmpty = false := by
    rw [List.isEmpty_eq_false_iff, ← List.length_pos_iff, List.length_drop]
    omega
  exact ⟨'.', by simp [hrest], .inl rfl⟩

theorem Layout.value_isMarked (d : Decimal) : IsMarked (Layout.value.text d) := by
  unfold text
  dsimp only
  split
  · split
    · exact ⟨'.', by simp [value], .inl rfl⟩
    · exact withPoint_isMarked _ (by omega)
  · exact ⟨'e', by simp, .inr rfl⟩

theorem toString_not_isMarked (n : Int) : ¬ IsMarked (toString n) := by
  rintro ⟨c, hc, hmark⟩
  have hsign : c ≠ '-' := by
    rintro rfl
    revert hmark
    decide
  have hdigit : c.isDigit = true := by
    cases n with
    | ofNat m =>
        have hmem : c ∈ Nat.toDigits 10 m := by simpa [toString, Int.repr, Nat.toList_repr] using hc
        exact Nat.isDigit_of_mem_toDigits (by decide) (by decide) hmem
    | negSucc m =>
        have hmem : c ∈ Nat.toDigits 10 (m + 1) := by
          simpa [toString, Int.repr, Nat.toList_repr, hsign] using hc
        exact Nat.isDigit_of_mem_toDigits (by decide) (by decide) hmem
  rcases hmark with rfl | rfl <;> revert hdigit <;> decide

namespace Binary64

theorem text_isMarked {x : Binary64} (h : x.isFinite = true) : IsMarked x.text := by
  cases x with
  | nan => cases h
  | infinite negative => cases h
  | finite negative m e =>
      obtain ⟨c, hc, hmark⟩ := Layout.value_isMarked (Decimal.shortest m e)
      exact ⟨c, by simp [text, textWith, hc], hmark⟩

theorem text_ne_empty (x : Binary64) : x.text ≠ "" := by
  cases x with
  | nan => decide
  | infinite negative => simp [text, textWith]
  | finite negative m e =>
      obtain ⟨c, hc, -⟩ := text_isMarked (x := .finite negative m e) rfl
      intro hempty
      rw [hempty] at hc
      cases hc

theorem isFinite_of_toInt? {x : Binary64} {n : Int} (h : x.toInt? = some n) :
    x.isFinite = true := by
  cases x with
  | nan => cases h
  | infinite negative => cases h
  | finite negative m e => rfl

end Binary64
end Number

namespace Json

variable {v : Json}

theorem display_ne_empty (h : v.isTruthy = true) : v.display ≠ "" := by
  cases v with
  | null => cases h
  | bool b => cases b <;> decide
  | int n => cases n <;> simp [display, quoted, toString, Int.repr]
  | float x => exact x.text_ne_empty
  | str s => simpa [isTruthy, display] using h
  | list items => simp [display, quoted]
  | object fields => simp [display, quoted]

theorem spoken_of_not_truthy (h : v.isTruthy = false) :
    v.spoken ∈ ["", "false", "0", "[]", "\x7b\x7d"] := by
  cases v with
  | null => decide
  | bool b =>
      obtain rfl : b = false := h
      decide
  | int n =>
      obtain rfl : n = 0 := by simpa [isTruthy] using h
      decide
  | float x =>
      have hzero : x.toInt? = some 0 := by
        cases x with
        | nan => simp [isTruthy, Number.Binary64.isZero] at h
        | infinite negative => simp [isTruthy, Number.Binary64.isZero] at h
        | finite negative m e =>
            obtain rfl : m = 0 := by simpa [isTruthy, Number.Binary64.isZero] using h
            by_cases he : 0 ≤ e <;>
              simp [Number.Binary64.toInt?, Number.Binary64.ratio, he]
      have hspoken : (float x).spoken = "0" := by
        rw [spoken, hzero]
        rfl
      rw [hspoken]
      decide
  | str s =>
      obtain rfl : s = "" := by simpa [isTruthy] using h
      decide
  | list items =>
      obtain rfl : items = [] := by simpa [isTruthy] using h
      decide
  | object fields =>
      obtain rfl : fields = [] := by simpa [isTruthy] using h
      decide

/-- A truth value, or a double that is equal to an integer. -/
def IsRecast (v : Json) : Prop := (∃ b, v = .bool b) ∨ ∃ x n, v = .float x ∧ x.toInt? = some n

/-- Null aside, these are the values that are not spoken as they are displayed. -/
theorem spoken_eq_display_iff (h : v ≠ .null) : v.spoken = v.display ↔ ¬ v.IsRecast := by
  cases v with
  | null => exact absurd rfl h
  | bool b =>
      have hne : (bool b).spoken ≠ (bool b).display := by cases b <;> decide
      exact iff_of_false hne (not_not_intro (.inl ⟨b, rfl⟩))
  | float x =>
      cases hx : x.toInt? with
      | none =>
          have hplain : ¬ (float x).IsRecast := by
            rintro (⟨b, hb⟩ | ⟨y, n, hy, hn⟩)
            · cases hb
            · cases hy
              rw [hx] at hn
              cases hn
          exact iff_of_true (by simp [spoken, hx, display, quoted]) hplain
      | some n =>
          have hne : (float x).spoken ≠ (float x).display := by
            intro hsame
            have htext : toString n = x.text := by simpa [spoken, hx, display, quoted] using hsame
            exact Number.toString_not_isMarked n
              (htext ▸ Number.Binary64.text_isMarked (Number.Binary64.isFinite_of_toInt? hx))
          exact iff_of_false hne (not_not_intro (.inr ⟨x, n, rfl, hx⟩))
  | int n | str s | list items | object fields => exact iff_of_true rfl (by simp [IsRecast])

end Json
end Dialogue
