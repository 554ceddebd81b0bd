import Dialogue.Json.Limits
import Dialogue.Json.Writer

/-!
# Stored values

What a value becomes when it is stored and read again: a double that is no finite number becomes
null. A value of too many levels is not stored at all, and neither is one without a text. Main
statement: values with finite doubles stay as they are.
-/
namespace Dialogue.Json

mutual

/-- A value as it is read again. -/
def kept : Json → Json
  | float x => if x.isFinite then float x else null
  | list items => list (keptItems items)
  | object fields => object (keptFields fields)
  | v => v

def keptItems : List Json → List Json
  | [] => []
  | v :: rest => kept v :: keptItems rest

def keptFields : List (String × Json) → List (String × Json)
  | [] => []
  | (name, v) :: rest => (name, kept v) :: keptFields rest

end

mutual

theorem kept_of_isFinite (v : Json) (h : v.isFinite = true) : v.kept = v := by
  cases v with
  | float x =>
    have hx : x.isFinite = true := by simpa [isFinite] using h
    simp [kept, hx]
  | list items => simp [kept, keptItems_of_finite items (by simpa [isFinite] using h)]
  | object fields => simp [kept, keptFields_of_finite fields (by simpa [isFinite] using h)]
  | _ => simp [kept]

theorem keptItems_of_finite (vs : List Json) (h : finiteItems vs = true) : keptItems vs = vs := by
  cases vs with
  | nil => rfl
  | cons v rest =>
    simp only [finiteItems, Bool.and_eq_true] at h
    simp [keptItems, kept_of_isFinite v h.1, keptItems_of_finite rest h.2]

theorem keptFields_of_finite (fs : List (String × Json)) (h : finiteFields fs = true) :
    keptFields fs = fs := by
  cases fs with
  | nil => rfl
  | cons f rest =>
    obtain ⟨name, v⟩ := f
    simp only [finiteFields, Bool.and_eq_true] at h
    simp [keptFields, kept_of_isFinite v h.1, keptFields_of_finite rest h.2]

end

mutual

/-- The levels of a value: one, and those of the deepest value inside. A value that is no list and
no object has one. -/
def levels : Json → Nat
  | list items => levelsOfItems items + 1
  | object fields => levelsOfFields fields + 1
  | _ => 1

def levelsOfItems : List Json → Nat
  | [] => 0
  | v :: rest => max (levels v) (levelsOfItems rest)

def levelsOfFields : List (String × Json) → Nat
  | [] => 0
  | (_, v) :: rest => max (levels v) (levelsOfFields rest)

end

/-- The levels that a stored value may have. -/
def levelLimit : Nat := 255

def isStorable (v : Json) : Bool := v.levels ≤ levelLimit && v.hasText

end Dialogue.Json
