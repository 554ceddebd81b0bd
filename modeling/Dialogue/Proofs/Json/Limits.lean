import Dialogue.Proofs.Bindings
import Dialogue.Proofs.Json.Grammar

/-!
# Which values have a text

A value has a text where its integers are short enough and its lists and objects do not stand too
deep in one another; what stands inside a value that has one has one as well. Main statement:
whatever is read from a text has a text (`hasText_of_read`).
-/
namespace Dialogue

namespace Number

theorem natOfDigits_lt {cs : List Char} (h : ∀ c ∈ cs, c.isDigit = true) :
    natOfDigits cs < Nat.pow 10 cs.length := by
  change _ < 10 ^ cs.length
  -- from the end, where the last digit counts as it is
  rw [← List.reverse_reverse cs] at h ⊢
  generalize cs.reverse = ds at h ⊢
  induction ds with
  | nil => decide
  | cons c ds ih =>
      rw [List.reverse_cons] at h ⊢
      have hds := ih fun d hd => h d (List.mem_append_left _ hd)
      have hc : c.toNat - '0'.toNat < 10 := by
        have hdigit := h c (by simp)
        simp only [Char.isDigit, Bool.and_eq_true, decide_eq_true_eq, ge_iff_le,
          UInt32.le_iff_toNat_le] at hdigit
        have htop : c.toNat ≤ 57 := hdigit.2
        have hzero : '0'.toNat = 48 := rfl
        omega
      have hlast : natOfDigits (ds.reverse ++ [c]) =
          10 * natOfDigits ds.reverse + (c.toNat - '0'.toNat) := by
        rw [natOfDigits, List.foldl_append]
        rfl
      rw [hlast, List.length_append, List.length_singleton, Nat.pow_succ]
      omega

theorem isLong_eq_false {n : Int} {cs : List Char} (h : ∀ c ∈ cs, c.isDigit = true)
    (hlength : cs.length ≤ digitLimit) (hn : n.natAbs = natOfDigits cs) : isLong n = false := by
  have hpos : 0 < digitLimit := by decide
  have hdigits : (Nat.toDigits 10 n.natAbs).length ≤ digitLimit := by
    generalize digitLimit = limit at hlength hpos ⊢
    rw [Nat.length_toDigits_le_iff (by decide) hpos, hn]
    exact Nat.lt_of_lt_of_le (natOfDigits_lt h) (Nat.pow_le_pow_right (by decide) hlength)
  rw [isLong, decide_eq_false_iff_not, Nat.not_lt]
  exact hdigits

end Number

namespace Json

variable {strict : Bool} {depth : Nat} {v : Json} {vs : List Json}
  {fields : List (String × Json)} {name : String} {cs rest : List Char}
  {text : String}

/-! ### What stands inside -/

theorem faultOfItems?_eq_none :
    faultOfItems? strict depth vs = none ↔ ∀ v ∈ vs, v.faultWithin? strict depth = none := by
  induction vs with
  | nil => simp [faultOfItems?]
  | cons v vs ih => simp [faultOfItems?, ih]

theorem faultOfFields?_eq_none : faultOfFields? strict depth fields = none ↔
    ∀ f ∈ fields, f.2.faultWithin? strict depth = none := by
  induction fields with
  | nil => simp [faultOfFields?]
  | cons f fields ih => simp [faultOfFields?, ih]

theorem faultWithin?_list : (list vs).faultWithin? strict (depth + 1) = none ↔
    ∀ v ∈ vs, v.faultWithin? strict depth = none := by
  rw [← faultOfItems?_eq_none]
  simp [faultWithin?]

theorem faultWithin?_object : (object fields).faultWithin? strict (depth + 1) = none ↔
    ∀ f ∈ fields, f.2.faultWithin? strict depth = none := by
  rw [← faultOfFields?_eq_none]
  simp [faultWithin?]

mutual

theorem faultWithin?_mono {depth more : Nat} (hle : depth ≤ more) (v : Json)
    (h : v.faultWithin? strict depth = none) : v.faultWithin? strict more = none := by
  cases v with
  | list vs =>
    cases depth with
    | zero => cases h
    | succ depth =>
      obtain ⟨more, rfl⟩ := Nat.exists_eq_add_of_le' (Nat.zero_lt_of_lt hle)
      have hvs := faultOfItems?_mono (Nat.le_of_succ_le_succ hle) vs
        (by simpa [faultWithin?] using h)
      simpa [faultWithin?] using hvs
  | object fields =>
    cases depth with
    | zero => cases h
    | succ depth =>
      obtain ⟨more, rfl⟩ := Nat.exists_eq_add_of_le' (Nat.zero_lt_of_lt hle)
      have hfields := faultOfFields?_mono (Nat.le_of_succ_le_succ hle) fields
        (by simpa [faultWithin?] using h)
      simpa [faultWithin?] using hfields
  | null | bool _ | str _ => rfl
  | int n => exact h
  | float x => exact h

theorem faultOfItems?_mono {depth more : Nat} (hle : depth ≤ more) (vs : List Json)
    (h : faultOfItems? strict depth vs = none) : faultOfItems? strict more vs = none := by
  cases vs with
  | nil => rfl
  | cons v vs =>
    rw [faultOfItems?, Option.or_eq_none_iff] at h ⊢
    exact ⟨faultWithin?_mono hle v h.1, faultOfItems?_mono hle vs h.2⟩

theorem faultOfFields?_mono {depth more : Nat} (hle : depth ≤ more)
    (fields : List (String × Json))
    (h : faultOfFields? strict depth fields = none) :
    faultOfFields? strict more fields = none := by
  cases fields with
  | nil => rfl
  | cons f fields =>
    obtain ⟨name, v⟩ := f
    rw [faultOfFields?, Option.or_eq_none_iff] at h ⊢
    exact ⟨faultWithin?_mono hle v h.1, faultOfFields?_mono hle fields h.2⟩

end

theorem hasText_of_mem {f : String × Json} (h : (object fields).hasText = true)
    (hf : f ∈ fields) : f.2.hasText = true := by
  rw [hasText_eq_true] at h ⊢
  exact faultWithin?_mono (Nat.pred_le depthLimit) f.2 (faultWithin?_object.mp h f hf)

theorem hasText_of_field? {part : Json} (h : v.hasText = true) (hf : v.field? name = some part) :
    part.hasText = true := by
  cases v with
  | object fields => exact hasText_of_mem h (Bindings.mem_of_get? hf)
  | _ => cases hf

theorem hasText_of_mem_list (h : (list vs).hasText = true) (hv : v ∈ vs) : v.hasText = true := by
  rw [hasText_eq_true] at h ⊢
  exact faultWithin?_mono (Nat.pred_le depthLimit) v (faultWithin?_list.mp h v hv)

/-! ### What was read -/

/-- An integer that is read has few enough digits to be written again. -/
theorem faultWithin?_of_readScalar (h : readScalar cs = .ok (v, rest)) (depth : Nat) :
    v.faultWithin? false depth = none := by
  unfold readScalar at h
  split at h
  · rename_i r hword
    cases h
    obtain ⟨⟨w, value⟩, hmem, hfound⟩ := List.exists_of_findSome?_eq_some hword
    have hvalue : value = v := by
      obtain ⟨_, _, hpair⟩ := Option.map_eq_some_iff.mp hfound
      exact (Prod.mk.inj hpair).1
    subst hvalue
    revert hmem
    simp only [words, List.mem_cons, List.not_mem_nil, or_false, Prod.mk.injEq]
    rintro (⟨-, rfl⟩ | ⟨-, rfl⟩ | ⟨-, rfl⟩ | ⟨-, rfl⟩ | ⟨-, rfl⟩ | ⟨-, rfl⟩) <;> rfl
  · obtain ⟨-, hlength, rfl, -⟩ := readNumber_eq_ok.mp h
    unfold ofParts
    split
    · rename_i hint
      have hlong : ∀ n : Int, n.natAbs = Number.natOfDigits (wholeOf (signOf cs).2) →
          Number.isLong n = false := by
        intro n hn
        exact Number.isLong_eq_false (fun c hc => isDigit_of_mem_wholeOf hc) (hlength hint) hn
      split <;> simp [faultWithin?, hlong]
    · rfl

mutual

theorem IsValue.faultWithin? : ∀ {depth : Nat} {cs : List Char} {v : Json} {rest : List Char},
    IsValue depth cs v rest → v.faultWithin? false depth = none
  | _, _, _, _, .text _ => rfl
  | depth, _, _, _, .scalar h => faultWithin?_of_readScalar h depth
  | _, _, _, _, .noItems _ => rfl
  | _, _, _, _, .items h => faultWithin?_list.mpr h.faultWithin?
  | _, _, _, _, .noFields _ => rfl
  | _, _, _, _, .fields h =>
      faultWithin?_object.mpr fun f hf => h.faultWithin? f (Bindings.mem_of_ofList hf)

theorem IsItems.faultWithin? : ∀ {depth : Nat} {cs : List Char} {vs : List Json}
    {rest : List Char}, IsItems depth cs vs rest → ∀ v ∈ vs, v.faultWithin? false depth = none
  | _, _, _, _, .last hv _ => by simpa using hv.faultWithin?
  | _, _, _, _, .more hv _ h => List.forall_mem_cons.mpr ⟨hv.faultWithin?, h.faultWithin?⟩

theorem IsFields.faultWithin? : ∀ {depth : Nat} {cs : List Char}
    {fields : List (String × Json)} {rest : List Char}, IsFields depth cs fields rest →
    ∀ f ∈ fields, f.2.faultWithin? false depth = none
  | _, _, _, _, .last _ _ hv _ => by simpa using hv.faultWithin?
  | _, _, _, _, .more _ _ hv _ h => List.forall_mem_cons.mpr ⟨hv.faultWithin?, h.faultWithin?⟩

end

/-- Whatever is read from a text has a text itself. -/
theorem hasText_of_read (h : read cs = .ok v) : v.hasText = true := by
  obtain ⟨rest, hvalue, -⟩ := read_eq_ok.mp h
  exact hasText_eq_true.mpr hvalue.faultWithin?

end Json
end Dialogue
