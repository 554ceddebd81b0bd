import Dialogue.Json.Reader
import Mathlib.Data.List.TakeWhile

/-!
# Where numbers and words end

A number or a word takes only characters that can stand in one, and at least one of them
(`readScalar_taken`). Where the next character can stand in none, what comes behind has no part in
what is read (`readScalar_append`).
-/
namespace Dialogue.Json

/-- What can stand in a number or a word. -/
def isScalarChar (c : Char) : Bool := c.isAlphanum || c = '-' || c = '+' || c = '.'

/-- No number or word goes on into the text. -/
def Ends (t : List Char) : Prop := ∀ c ∈ t.head?, isScalarChar c = false

/-- What comes before the rest can stand in a number or a word. -/
def Takes (cs rest : List Char) : Prop :=
  ∃ eaten, (∀ c ∈ eaten, isScalarChar c = true) ∧ cs = eaten ++ rest

variable {a b cs rest t w : List Char} {v : Json} {c : Char}

theorem isScalarChar_of_isDigit (h : c.isDigit = true) : isScalarChar c = true := by
  simp [isScalarChar, Char.isAlphanum, h]

theorem Ends.ne (h : Ends (c :: t)) {d : Char} (hd : isScalarChar d = true) : c ≠ d := by
  rintro rfl
  rw [h c rfl] at hd
  cases hd

theorem Ends.not_isDigit (h : Ends (c :: t)) : c.isDigit = false := by
  cases hc : c.isDigit with
  | false => rfl
  | true => exact absurd rfl (h.ne (isScalarChar_of_isDigit hc))

theorem takes_refl (cs : List Char) : Takes cs cs := ⟨[], by simp, rfl⟩

theorem Takes.trans (h : Takes a b) (k : Takes b t) : Takes a t := by
  obtain ⟨eaten, heaten, rfl⟩ := h
  obtain ⟨more, hmore, rfl⟩ := k
  refine ⟨eaten ++ more, fun c hc => ?_, (List.append_assoc _ _ _).symm⟩
  exact (List.mem_append.mp hc).elim (heaten c) (hmore c)

theorem Takes.cons (hc : isScalarChar c = true) (h : Takes cs rest) : Takes (c :: cs) rest := by
  obtain ⟨eaten, heaten, rfl⟩ := h
  exact ⟨c :: eaten, List.forall_mem_cons.mpr ⟨hc, heaten⟩, rfl⟩

theorem Takes.length_le (h : Takes cs rest) : rest.length ≤ cs.length := by
  obtain ⟨eaten, -, rfl⟩ := h
  simp

theorem takes_dropWhile (cs : List Char) : Takes cs (cs.dropWhile Char.isDigit) :=
  ⟨cs.takeWhile Char.isDigit, fun _ hc => isScalarChar_of_isDigit (List.mem_takeWhile_imp hc),
    List.takeWhile_append_dropWhile.symm⟩

/-! ### Digits -/

theorem takeWhile_append (ht : Ends t) (a : List Char) :
    (a ++ t).takeWhile Char.isDigit = a.takeWhile Char.isDigit := by
  induction a with
  | nil =>
      cases t with
      | nil => rfl
      | cons c t => simp [ht.not_isDigit]
  | cons d a ih =>
      rw [List.cons_append, List.takeWhile_cons, List.takeWhile_cons, ih]

theorem dropWhile_append (ht : Ends t) (a : List Char) :
    (a ++ t).dropWhile Char.isDigit = a.dropWhile Char.isDigit ++ t := by
  induction a with
  | nil =>
      cases t with
      | nil => rfl
      | cons c t => simp [ht.not_isDigit]
  | cons d a ih =>
      rw [List.cons_append, List.dropWhile_cons, List.dropWhile_cons, ih]
      split <;> rfl

/-! ### The parts of a number -/

/-- Whether a number has a sign, and what is behind it. -/
def signOf : List Char → Bool × List Char
  | '-' :: rest => (true, rest)
  | cs => (false, cs)

/-- The digits before the point: a zero stands alone. -/
def wholeOf : List Char → List Char
  | '0' :: _ => ['0']
  | cs => cs.takeWhile Char.isDigit

/-- The number of its parts. -/
def ofParts (negative : Bool) (whole fraction : List Char) (power : Option Int) : Json :=
  if fraction.isEmpty && power.isNone then
    .int (if negative then -(Number.natOfDigits whole : Int) else Number.natOfDigits whole)
  else .float (.ofDecimal negative (Number.natOfDigits (whole ++ fraction))
    (power.getD 0 - fraction.length))

theorem readNumber_eq_ok : readNumber cs = .ok (v, rest) ↔
    let sign := signOf cs
    let whole := wholeOf sign.2
    let fraction := fractionOf (sign.2.drop whole.length)
    let power := powerOf fraction.2
    whole ≠ [] ∧
      ((fraction.1.isEmpty && power.1.isNone) = true → whole.length ≤ Number.digitLimit) ∧
      ofParts sign.1 whole fraction.1 power.1 = v ∧ power.2 = rest := by
  have hparts : readNumber cs =
      let sign := signOf cs
      let whole := wholeOf sign.2
      let fraction := fractionOf (sign.2.drop whole.length)
      let power := powerOf fraction.2
      if whole.isEmpty then misread .value cs
      else if fraction.1.isEmpty && power.1.isNone then
        if Number.digitLimit < whole.length then misread (.longInteger whole.length) cs
        else .ok (.int (if sign.1 then -(Number.natOfDigits whole : Int)
          else Number.natOfDigits whole), power.2)
      else .ok (.float (.ofDecimal sign.1 (Number.natOfDigits (whole ++ fraction.1))
        (power.1.getD 0 - fraction.1.length)), power.2) := rfl
  rw [hparts]
  dsimp only
  generalize signOf cs = sign
  generalize wholeOf sign.2 = whole
  generalize fractionOf (sign.2.drop whole.length) = fraction
  generalize powerOf fraction.2 = power
  cases whole with
  | nil => simp [misread]
  | cons d whole =>
      unfold ofParts
      by_cases hint : (fraction.1.isEmpty && power.1.isNone) = true
      · by_cases hlong : Number.digitLimit < (d :: whole).length
        · have hshort : ¬ (d :: whole).length ≤ Number.digitLimit := Nat.not_le.mpr hlong
          simp [-List.length_cons, misread, hint, hlong, hshort]
        · have hshort : (d :: whole).length ≤ Number.digitLimit := Nat.not_lt.mp hlong
          simp [-List.length_cons, hint, hlong, hshort]
      · simp [hint]

theorem signOf_append (ht : Ends t) (a : List Char) :
    signOf (a ++ t) = ((signOf a).1, (signOf a).2 ++ t) := by
  cases a with
  | nil =>
      cases t with
      | nil => rfl
      | cons c t =>
          have hc : c ≠ '-' := ht.ne rfl
          simp [signOf, hc]
  | cons d a => by_cases hd : d = '-' <;> simp [signOf, hd]

theorem wholeOf_isPrefix (cs : List Char) : wholeOf cs <+: cs := by
  unfold wholeOf
  split
  · exact List.prefix_append _ _
  · exact List.takeWhile_prefix _

theorem isDigit_of_mem_wholeOf (h : c ∈ wholeOf cs) : c.isDigit = true := by
  unfold wholeOf at h
  split at h
  · rw [List.mem_singleton.mp h]
    rfl
  · exact List.mem_takeWhile_imp h

theorem wholeOf_append (ht : Ends t) (a : List Char) : wholeOf (a ++ t) = wholeOf a := by
  have hdigits := takeWhile_append ht a
  cases a with
  | nil =>
      cases t with
      | nil => rfl
      | cons c t =>
          have hc : c ≠ '0' := ht.ne rfl
          simpa [wholeOf, hc] using hdigits
  | cons d a =>
      by_cases hd : d = '0'
      · simp [wholeOf, hd]
      · simpa [wholeOf, hd] using hdigits

theorem fractionOf_append (ht : Ends t) (a : List Char) :
    fractionOf (a ++ t) = ((fractionOf a).1, (fractionOf a).2 ++ t) := by
  match a with
  | [] =>
      cases t with
      | nil => rfl
      | cons c t =>
          have hc : c ≠ '.' := ht.ne rfl
          simp [fractionOf, hc]
  | [d] =>
      by_cases hd : d = '.'
      · cases t with
        | nil => simp [fractionOf, hd]
        | cons c t => simp [fractionOf, hd, ht.not_isDigit]
      · simp [fractionOf, hd]
  | d :: c :: a =>
      by_cases hd : d = '.'
      · by_cases hc : c.isDigit = true <;>
          simp [fractionOf, hd, hc, takeWhile_append ht, dropWhile_append ht]
      · simp [fractionOf, hd]

/-- The sign of a power of ten, and what is behind it. -/
def powerSignOf : List Char → Bool × List Char
  | '-' :: rest => (true, rest)
  | '+' :: rest => (false, rest)
  | cs => (false, cs)

theorem powerSignOf_append (ht : Ends t) (a : List Char) :
    powerSignOf (a ++ t) = ((powerSignOf a).1, (powerSignOf a).2 ++ t) := by
  cases a with
  | nil =>
      cases t with
      | nil => rfl
      | cons c t =>
          have hminus : c ≠ '-' := ht.ne rfl
          have hplus : c ≠ '+' := ht.ne rfl
          simp [powerSignOf, hminus, hplus]
  | cons d a =>
      by_cases hminus : d = '-'
      · simp [powerSignOf, hminus]
      · by_cases hplus : d = '+' <;> simp [powerSignOf, hminus, hplus]

theorem powerOf_cons (e : Char) (rest : List Char) : powerOf (e :: rest) =
    let sign := powerSignOf rest
    let digits := sign.2.takeWhile Char.isDigit
    if (e = 'e' ∨ e = 'E') ∧ digits ≠ [] then
      (some (if sign.1 then -(Number.natOfDigits digits : Int) else Number.natOfDigits digits),
        sign.2.dropWhile Char.isDigit)
    else (none, e :: rest) := by
  have hparts : powerOf (e :: rest) =
      let sign := powerSignOf rest
      let digits := sign.2.takeWhile Char.isDigit
      if e = 'e' ∨ e = 'E' then
        if digits.isEmpty then (none, e :: rest)
        else
          (some (if sign.1 then -(Number.natOfDigits digits : Int) else Number.natOfDigits digits),
            sign.2.dropWhile Char.isDigit)
      else (none, e :: rest) := rfl
  rw [hparts]
  simp only [List.isEmpty_iff, ite_and, ite_not]

theorem powerOf_append (ht : Ends t) (a : List Char) :
    powerOf (a ++ t) = ((powerOf a).1, (powerOf a).2 ++ t) := by
  cases a with
  | nil =>
      cases t with
      | nil => rfl
      | cons c t =>
          have hc : c ≠ 'e' := ht.ne rfl
          have hc' : c ≠ 'E' := ht.ne rfl
          simp [powerOf, hc, hc']
  | cons d a =>
      rw [List.cons_append, powerOf_cons, powerOf_cons, powerSignOf_append ht]
      dsimp only
      rw [takeWhile_append ht, dropWhile_append ht]
      split <;> rfl

theorem readNumber_append (ht : Ends t) :
    readNumber (a ++ t) = .ok (v, b ++ t) ↔ readNumber a = .ok (v, b) := by
  have hdrop : ((signOf a).2 ++ t).drop (wholeOf (signOf a).2).length =
      (signOf a).2.drop (wholeOf (signOf a).2).length ++ t :=
    List.drop_append_of_le_length (wholeOf_isPrefix _).length_le
  simp only [readNumber_eq_ok, signOf_append ht, wholeOf_append ht, hdrop, fractionOf_append ht,
    powerOf_append ht, List.append_cancel_right_eq]

/-! ### What a number takes -/

theorem takes_signOf (cs : List Char) : Takes cs (signOf cs).2 := by
  unfold signOf
  split
  · exact (takes_refl _).cons rfl
  · exact takes_refl _

theorem takes_wholeOf (cs : List Char) : Takes cs (cs.drop (wholeOf cs).length) := by
  refine ⟨wholeOf cs, fun c hc => isScalarChar_of_isDigit (isDigit_of_mem_wholeOf hc), ?_⟩
  exact (List.prefix_iff_eq_append.mp (wholeOf_isPrefix cs)).symm

theorem takes_fractionOf (cs : List Char) : Takes cs (fractionOf cs).2 := by
  unfold fractionOf
  split
  · rename_i c rest
    by_cases hc : c.isDigit = true
    · rw [if_pos hc]
      exact ((takes_dropWhile rest).cons (isScalarChar_of_isDigit hc)).cons rfl
    · rw [if_neg hc]
      exact takes_refl _
  · exact takes_refl _

theorem takes_powerSignOf (cs : List Char) : Takes cs (powerSignOf cs).2 := by
  unfold powerSignOf
  split
  · exact (takes_refl _).cons rfl
  · exact (takes_refl _).cons rfl
  · exact takes_refl _

theorem takes_powerOf (cs : List Char) : Takes cs (powerOf cs).2 := by
  cases cs with
  | nil => exact takes_refl _
  | cons e rest =>
      rw [powerOf_cons]
      dsimp only
      split
      · rename_i hmark
        have he : isScalarChar e = true := by
          rcases hmark.1 with rfl | rfl <;> rfl
        exact ((takes_powerSignOf rest).trans (takes_dropWhile _)).cons he
      · exact takes_refl _

theorem readNumber_takes (h : readNumber cs = .ok (v, rest)) :
    Takes cs rest ∧ rest.length < cs.length := by
  obtain ⟨hwhole, -, -, rfl⟩ := readNumber_eq_ok.mp h
  have hsign := takes_signOf cs
  have hbehind := (takes_fractionOf ((signOf cs).2.drop (wholeOf (signOf cs).2).length)).trans
    (takes_powerOf _)
  refine ⟨(hsign.trans (takes_wholeOf _)).trans hbehind, ?_⟩
  have hlength := hbehind.length_le
  have hdigits := List.length_pos_iff.mpr hwhole
  have hfits := (wholeOf_isPrefix (signOf cs).2).length_le
  rw [List.length_drop] at hlength
  exact lt_of_lt_of_le (by omega) hsign.length_le

/-! ### Words -/

theorem startsWith?_append (ht : Ends t) (hw : ∀ c ∈ w, isScalarChar c = true) (a : List Char) :
    startsWith? w (a ++ t) = (startsWith? w a).map (· ++ t) := by
  induction w generalizing a with
  | nil => rfl
  | cons p w ih =>
      obtain ⟨hp, hw⟩ := List.forall_mem_cons.mp hw
      cases a with
      | nil =>
          cases t with
          | nil => rfl
          | cons c t =>
              have hc : p ≠ c := (ht.ne hp).symm
              simp [startsWith?, hc]
      | cons c a =>
          by_cases hc : p = c
          · simp [startsWith?, hc, ih hw]
          · simp [startsWith?, hc]

theorem eq_append_of_startsWith? (h : startsWith? w cs = some rest) : cs = w ++ rest := by
  induction w generalizing cs with
  | nil => exact Option.some.inj h
  | cons p w ih =>
      cases cs with
      | nil => cases h
      | cons c cs =>
          rw [startsWith?] at h
          split at h
          · rename_i hc
            rw [ih h, hc]
            rfl
          · cases h

theorem words_scalar : ∀ entry ∈ words, entry.1 ≠ [] ∧ entry.1.all isScalarChar = true := by
  decide

theorem readWord?_append (ht : Ends t) (a : List Char) :
    readWord? (a ++ t) = (readWord? a).map fun r => (r.1, r.2 ++ t) := by
  have hwords := words_scalar
  unfold readWord?
  generalize words = entries at hwords ⊢
  induction entries with
  | nil => rfl
  | cons entry entries ih =>
      obtain ⟨word, value⟩ := entry
      obtain ⟨⟨-, hword⟩, hwords⟩ := List.forall_mem_cons.mp hwords
      have happend := startsWith?_append ht (List.all_eq_true.mp hword) a
      dsimp only at happend
      simp only [List.findSome?_cons, happend, ih hwords]
      cases startsWith? word a with
      | none => rfl
      | some behind => rfl

theorem readWord?_takes (h : readWord? cs = some (v, rest)) :
    Takes cs rest ∧ rest.length < cs.length := by
  obtain ⟨⟨word, value⟩, hmem, hword⟩ := List.exists_of_findSome?_eq_some h
  obtain ⟨hne, hchars⟩ := words_scalar _ hmem
  obtain ⟨r, hr, heq⟩ := Option.map_eq_some_iff.mp hword
  cases heq
  refine ⟨⟨word, List.all_eq_true.mp hchars, eq_append_of_startsWith? hr⟩, ?_⟩
  have hlength : 0 < word.length := List.length_pos_iff.mpr hne
  rw [eq_append_of_startsWith? hr, List.length_append]
  omega

/-! ### Either of the two -/

/-- A number or a word. -/
def readScalar (cs : List Char) : Except Misread (Json × List Char) :=
  match readWord? cs with
  | some r => .ok r
  | none => readNumber cs

theorem readScalar_append (ht : Ends t) :
    readScalar (a ++ t) = .ok (v, b ++ t) ↔ readScalar a = .ok (v, b) := by
  unfold readScalar
  rw [readWord?_append ht]
  cases readWord? a with
  | none => exact readNumber_append ht
  | some r =>
      obtain ⟨w, behind⟩ := r
      simp

theorem readScalar_takes (h : readScalar cs = .ok (v, rest)) :
    Takes cs rest ∧ rest.length < cs.length := by
  unfold readScalar at h
  split at h
  · rename_i r hword
    cases h
    exact readWord?_takes hword
  · exact readNumber_takes h

/-- A number or a word takes something, and what it takes is read the same way before any text that
ends it. -/
theorem readScalar_taken (h : readScalar cs = .ok (v, rest)) (he : Ends rest) :
    ∃ c eaten, (∀ d ∈ c :: eaten, isScalarChar d = true) ∧ cs = c :: (eaten ++ rest) ∧
      ∀ t, Ends t → readScalar (c :: (eaten ++ t)) = .ok (v, t) := by
  obtain ⟨⟨eaten, heaten, rfl⟩, hshort⟩ := readScalar_takes h
  cases eaten with
  | nil => exact absurd hshort (Nat.lt_irrefl _)
  | cons c eaten =>
      have hread : readScalar (c :: eaten) = .ok (v, []) := (readScalar_append he).mp h
      exact ⟨c, eaten, heaten, rfl, fun t ht => (readScalar_append (b := []) ht).mpr hread⟩

end Dialogue.Json
