import Dialogue.Proofs.Json.Scalar
import Dialogue.Proofs.Yields

/-!
# The grammar of JSON texts

What the reader takes, without the fuel it goes by: texts, values, and the rows of items and fields
(`IsText`, `IsValue`, `IsItems`, `IsFields`), each with what is left behind it. The reader gives a
value just where the text has one (`read_eq_ok`).
-/
namespace Dialogue.Json

/-! ### Texts -/

/-- The character that the escape behind a backslash stands for, and what comes behind the escape.
Half of a pair without the other half stands for the replacement character. -/
def escape? : List Char → Option (Char × List Char)
  | 'u' :: digits =>
    match unit? digits with
    | none => none
    | some (high, after) =>
      if 0xd800 ≤ high ∧ high < 0xdc00 then
        match after with
        | '\\' :: 'u' :: more =>
          match unit? more with
          | none => if more.length ≤ 4 then some ('\ufffd', after) else none
          | some (low, end_) =>
            if 0xdc00 ≤ low ∧ low < 0xe000 then
              some (Char.ofNat (0x10000 + (high - 0xd800) * 0x400 + (low - 0xdc00)), end_)
            else some ('\ufffd', after)
        | _ => some ('\ufffd', after)
      else if 0xdc00 ≤ high ∧ high < 0xe000 then some ('\ufffd', after)
      else some (Char.ofNat high, after)
  | c :: after => (simpleEscape? c).map (·, after)
  | [] => none

/-- The characters of a text up to its closing quote. -/
inductive IsText : List Char → List Char → List Char → Prop
  | close {rest : List Char} : IsText ('"' :: rest) [] rest
  | char {c : Char} {cs s rest : List Char} (hquote : c ≠ '"') (hslash : c ≠ '\\')
      (hc : 0x20 ≤ c.toNat) (h : IsText cs s rest) : IsText (c :: cs) (c :: s) rest
  | escape {c : Char} {cs behind s rest : List Char} (he : escape? cs = some (c, behind))
      (h : IsText behind s rest) : IsText ('\\' :: cs) (c :: s) rest

variable {cs rest behind next s w : List Char} {c : Char} {opening acc : List Char}
  {fuel depth : Nat} {v : Json} {vs : List Json} {fields : List (String × Json)}

theorem length_of_unit? {n : Nat} (h : unit? cs = some (n, rest)) : rest.length < cs.length := by
  unfold unit? at h
  split at h
  · split at h
    · cases h
    · simp only [Option.bind_eq_bind, Option.bind_eq_some_iff, Option.some.injEq,
        Prod.mk.injEq] at h
      obtain ⟨-, -, -, -, -, -, -, -, -, rfl⟩ := h
      simp only [List.length_cons]
      omega
  · cases h

theorem length_of_escape? : escape? cs = some (c, rest) → rest.length < cs.length := by
  fun_cases escape? cs with
  | case2 digits high hhigh more hmore hshort hunit
  | case5 digits high hhigh more low after hmore hlow hunit
  | case6 digits high after hunit
  | case7 digits high after hunit
  | case8 digits high after hunit =>
      simp only [Option.some.injEq, Prod.mk.injEq]
      rintro ⟨-, rfl⟩
      have hafter := length_of_unit? hunit
      simp only [List.length_cons] at hafter ⊢
      omega
  | case4 digits high hhigh more low after hmore hlow hunit =>
      simp only [Option.some.injEq, Prod.mk.injEq]
      rintro ⟨-, rfl⟩
      have hafter := length_of_unit? hunit
      have hmore := length_of_unit? hmore
      simp only [List.length_cons] at hafter ⊢
      omega
  | case9 d after =>
      intro h
      obtain ⟨_, -, heq⟩ := Option.map_eq_some_iff.mp h
      cases heq
      exact Nat.lt_succ_self _
  | case1 | case3 | case10 => rintro ⟨⟩

theorem readText_escape {r : String × List Char} :
    readText opening (fuel + 1) acc ('\\' :: cs) = .ok r ↔
      ∃ p, escape? cs = some p ∧ readText opening fuel (p.1 :: acc) p.2 = .ok r := by
  rw [readText.eq_def]
  simp only []
  fun_cases escape? cs with
  | case9 d after hd => cases hsimple : simpleEscape? d <;> simp [hsimple, misread]
  | _ => simp [*, misread]

theorem readText_char {r : String × List Char} (hquote : c ≠ '"') (hslash : c ≠ '\\') :
    readText opening (fuel + 1) acc (c :: cs) = .ok r ↔
      0x20 ≤ c.toNat ∧ readText opening fuel (c :: acc) cs = .ok r := by
  by_cases hc : c.toNat < 0x20
  · have hlow : ¬ 0x20 ≤ c.toNat := Nat.not_le.mpr hc
    simp [readText, hc, hlow, misread]
  · have hhigh : 0x20 ≤ c.toNat := Nat.not_lt.mp hc
    simp [readText, hc, hhigh]

theorem IsText.length_lt (h : IsText cs s rest) : rest.length < cs.length := by
  induction h with
  | close => exact Nat.lt_succ_self _
  | char _ _ _ _ ih => exact Nat.lt_succ_of_lt ih
  | escape he _ ih => exact Nat.lt_succ_of_lt (ih.trans (length_of_escape? he))

theorem isText_of_readText {text : String} (h : readText opening fuel acc cs = .ok (text, rest)) :
    ∃ s, IsText cs s rest ∧ text = String.ofList (acc.reverse ++ s) := by
  induction fuel generalizing acc cs with
  | zero => cases h
  | succ fuel ih =>
      cases cs with
      | nil => cases h
      | cons c cs =>
          by_cases hquote : c = '"'
          · subst hquote
            cases h
            exact ⟨[], .close, by rw [List.append_nil]⟩
          · by_cases hslash : c = '\\'
            · subst hslash
              obtain ⟨⟨d, behind⟩, he, hread⟩ := readText_escape.mp h
              obtain ⟨s, hs, rfl⟩ := ih hread
              exact ⟨d :: s, .escape he hs, by simp⟩
            · obtain ⟨hc, hread⟩ := (readText_char hquote hslash).mp h
              obtain ⟨s, hs, rfl⟩ := ih hread
              exact ⟨c :: s, .char hquote hslash hc hs, by simp⟩

theorem IsText.readText (h : IsText cs s rest) (hfuel : cs.length < fuel) :
    readText opening fuel acc cs = .ok (String.ofList (acc.reverse ++ s), rest) := by
  induction fuel generalizing acc cs s with
  | zero => exact absurd hfuel (Nat.not_lt_zero _)
  | succ fuel ih =>
      cases h with
      | close => simp [Json.readText]
      | char hquote hslash hc h =>
          rw [readText_char hquote hslash, ih h (Nat.lt_of_succ_lt_succ hfuel)]
          exact ⟨hc, by simp⟩
      | escape he h =>
          have hbehind := (length_of_escape? he).trans (Nat.lt_of_succ_lt_succ hfuel)
          refine readText_escape.mpr ⟨_, he, ?_⟩
          rw [ih h hbehind]
          simp

/-! ### Values -/

mutual

/-- A value in which `depth` lists and objects may stand inside one another. -/
inductive IsValue : Nat → List Char → Json → List Char → Prop
  | text {depth : Nat} {cs s rest : List Char} (h : IsText cs s rest) :
      IsValue depth ('"' :: cs) (.str (String.ofList s)) rest
  | scalar {depth : Nat} {cs rest : List Char} {v : Json} (h : readScalar cs = .ok (v, rest)) :
      IsValue depth cs v rest
  | noItems {depth : Nat} {cs rest : List Char} (h : skip cs = ']' :: rest) :
      IsValue (depth + 1) ('[' :: cs) (.list []) rest
  | items {depth : Nat} {cs rest : List Char} {vs : List Json}
      (h : IsItems depth (skip cs) vs rest) : IsValue (depth + 1) ('[' :: cs) (.list vs) rest
  | noFields {depth : Nat} {cs rest : List Char} (h : skip cs = '\x7d' :: rest) :
      IsValue (depth + 1) ('\x7b' :: cs) (.object []) rest
  | fields {depth : Nat} {cs rest : List Char} {fields : List (String × Json)}
      (h : IsFields depth (skip cs) fields rest) :
      IsValue (depth + 1) ('\x7b' :: cs) (.object (Bindings.ofList fields)) rest

inductive IsItems : Nat → List Char → List Json → List Char → Prop
  | last {depth : Nat} {cs behind rest : List Char} {v : Json} (hv : IsValue depth cs v behind)
      (hclose : skip behind = ']' :: rest) : IsItems depth cs [v] rest
  | more {depth : Nat} {cs behind next rest : List Char} {v : Json} {vs : List Json}
      (hv : IsValue depth cs v behind) (hcomma : skip behind = ',' :: next)
      (h : IsItems depth (skip next) vs rest) : IsItems depth cs (v :: vs) rest

inductive IsFields : Nat → List Char → List (String × Json) → List Char → Prop
  | last {depth : Nat} {cs s named value behind rest : List Char} {v : Json}
      (hname : IsText cs s named) (hcolon : skip named = ':' :: value)
      (hv : IsValue depth (skip value) v behind) (hclose : skip behind = '\x7d' :: rest) :
      IsFields depth ('"' :: cs) [(String.ofList s, v)] rest
  | more {depth : Nat} {cs s named value behind next rest : List Char} {v : Json}
      {fields : List (String × Json)} (hname : IsText cs s named)
      (hcolon : skip named = ':' :: value) (hv : IsValue depth (skip value) v behind)
      (hcomma : skip behind = ',' :: next) (h : IsFields depth (skip next) fields rest) :
      IsFields depth ('"' :: cs) ((String.ofList s, v) :: fields) rest

end

theorem readValue_scalar (hquote : c ≠ '"') (hlist : c ≠ '[') (hobject : c ≠ '\x7b') :
    readValue (fuel + 1) depth (c :: cs) = readScalar (c :: cs) := by
  unfold readValue readScalar
  split <;> first | rfl | simp_all

/-! ### What is read is there -/

section
variable (ihv : ∀ depth cs v rest, readValue fuel depth cs = .ok (v, rest) →
    IsValue depth cs v rest)

include ihv in
theorem isItems_of_readItems (ih : ∀ depth cs vs rest, readItems fuel depth cs = .ok (vs, rest) →
      IsItems depth cs vs rest) (h : readItems (fuel + 1) depth cs = .ok (vs, rest)) :
    IsItems depth cs vs rest := by
  rw [readItems] at h
  obtain ⟨⟨v, behind⟩, hv, h⟩ := exists_of_bind h
  have hvalue := ihv depth cs v behind hv
  dsimp only at h
  split at h
  · rename_i hclose
    cases h
    exact .last hvalue hclose
  · rename_i hcomma
    obtain ⟨⟨more, end_⟩, hmore, h⟩ := exists_of_bind h
    cases h
    exact .more hvalue hcomma (ih depth _ more _ hmore)
  · cases h

include ihv in
theorem isFields_of_readFields (ih : ∀ depth cs fields rest,
      readFields fuel depth cs = .ok (fields, rest) → IsFields depth cs fields rest)
    (h : readFields (fuel + 1) depth cs = .ok (fields, rest)) : IsFields depth cs fields rest := by
  unfold readFields at h
  split at h
  · obtain ⟨⟨name, named⟩, hname, h⟩ := exists_of_bind h
    obtain ⟨s, hs, rfl⟩ := isText_of_readText hname
    dsimp only at h
    split at h
    · rename_i hcolon
      obtain ⟨⟨v, behind⟩, hv, h⟩ := exists_of_bind h
      have hvalue := ihv depth _ v behind hv
      dsimp only at h
      split at h
      · rename_i hclose
        cases h
        exact .last hs hcolon hvalue hclose
      · rename_i hcomma
        obtain ⟨⟨more, end_⟩, hmore, h⟩ := exists_of_bind h
        cases h
        exact .more hs hcolon hvalue hcomma (ih depth _ more _ hmore)
      · cases h
    · cases h
  · cases h

end

theorem isValue_of_read (fuel : Nat) :
    (∀ depth cs v rest, readValue fuel depth cs = .ok (v, rest) → IsValue depth cs v rest) ∧
    (∀ depth cs vs rest, readItems fuel depth cs = .ok (vs, rest) → IsItems depth cs vs rest) ∧
    (∀ depth cs fields rest, readFields fuel depth cs = .ok (fields, rest) →
      IsFields depth cs fields rest) := by
  induction fuel with
  | zero => exact ⟨nofun, nofun, nofun⟩
  | succ fuel ih =>
      obtain ⟨ihv, ihi, ihf⟩ := ih
      refine ⟨fun depth cs v rest h => ?_, fun depth cs vs rest h => isItems_of_readItems ihv ihi h,
        fun depth cs fields rest h => isFields_of_readFields ihv ihf h⟩
      unfold readValue at h
      split at h
      · cases h
      · obtain ⟨⟨text, end_⟩, htext, h⟩ := exists_of_bind h
        obtain ⟨s, hs, rfl⟩ := isText_of_readText htext
        cases h
        exact .text hs
      · cases depth with
        | zero => cases h
        | succ depth =>
            rw [if_neg (Nat.succ_ne_zero depth)] at h
            split at h
            · rename_i hclose
              cases h
              exact .noItems hclose
            · obtain ⟨⟨items, end_⟩, hitems, h⟩ := exists_of_bind h
              cases h
              exact .items (ihi depth _ items rest hitems)
      · cases depth with
        | zero => cases h
        | succ depth =>
            rw [if_neg (Nat.succ_ne_zero depth)] at h
            split at h
            · rename_i hclose
              cases h
              exact .noFields hclose
            · obtain ⟨⟨fields, end_⟩, hfields, h⟩ := exists_of_bind h
              cases h
              exact .fields (ihf depth _ fields rest hfields)
      · exact .scalar h

/-! ### What is there is read -/

theorem length_skip_le (cs : List Char) : (skip cs).length ≤ cs.length :=
  (List.dropWhile_suffix _).length_le

theorem length_of_skip (h : skip cs = c :: rest) : rest.length < cs.length := by
  have hle := length_skip_le cs
  rw [h] at hle
  exact hle

mutual

theorem IsValue.length_lt : ∀ {depth : Nat} {cs : List Char} {v : Json} {rest : List Char},
    IsValue depth cs v rest → rest.length < cs.length
  | _, _, _, _, .text h => Nat.lt_succ_of_lt h.length_lt
  | _, _, _, _, .scalar h => (readScalar_takes h).2
  | _, _, _, _, .noItems h => Nat.lt_succ_of_lt (length_of_skip h)
  | _, _, _, _, .items h => Nat.lt_succ_of_lt (h.length_lt.trans_le (length_skip_le _))
  | _, _, _, _, .noFields h => Nat.lt_succ_of_lt (length_of_skip h)
  | _, _, _, _, .fields h => Nat.lt_succ_of_lt (h.length_lt.trans_le (length_skip_le _))

theorem IsItems.length_lt : ∀ {depth : Nat} {cs : List Char} {vs : List Json} {rest : List Char},
    IsItems depth cs vs rest → rest.length < cs.length
  | _, _, _, _, .last hv hclose => (length_of_skip hclose).trans hv.length_lt
  | _, _, _, _, .more hv hcomma h =>
      ((h.length_lt.trans_le (length_skip_le _)).trans (length_of_skip hcomma)).trans hv.length_lt

theorem IsFields.length_lt : ∀ {depth : Nat} {cs : List Char} {fields : List (String × Json)}
    {rest : List Char}, IsFields depth cs fields rest → rest.length < cs.length
  | _, _, _, _, .last hname hcolon hv hclose =>
      have hvalue := (length_of_skip hclose).trans (hv.length_lt.trans_le (length_skip_le _))
      Nat.lt_succ_of_lt ((hvalue.trans (length_of_skip hcolon)).trans hname.length_lt)
  | _, _, _, _, .more hname hcolon hv hcomma h =>
      have hnext := (h.length_lt.trans_le (length_skip_le _)).trans (length_of_skip hcomma)
      have hvalue := hnext.trans (hv.length_lt.trans_le (length_skip_le _))
      Nat.lt_succ_of_lt ((hvalue.trans (length_of_skip hcolon)).trans hname.length_lt)

end

theorem readScalar_head (h : readScalar cs = .ok (v, rest)) :
    ∃ c more, cs = c :: more ∧ isScalarChar c = true := by
  obtain ⟨⟨eaten, heaten, rfl⟩, hshort⟩ := readScalar_takes h
  cases eaten with
  | nil => exact absurd hshort (Nat.lt_irrefl _)
  | cons c eaten => exact ⟨c, _, rfl, heaten c List.mem_cons_self⟩

theorem IsValue.head (h : IsValue depth cs v rest) : ∃ c more, cs = c :: more ∧
    (c = '"' ∨ c = '[' ∨ c = '\x7b' ∨ isScalarChar c = true) := by
  cases h with
  | text _ => exact ⟨_, _, rfl, .inl rfl⟩
  | noItems _ | items _ => exact ⟨_, _, rfl, .inr (.inl rfl)⟩
  | noFields _ | fields _ => exact ⟨_, _, rfl, .inr (.inr (.inl rfl))⟩
  | scalar h =>
      obtain ⟨c, more, rfl, hc⟩ := readScalar_head h
      exact ⟨c, more, rfl, .inr (.inr (.inr hc))⟩

theorem IsValue.ne_close (h : IsValue depth cs v rest) : cs ≠ ']' :: behind := by
  rintro rfl
  obtain ⟨c, more, heq, hc⟩ := h.head
  cases heq
  exact absurd hc (by decide)

theorem IsItems.ne_close (h : IsItems depth cs vs rest) : cs ≠ ']' :: behind := by
  cases h with
  | last hv _ => exact hv.ne_close
  | more hv _ _ => exact hv.ne_close

theorem IsFields.ne_close (h : IsFields depth cs fields rest) : cs ≠ '\x7d' :: behind := by
  cases h <;> nofun

section
variable (ihv : ∀ depth cs v rest, IsValue depth cs v rest → 2 * cs.length ≤ fuel →
    readValue fuel depth cs = .ok (v, rest))

include ihv in
theorem readItems_of_isItems (ih : ∀ depth cs vs rest, IsItems depth cs vs rest →
      2 * cs.length < fuel → readItems fuel depth cs = .ok (vs, rest))
    (h : IsItems depth cs vs rest) (hfuel : 2 * cs.length < fuel + 1) :
    readItems (fuel + 1) depth cs = .ok (vs, rest) := by
  rw [readItems]
  cases h with
  | last hv hclose =>
      refine bind_eq_ok_iff.mpr ⟨_, ihv _ _ _ _ hv (Nat.le_of_lt_succ hfuel), ?_⟩
      simp only [hclose]
      rfl
  | @more _ _ behind next _ _ _ hv hcomma h =>
      have hbehind := hv.length_lt
      have hnext := (length_skip_le next).trans_lt (length_of_skip hcomma)
      have hmore := ih _ _ _ _ h (by omega)
      refine bind_eq_ok_iff.mpr ⟨_, ihv _ _ _ _ hv (Nat.le_of_lt_succ hfuel), ?_⟩
      simp only [hcomma, hmore]
      rfl

include ihv in
theorem readFields_of_isFields (ih : ∀ depth cs fields rest, IsFields depth cs fields rest →
      2 * cs.length < fuel → readFields fuel depth cs = .ok (fields, rest))
    (h : IsFields depth cs fields rest) (hfuel : 2 * cs.length < fuel + 1) :
    readFields (fuel + 1) depth cs = .ok (fields, rest) := by
  cases h with
  | @last _ cs _ named value _ _ _ hname hcolon hv hclose =>
      have hnamed := (length_of_skip hcolon).trans hname.length_lt
      have hvalue := (length_skip_le value).trans_lt hnamed
      rw [List.length_cons] at hfuel
      rw [readFields]
      refine bind_eq_ok_iff.mpr ⟨_, hname.readText (Nat.lt_succ_self _), ?_⟩
      simp only [hcolon]
      refine bind_eq_ok_iff.mpr ⟨_, ihv _ _ _ _ hv (by omega), ?_⟩
      simp only [hclose]
      rfl
  | @more _ cs _ named value behind next _ _ _ hname hcolon hv hcomma h =>
      have hnamed := (length_of_skip hcolon).trans hname.length_lt
      have hvalue := (length_skip_le value).trans_lt hnamed
      have hnext := ((length_skip_le next).trans_lt (length_of_skip hcomma)).trans hv.length_lt
      rw [List.length_cons] at hfuel
      have hmore := ih _ _ _ _ h (by omega)
      rw [readFields]
      refine bind_eq_ok_iff.mpr ⟨_, hname.readText (Nat.lt_succ_self _), ?_⟩
      simp only [hcolon]
      refine bind_eq_ok_iff.mpr ⟨_, ihv _ _ _ _ hv (by omega), ?_⟩
      simp only [hcomma, hmore]
      rfl

end

theorem read_of_isValue (fuel : Nat) :
    (∀ depth cs v rest, IsValue depth cs v rest → 2 * cs.length ≤ fuel →
      readValue fuel depth cs = .ok (v, rest)) ∧
    (∀ depth cs vs rest, IsItems depth cs vs rest → 2 * cs.length < fuel →
      readItems fuel depth cs = .ok (vs, rest)) ∧
    (∀ depth cs fields rest, IsFields depth cs fields rest → 2 * cs.length < fuel →
      readFields fuel depth cs = .ok (fields, rest)) := by
  induction fuel with
  | zero =>
      refine ⟨fun depth cs v rest h hfuel => ?_, nofun, nofun⟩
      have hshort := h.length_lt
      omega
  | succ fuel ih =>
      obtain ⟨ihv, ihi, ihf⟩ := ih
      refine ⟨fun depth cs v rest h hfuel => ?_,
        fun depth cs vs rest h hfuel => readItems_of_isItems ihv ihi h hfuel,
        fun depth cs fields rest h hfuel => readFields_of_isFields ihv ihf h hfuel⟩
      cases h with
      | text h =>
          rw [readValue]
          exact bind_eq_ok_iff.mpr ⟨_, h.readText (Nat.lt_succ_self _), rfl⟩
      | noItems h => simp only [readValue, Nat.succ_ne_zero, if_false, h]
      | noFields h => simp only [readValue, Nat.succ_ne_zero, if_false, h]
      | @items depth cs _ _ h =>
          have hskip := length_skip_le cs
          rw [List.length_cons] at hfuel
          simp only [readValue, Nat.succ_ne_zero, if_false, Nat.add_sub_cancel]
          split
          · rename_i hclose
            exact absurd hclose h.ne_close
          · exact bind_eq_ok_iff.mpr ⟨_, ihi _ _ _ _ h (by omega), rfl⟩
      | @fields depth cs _ _ h =>
          have hskip := length_skip_le cs
          rw [List.length_cons] at hfuel
          simp only [readValue, Nat.succ_ne_zero, if_false, Nat.add_sub_cancel]
          split
          · rename_i hclose
            exact absurd hclose h.ne_close
          · exact bind_eq_ok_iff.mpr ⟨_, ihf _ _ _ _ h (by omega), rfl⟩
      | scalar h =>
          obtain ⟨c, more, rfl, hc⟩ := readScalar_head h
          have hne {d : Char} (hd : isScalarChar d = false) : c ≠ d := by
            rintro rfl
            rw [hc] at hd
            cases hd
          rw [readValue_scalar (hne (by decide)) (hne (by decide)) (hne (by decide)), h]

/-! ### Documents -/

/-- A value alone, with blanks around it. -/
def IsJson (cs : List Char) (v : Json) : Prop :=
  ∃ rest, IsValue depthLimit (skip cs) v rest ∧ skip rest = []

theorem read_eq_ok : read cs = .ok v ↔ IsJson cs v := by
  constructor
  · intro h
    unfold read at h
    split at h
    · cases h
    · obtain ⟨⟨w, rest⟩, hvalue, h⟩ := exists_of_bind h
      dsimp only at h
      split at h
      · rename_i hrest
        cases h
        exact ⟨rest, (isValue_of_read _).1 _ _ _ _ hvalue, hrest⟩
      · cases h
  · rintro ⟨rest, hvalue, hrest⟩
    have hskip := length_skip_le cs
    unfold read
    split
    · -- no value begins with the mark
      obtain ⟨c, more, hc, hhead⟩ := hvalue.head
      cases hc
      exact absurd hhead (by decide)
    · refine bind_eq_ok_iff.mpr ⟨_, (read_of_isValue _).1 _ _ _ _ hvalue (by omega), ?_⟩
      simp only [hrest]
      rfl

end Dialogue.Json
