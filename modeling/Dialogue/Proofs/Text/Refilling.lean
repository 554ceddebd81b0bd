import Dialogue.Proofs.Bindings
import Dialogue.Proofs.Text.Dissection

/-!
# Texts filled twice

Where every open brace of a text belongs to a token and no value has one, what comes in the place
of a token makes no new token and hides none. So a second filling changes nothing, and the tokens
that are left are those whose names stand for nothing (`Variables.interpolate_idempotent`).
-/
namespace Dialogue

/-- Every open brace of a text belongs to a token. -/
def Enclosed (text : List Char) : Prop :=
  ∀ i, text[i]? = some '\x7b' → ∃ front name back, IsName name ∧
    text = front ++ (Dissection.token name ++ back) ∧
    front.length ≤ i ∧ i < front.length + (Dissection.token name).length

variable {text front behind rest name : List Char} {c : Char}

theorem not_startsToken_inside (hname : IsName name)
    (hsplit : Dissection.token name ++ rest = front ++ behind) (hpos : front ≠ [])
    (hinside : front.length < (Dissection.token name).length) : ¬ StartsToken behind := by
  have hopen : Text.isWord '\x7b' = false := by decide +kernel
  rintro ⟨other, more, -, rfl⟩
  rw [Dissection.token, source_token, source_token] at hsplit
  rcases front with _ | ⟨b, _ | ⟨b', front⟩⟩
  · exact hpos rfl
  · -- the second brace of the other token would be the first character of the name
    obtain ⟨a, name, rfl⟩ := List.exists_cons_of_ne_nil hname.ne_nil
    simp only [List.cons_append, List.nil_append, List.cons.injEq] at hsplit
    exact hname.not_mem hopen (hsplit.2.2.1 ▸ List.mem_cons_self)
  · have hrest : (name ++ ['\x7d', '\x7d']) ++ rest = front ++ '\x7b' :: '\x7b' ::
        (other ++ '\x7d' :: '\x7d' :: more) := by
      simp only [List.cons_append, List.cons.injEq] at hsplit
      simpa using hsplit.2.2
    have hshort : front.length < (name ++ ['\x7d', '\x7d']).length := by
      simp [Dissection.token, Piece.source, tokenOpen, tokenClose] at hinside ⊢
      omega
    have hbrace : (name ++ ['\x7d', '\x7d'])[front.length]? = some '\x7b' := by
      have hfirst : (name ++ ['\x7d', '\x7d'] ++ rest)[front.length]? = some '\x7b' := by
        rw [hrest]
        simp
      rwa [List.getElem?_append_left hshort] at hfirst
    have hmem := List.mem_of_getElem? hbrace
    exact hname.not_mem hopen (by simpa using hmem)

theorem enclosed_source (hname : IsName name) :
    Enclosed ((Piece.token name).source ++ rest) ↔ Enclosed rest := by
  show Enclosed (Dissection.token name ++ rest) ↔ Enclosed rest
  constructor
  · intro h i hi
    obtain ⟨front, other, back, hother, hsplit, hfrom, hto⟩ :=
      h ((Dissection.token name).length + i) (by simpa [List.getElem?_append_right] using hi)
    have hbehind : (Dissection.token name).length ≤ front.length := by
      by_contra hshort
      rw [not_le] at hshort
      cases front with
      | nil =>
          -- both tokens start the text, so they are one
          have hsame : name = other := by
            have hat := tokenAt?_source hname rest
            rw [show (Piece.token name).source ++ rest = (Piece.token other).source ++ back from
              hsplit, tokenAt?_source hother back] at hat
            exact (Option.some.inj hat).symm
          simp only [hsame, List.length_nil] at hto
          omega
      | cons b front =>
          exact not_startsToken_inside hname hsplit (List.cons_ne_nil b front) hshort
            ⟨other, back, hother, rfl⟩
    obtain ⟨front, rfl⟩ : Dissection.token name <+: front :=
      List.prefix_of_prefix_length_le (List.prefix_append _ rest)
        (by rw [hsplit]; exact List.prefix_append _ _) hbehind
    rw [List.append_assoc] at hsplit
    rw [List.length_append] at hfrom hto
    exact ⟨front, other, back, hother, List.append_cancel_left hsplit, by omega, by omega⟩
  · intro h i hi
    by_cases hin : i < (Dissection.token name).length
    · exact ⟨[], name, rest, hname, rfl, by simp, by simpa using hin⟩
    · rw [List.getElem?_append_right (by omega)] at hi
      obtain ⟨front, other, back, hother, rfl, hfrom, hto⟩ := h _ hi
      refine ⟨Dissection.token name ++ front, other, back, hother, by simp, ?_, ?_⟩ <;>
        rw [List.length_append] <;> omega

theorem enclosed_cons (hplain : tokenAt? (c :: rest) = none) :
    Enclosed (c :: rest) ↔ c ≠ '\x7b' ∧ Enclosed rest := by
  rw [tokenAt?_eq_none_iff] at hplain
  -- a token of the text is one of what is behind the first character
  have hbehind : ∀ {front name back}, IsName name →
      c :: rest = front ++ (Dissection.token name ++ back) →
      ∃ front', front = c :: front' ∧ rest = front' ++ (Dissection.token name ++ back) := by
    intro front name back hname hsplit
    cases front with
    | nil => exact absurd ⟨name, back, hname, hsplit⟩ hplain
    | cons b front =>
        obtain ⟨rfl, hrest⟩ := List.cons.inj hsplit
        exact ⟨front, rfl, hrest⟩
  constructor
  · intro h
    constructor
    · rintro rfl
      obtain ⟨front, name, back, hname, hsplit, hfrom, -⟩ := h 0 rfl
      obtain ⟨front, rfl, -⟩ := hbehind hname hsplit
      simp at hfrom
    · intro i hi
      obtain ⟨front, name, back, hname, hsplit, hfrom, hto⟩ := h (i + 1) (by simpa using hi)
      obtain ⟨front, rfl, hrest⟩ := hbehind hname hsplit
      rw [List.length_cons] at hfrom hto
      exact ⟨front, name, back, hname, hrest, by omega, by omega⟩
  · rintro ⟨hc, h⟩ i hi
    cases i with
    | zero => exact absurd (by simpa using hi) hc
    | succ i =>
        obtain ⟨front, name, back, hname, rfl, hfrom, hto⟩ := h i (by simpa using hi)
        refine ⟨c :: front, name, back, hname, rfl, ?_, ?_⟩ <;> rw [List.length_cons] <;> omega

/-- The scan of a text meets no open brace outside the tokens. -/
theorem enclosed_iff (text : List Char) : Enclosed text ↔ .plain '\x7b' ∉ pieces text := by
  induction text using pieces_induction with
  | nil => simp [Enclosed, pieces, piecesAfter]
  | token name rest hname ih => simp [enclosed_source hname, pieces_source hname, ih]
  | plain c rest hplain ih => simp [enclosed_cons hplain, pieces_cons hplain, ih, eq_comm]

instance (text : List Char) : Decidable (Enclosed text) :=
  decidable_of_iff _ (enclosed_iff text).symm

/-! ### Filling again -/

section
variable {stand : List Char → List Char}

/-- What stands for a name is the token itself or a text without open braces. -/
def Settles (stand : List Char → List Char) : Prop :=
  ∀ name, IsName name → stand name = Dissection.token name ∨ '\x7b' ∉ stand name

theorem fillTokens_fillTokens (hstand : Settles stand) (h : Enclosed text) :
    fillTokens stand (fillTokens stand text) = fillTokens stand text := by
  induction text using pieces_induction with
  | nil => rfl
  | token name rest hname ih =>
      rw [fillTokens_source stand hname]
      have hrest := ih ((enclosed_source hname).mp h)
      rcases hstand name hname with hleft | hfree
      · rw [hleft, Dissection.token, fillTokens_source stand hname, hrest, hleft]
        rfl
      · rw [fillTokens_append stand hfree, hrest]
  | plain c rest hplain ih =>
      obtain ⟨hc, henclosed⟩ := (enclosed_cons hplain).mp h
      rw [fillTokens_cons stand hplain, fillTokens_cons stand (tokenAt?_cons_of_ne hc _),
        ih henclosed]

theorem tokenNames_fillTokens (hstand : Settles stand) (h : Enclosed text) :
    tokenNames (fillTokens stand text) =
      (tokenNames text).filter fun name => stand name = Dissection.token name := by
  induction text using pieces_induction with
  | nil => rfl
  | token name rest hname ih =>
      rw [fillTokens_source stand hname, tokenNames_source hname, List.filter_cons]
      have hrest := ih ((enclosed_source hname).mp h)
      by_cases hleft : stand name = Dissection.token name
      · rw [if_pos (by simpa using hleft), hleft, Dissection.token, tokenNames_source hname, hrest]
      · have hfree := (hstand name hname).resolve_left hleft
        rw [if_neg (by simpa using hleft), tokenNames_append hfree, hrest]
  | plain c rest hplain ih =>
      obtain ⟨hc, henclosed⟩ := (enclosed_cons hplain).mp h
      rw [fillTokens_cons stand hplain, tokenNames_cons (tokenAt?_cons_of_ne hc _),
        tokenNames_cons hplain, ih henclosed]

end

namespace Variables

variable {vars : Variables} {contact : String}

/-- A name stands for nothing: it has no value, and it does not mean the contact. -/
def Unresolvable (vars : Variables) (contact name : String) : Prop :=
  Bindings.get? name vars = none ∧ ¬ vars.MeansContact contact name

instance (vars : Variables) (contact name : String) :
    Decidable (vars.Unresolvable contact name) := inferInstanceAs (Decidable (_ ∧ _))

/-- Neither the contact's name nor the text of a value has an open brace. -/
structure Braceless (vars : Variables) (contact : String) : Prop where
  contact : '\x7b' ∉ contact.toList
  values : ∀ name v, Bindings.get? name vars = some v → '\x7b' ∉ v.spoken.toList

theorem standIn_cases (h : vars.Braceless contact) (name : List Char) :
    vars.Unresolvable contact (String.ofList name) ∧
        vars.standIn contact name = Dissection.token name ∨
      ¬ vars.Unresolvable contact (String.ofList name) ∧ '\x7b' ∉ vars.standIn contact name := by
  unfold standIn Unresolvable
  by_cases hmeans : vars.MeansContact contact (String.ofList name)
  · exact .inr ⟨fun hnot => hnot.2 hmeans, by simpa only [if_pos hmeans] using h.contact⟩
  · simp only [if_neg hmeans]
    cases hget : Bindings.get? (String.ofList name) vars with
    | none => exact .inl ⟨⟨rfl, hmeans⟩, rfl⟩
    | some v => exact .inr ⟨by simp, h.values _ v hget⟩

theorem standIn_eq_token_iff (h : vars.Braceless contact) (name : List Char) :
    vars.standIn contact name = Dissection.token name ↔
      vars.Unresolvable contact (String.ofList name) := by
  rcases standIn_cases h name with ⟨hnot, hleft⟩ | ⟨hfound, hfree⟩
  · exact iff_of_true hleft hnot
  · refine iff_of_false (fun hleft => hfree ?_) hfound
    rw [hleft, Dissection.token, ← List.append_nil (Piece.token name).source, source_token]
    exact List.mem_cons_self

/-- Filling a text twice is filling it once, where the braces of the text are those of its tokens
and the values have none. The tokens that are left are the ones that stand for nothing, in their
order. -/
theorem interpolate_idempotent (h : vars.Braceless contact) {text : String}
    (htext : Enclosed text.toList) :
    vars.interpolate contact (vars.interpolate contact text) = vars.interpolate contact text ∧
      tokenNames (vars.interpolate contact text).toList =
        (tokenNames text.toList).filter fun name =>
          vars.Unresolvable contact (String.ofList name) := by
  have hstand : Settles (vars.standIn contact) := fun name _ =>
    (standIn_cases h name).imp And.right And.right
  constructor
  · rw [← String.toList_inj]
    simp only [toList_interpolate]
    exact fillTokens_fillTokens hstand htext
  · rw [toList_interpolate, tokenNames_fillTokens hstand htext]
    simp only [standIn_eq_token_iff h]

/-- Three tokens give way to values and one is left. -/
theorem offer_idempotent :
    let vars : Variables := [("nome", .str "Cliente Teste"), ("telefone", .str "+5548999999999"),
      ("valor", .float (.ofInt 1500))]
    let text := "\x7b\x7bnome\x7d\x7d (\x7b\x7btelefone\x7d\x7d) ofereceu " ++
      "\x7b\x7bvalor\x7d\x7d por \x7b\x7bimovel\x7d\x7d"
    vars.Braceless "Ana" ∧ Enclosed text.toList ∧
      vars.interpolate "Ana" text =
        "Cliente Teste (+5548999999999) ofereceu 1500 por \x7b\x7bimovel\x7d\x7d" ∧
      vars.interpolate "Ana" (vars.interpolate "Ana" text) = vars.interpolate "Ana" text ∧
      tokenNames (vars.interpolate "Ana" text).toList = ["imovel".toList] := by
  intro vars text
  have hvars : vars.Braceless "Ana" := by
    refine ⟨by decide, fun name v hget => ?_⟩
    have hall : ∀ b ∈ vars, '\x7b' ∉ b.2.spoken.toList := by decide
    exact hall (name, v) ((Bindings.get?_eq_some_iff (by decide)).mp hget)
  have htext : Enclosed text.toList := by decide +kernel
  obtain ⟨hagain, hleft⟩ := interpolate_idempotent hvars htext
  refine ⟨hvars, htext, by decide +kernel, hagain, ?_⟩
  rw [hleft]
  decide +kernel

end Variables
end Dialogue
