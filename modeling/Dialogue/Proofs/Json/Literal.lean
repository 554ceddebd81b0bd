import Dialogue.Proofs.Json.Grammar
import Dialogue.Proofs.Text.Tokens

/-!
# Tokens inside texts

A text in a JSON document is read with its escapes resolved. Where no token is spelled with an
escape, the tokens are in the same places before and after (`Written`), and what fits between quotes
as it is may be put in their places without touching anything else (`Written.isText`).
-/
namespace Dialogue.Json

/-! ### Escapes -/

/-- Four hexadecimal digits, and the code unit they give. -/
inductive IsCodeUnit : List Char → Nat → Prop
  | mk {a b c d : Char} {x y z t : Nat} (ha : Text.hexValue? a = some x)
      (hb : Text.hexValue? b = some y) (hc : Text.hexValue? c = some z)
      (hd : Text.hexValue? d = some t) : IsCodeUnit [a, b, c, d] (((x * 16 + y) * 16 + z) * 16 + t)

/-- What may stand behind a backslash for a character. Half a pair of code units stands for none. -/
inductive Spells : List Char → Char → Prop
  | simple {a c : Char} (h : simpleEscape? a = some c) : Spells [a] c
  | unit {w : List Char} {n : Nat} (h : IsCodeUnit w n) (hn : ¬ (0xd800 ≤ n ∧ n < 0xe000)) :
      Spells ('u' :: w) (Char.ofNat n)
  | pair {w x : List Char} {high low : Nat} (hw : IsCodeUnit w high)
      (hhigh : 0xd800 ≤ high ∧ high < 0xdc00) (hx : IsCodeUnit x low)
      (hlow : 0xdc00 ≤ low ∧ low < 0xe000) :
      Spells ('u' :: (w ++ '\\' :: 'u' :: x))
        (Char.ofNat (0x10000 + (high - 0xd800) * 0x400 + (low - 0xdc00)))

variable {cs ds rest s w name : List Char} {c : Char} {n : Nat} {stand : List Char → List Char}

theorem IsCodeUnit.unit? (h : IsCodeUnit w n) (hrest : rest ≠ []) :
    unit? (w ++ rest) = some (n, rest) := by
  cases h with
  | mk ha hb hc hd => simp [Json.unit?, ha, hb, hc, hd, hrest]

theorem IsCodeUnit.unit?_self (h : IsCodeUnit w n) : Json.unit? w = none := by
  cases h with
  | mk => rfl

theorem IsCodeUnit.length_eq (h : IsCodeUnit w n) : w.length = 4 := by
  cases h with
  | mk => rfl

theorem IsCodeUnit.not_mem (h : IsCodeUnit w n) (hc : Text.hexValue? c = none) : c ∉ w := by
  cases h with
  | mk ha hb hd he =>
      have hne {a : Char} {x : Nat} (ha : Text.hexValue? a = some x) : c ≠ a := by
        rintro rfl
        rw [hc] at ha
        cases ha
      simp [hne ha, hne hb, hne hd, hne he]

theorem Spells.escape? (h : Spells w c) (hrest : rest ≠ []) :
    Json.escape? (w ++ rest) = some (c, rest) := by
  cases h with
  | @simple a _ h =>
      have ha : a ≠ 'u' := by
        rintro rfl
        cases h
      rw [List.singleton_append, Json.escape?, h]
      · rfl
      · exact fun hu => ha hu
  | @unit w n h hn =>
      have hhigh : ¬ (0xd800 ≤ n ∧ n < 0xdc00) := by omega
      have hlow : ¬ (0xdc00 ≤ n ∧ n < 0xe000) := by omega
      simp only [List.cons_append, Json.escape?, h.unit? hrest, hhigh, hlow, if_false]
  | @pair w x high low hw hhigh hx hlow =>
      have hbehind : w ++ '\\' :: 'u' :: x ++ rest = w ++ ('\\' :: 'u' :: (x ++ rest)) := by simp
      simp only [List.cons_append, hbehind, Json.escape?, hw.unit? (List.cons_ne_nil _ _), hhigh,
        hx.unit? hrest, hlow, and_self, if_true]

theorem Spells.not_mem_brace (h : Spells w c) : '\x7b' ∉ w := by
  have hbrace : Text.hexValue? '\x7b' = none := by decide
  cases h with
  | @simple a _ h =>
      rintro hmem
      rw [← List.mem_singleton.mp hmem] at h
      cases h
  | unit h _ => simpa using h.not_mem hbrace
  | pair hw _ hx _ => simpa using ⟨hw.not_mem hbrace, hx.not_mem hbrace⟩

theorem IsCodeUnit.not_isText (h : IsCodeUnit w n) : ¬ IsText ('\\' :: 'u' :: w) s rest := by
  intro htext
  cases htext with
  | char _ hslash => exact hslash rfl
  | escape he _ =>
      simp only [Json.escape?, h.unit?_self] at he
      cases he

theorem Spells.not_isText (h : Spells w c) : ¬ IsText ('\\' :: w) s rest := by
  intro htext
  cases h with
  | @simple a _ h =>
      cases htext with
      | char _ hslash => exact hslash rfl
      | escape he hbehind =>
          have hshort := length_of_escape? he
          have hlength := hbehind.length_lt
          rw [List.length_singleton] at hshort
          omega
  | unit h _ => exact h.not_isText htext
  | pair hw hhigh hx _ =>
      cases htext with
      | char _ hslash => exact hslash rfl
      | escape he hbehind =>
          -- the second half is cut short, so it is read by itself
          simp only [Json.escape?, hw.unit? (List.cons_ne_nil _ _), hhigh, hx.unit?_self,
            hx.length_eq, and_self, le_refl, if_true, Option.some.injEq, Prod.mk.injEq] at he
          obtain ⟨-, rfl⟩ := he
          exact hx.not_isText hbehind

/-- A text, with its escapes resolved. -/
inductive Resolves : List Char → List Char → Prop
  | nil : Resolves [] []
  | char {c : Char} {cs ds : List Char} (hc : c ≠ '\\') (h : Resolves cs ds) :
      Resolves (c :: cs) (c :: ds)
  | escape {w cs ds : List Char} {c : Char} (hw : Spells w c) (h : Resolves cs ds) :
      Resolves ('\\' :: (w ++ cs)) (c :: ds)

theorem resolves_self (h : '\\' ∉ cs) : Resolves cs cs := by
  induction cs with
  | nil => exact .nil
  | cons c cs ih =>
      have hne : c ≠ '\\' := (List.ne_of_not_mem_cons h).symm
      exact .char hne (ih (List.not_mem_of_not_mem_cons h))

theorem Resolves.of_cons (h : Resolves (c :: cs) ds) (hc : c ≠ '\\') :
    ∃ ds', ds = c :: ds' ∧ Resolves cs ds' := by
  cases h with
  | char _ h => exact ⟨_, rfl, h⟩
  | escape => exact absurd rfl hc

theorem Resolves.of_append (h : Resolves (w ++ cs) ds) (hw : '\\' ∉ w) :
    ∃ ds', ds = w ++ ds' ∧ Resolves cs ds' := by
  induction w generalizing ds with
  | nil => exact ⟨ds, rfl, h⟩
  | cons c w ih =>
      obtain ⟨behind, rfl, htail⟩ := h.of_cons (List.ne_of_not_mem_cons hw).symm
      obtain ⟨ds, rfl, hrest⟩ := ih htail (List.not_mem_of_not_mem_cons hw)
      exact ⟨ds, rfl, hrest⟩

/-! ### Tokens in the same places -/

/-- What may stand between quotes as it is. -/
def Fits (w : List Char) : Prop := ∀ c ∈ w, c ≠ '"' ∧ c ≠ '\\' ∧ 0x20 ≤ c.toNat

instance (w : List Char) : Decidable (Fits w) := List.decidableBAll _ w

theorem Fits.not_mem_slash (h : Fits w) : '\\' ∉ w := fun hc => (h _ hc).2.1 rfl

theorem fits_of_isName (h : IsName name) : Fits name := by
  have hquote : Text.isWord '"' = false := by decide +kernel
  have hslash : Text.isWord '\\' = false := by decide +kernel
  have hcontrol : ∀ n < 0x20, Text.isWord (Char.ofNat n) = false := by decide +kernel
  intro c hc
  refine ⟨fun heq => h.not_mem hquote (heq ▸ hc), fun heq => h.not_mem hslash (heq ▸ hc), ?_⟩
  refine Nat.le_of_not_lt fun hlow => h.not_mem (hcontrol c.toNat hlow) ?_
  rwa [Char.ofNat_toNat]

theorem fits_source (h : IsName name) : Fits (Piece.token name).source := by
  have hopen : Fits tokenOpen := by simp [Fits, tokenOpen]
  have hclose : Fits tokenClose := by simp [Fits, tokenClose]
  exact List.forall_mem_append.mpr ⟨List.forall_mem_append.mpr ⟨hopen, fits_of_isName h⟩, hclose⟩

/-- A token stays a token when the escapes behind it are resolved. -/
theorem Resolves.tokenAt? (h : Resolves cs ds) (hat : tokenAt? cs = some name) :
    tokenAt? ds = some name := by
  obtain ⟨hname, rest, rfl⟩ := exists_of_tokenAt? hat
  obtain ⟨ds, rfl, -⟩ := h.of_append (fits_source hname).not_mem_slash
  exact tokenAt?_source hname ds

theorem length_tokenNames_le_cons (c : Char) (cs : List Char) :
    (tokenNames cs).length ≤ (tokenNames (c :: cs)).length := by
  cases hat : tokenAt? (c :: cs) with
  | none => rw [tokenNames_cons hat]
  | some name =>
      rw [tokenNames_cons_of_tokenAt? hat]
      exact Nat.le_succ _

theorem Spells.tokenNames_eq (h : Spells w c) (cs : List Char) :
    tokenNames ('\\' :: (w ++ cs)) = tokenNames cs := by
  have hslash : '\\' ≠ '\x7b' := by decide
  rw [tokenNames_cons (tokenAt?_cons_of_ne hslash _), tokenNames_append h.not_mem_brace]

theorem Spells.fillTokens_eq (h : Spells w c) (cs : List Char) :
    fillTokens stand ('\\' :: (w ++ cs)) = '\\' :: (w ++ fillTokens stand cs) := by
  have hslash : '\\' ≠ '\x7b' := by decide
  rw [fillTokens_cons stand (tokenAt?_cons_of_ne hslash _),
    fillTokens_append stand h.not_mem_brace]

theorem Resolves.length_tokenNames_le (h : Resolves cs ds) :
    (tokenNames cs).length ≤ (tokenNames ds).length := by
  induction h with
  | nil => exact le_refl _
  | @char c cs ds hc h ih =>
      cases hat : Dialogue.tokenAt? (c :: cs) with
      | some name =>
          rw [tokenNames_cons_of_tokenAt? hat,
            tokenNames_cons_of_tokenAt? ((Resolves.char hc h).tokenAt? hat)]
          exact Nat.succ_le_succ ih
      | none =>
          rw [tokenNames_cons hat]
          exact ih.trans (length_tokenNames_le_cons c ds)
  | @escape w cs ds c hw h ih =>
      rw [hw.tokenNames_eq]
      exact ih.trans (length_tokenNames_le_cons c ds)

theorem Resolves.tokenAt?_eq_none (h : Resolves cs ds)
    (hnames : tokenNames (c :: ds) = tokenNames cs) : Dialogue.tokenAt? (c :: ds) = none := by
  cases hat : Dialogue.tokenAt? (c :: ds) with
  | none => rfl
  | some name =>
      have hle := h.length_tokenNames_le
      rw [← hnames, tokenNames_cons_of_tokenAt? hat] at hle
      exact absurd hle (Nat.not_succ_le_self _)

/-- A text and the same with its escapes resolved, with the same tokens, where what comes in the
place of each token fits. -/
inductive Written (stand : List Char → List Char) : List Char → List Char → Prop
  | nil : Written stand [] []
  | token {name cs ds : List Char} (hname : IsName name) (hfits : Fits (stand name))
      (h : Written stand cs ds) :
      Written stand ((Piece.token name).source ++ cs) ((Piece.token name).source ++ ds)
  | char {c : Char} {cs ds : List Char} (hc : c ≠ '\\') (hcs : tokenAt? (c :: cs) = none)
      (hds : tokenAt? (c :: ds) = none) (h : Written stand cs ds) :
      Written stand (c :: cs) (c :: ds)
  | escape {w cs ds : List Char} {c : Char} (hw : Spells w c) (hds : tokenAt? (c :: ds) = none)
      (h : Written stand cs ds) : Written stand ('\\' :: (w ++ cs)) (c :: ds)

/-- Where resolving the escapes makes no new tokens, they are in the same places. -/
theorem Resolves.written (h : Resolves cs ds) (hnames : tokenNames ds = tokenNames cs)
    (hfits : ∀ name ∈ tokenNames cs, Fits (stand name)) : Written stand cs ds := by
  -- on the length, as a token takes several characters
  induction hn : cs.length using Nat.strong_induction_on generalizing cs ds with
  | h n ih =>
      subst hn
      cases h with
      | nil => exact .nil
      | @char c cs ds hc h =>
          cases hat : Dialogue.tokenAt? (c :: cs) with
          | some name =>
              obtain ⟨hname, more, hcs⟩ := exists_of_tokenAt? hat
              have hshort : more.length < (c :: cs).length := by
                rw [hcs, source_token]
                simp only [List.length_cons, List.length_append]
                omega
              have hwhole : Resolves (c :: cs) (c :: ds) := .char hc h
              rw [hcs] at hwhole hnames hfits ⊢
              obtain ⟨ds, hds, hmore⟩ := hwhole.of_append (fits_source hname).not_mem_slash
              rw [tokenNames_source hname] at hnames hfits
              rw [hds, tokenNames_source hname] at hnames
              obtain ⟨hstand, hfits⟩ := List.forall_mem_cons.mp hfits
              rw [hds]
              exact .token hname hstand
                (ih more.length hshort hmore (List.cons.inj hnames).2 hfits rfl)
          | none =>
              rw [tokenNames_cons hat] at hnames hfits
              have hds := h.tokenAt?_eq_none hnames
              rw [tokenNames_cons hds] at hnames
              exact .char hc hat hds (ih cs.length (Nat.lt_succ_self _) h hnames hfits rfl)
      | @escape w cs ds c hw h =>
          rw [hw.tokenNames_eq] at hnames hfits
          have hds := h.tokenAt?_eq_none hnames
          rw [tokenNames_cons hds] at hnames
          have hshort : cs.length < ('\\' :: (w ++ cs)).length := by
            rw [List.length_cons, List.length_append]
            omega
          exact .escape hw hds (ih cs.length hshort h hnames hfits rfl)

/-! ### Filled texts -/

theorem IsText.append (h : IsText cs s rest) (hw : Fits w) : IsText (w ++ cs) (w ++ s) rest := by
  induction w with
  | nil => exact h
  | cons c w ih =>
      obtain ⟨⟨hquote, hslash, hc⟩, hw⟩ := List.forall_mem_cons.mp hw
      exact .char hquote hslash hc (ih hw)

theorem IsText.of_append (h : IsText (w ++ cs) s rest) (hw : Fits w) :
    ∃ s', s = w ++ s' ∧ IsText cs s' rest := by
  induction w generalizing s with
  | nil => exact ⟨s, rfl, h⟩
  | cons c w ih =>
      obtain ⟨⟨hquote, hslash, -⟩, hw⟩ := List.forall_mem_cons.mp hw
      rw [List.cons_append] at h
      cases h with
      | close => exact absurd rfl hquote
      | char _ _ _ htail =>
          obtain ⟨s, rfl, hrest⟩ := ih htail hw
          exact ⟨s, rfl, hrest⟩
      | escape => exact absurd rfl hslash

theorem Written.isText (hw : Written stand cs ds) (h : IsText cs s rest) :
    ∃ ds', Written stand rest ds' ∧ ds = s ++ '"' :: ds' ∧
      IsText (fillTokens stand cs) (fillTokens stand s) (fillTokens stand rest) := by
  induction hw generalizing s with
  | nil => cases h
  | @token name cs ds hname hfits hw ih =>
      obtain ⟨s, rfl, htail⟩ := h.of_append (fits_source hname)
      obtain ⟨ds', hrest, rfl, hfilled⟩ := ih htail
      refine ⟨ds', hrest, (List.append_assoc _ _ _).symm, ?_⟩
      rw [fillTokens_source stand hname, fillTokens_source stand hname]
      exact hfilled.append hfits
  | @char c cs ds hc hcs hds hw ih =>
      rw [fillTokens_cons stand hcs]
      cases h with
      | close => exact ⟨ds, hw, rfl, .close⟩
      | @char _ _ s _ hquote hslash hchar htail =>
          obtain ⟨ds', hrest, rfl, hfilled⟩ := ih htail
          refine ⟨ds', hrest, rfl, ?_⟩
          rw [fillTokens_cons stand (tokenAt?_eq_none_of_append hds)]
          exact .char hquote hslash hchar hfilled
      | escape => exact absurd rfl hc
  | @escape w cs ds c hspells hds hw ih =>
      have hne : cs ≠ [] := by
        rintro rfl
        rw [List.append_nil] at h
        exact hspells.not_isText h
      cases h with
      | char _ hslash => exact absurd rfl hslash
      | @escape _ _ behind s _ he htail =>
          rw [hspells.escape? hne] at he
          obtain ⟨rfl, rfl⟩ : c = _ ∧ cs = behind := by simpa using he
          obtain ⟨ds', hrest, rfl, hfilled⟩ := ih htail
          have hnonempty : fillTokens stand cs ≠ [] :=
            List.ne_nil_of_length_pos (Nat.zero_lt_of_lt hfilled.length_lt)
          refine ⟨ds', hrest, rfl, ?_⟩
          rw [hspells.fillTokens_eq, fillTokens_cons stand (tokenAt?_eq_none_of_append hds)]
          exact .escape (hspells.escape? hnonempty) hfilled

end Dialogue.Json
