import Dialogue.Token
import Mathlib.Data.List.TakeWhile

/-!
# Where tokens are

Whether a token starts in a place is told by what stands there alone (`tokenAt?_eq_none_iff`), and
tokens do not overlap, as a brace is no word character. So a text is read from left to right, a
token or a character at a time (`pieces_induction`).
-/
namespace Dialogue

/-- What may stand between the braces of a token. -/
structure IsName (name : List Char) : Prop where
  ne_nil : name ≠ []
  words : ∀ c ∈ name, Text.isWord c = true

instance (name : List Char) : Decidable (IsName name) :=
  decidable_of_iff (name ≠ [] ∧ name.all Text.isWord = true)
    ⟨fun h => ⟨h.1, List.all_eq_true.mp h.2⟩, fun h => ⟨h.ne_nil, List.all_eq_true.mpr h.words⟩⟩

/-- A text begins with a token. -/
def StartsToken (cs : List Char) : Prop :=
  ∃ name rest, IsName name ∧ cs = (Piece.token name).source ++ rest

variable {cs rest name w : List Char} {c : Char}

theorem IsName.not_mem (h : IsName name) (hc : Text.isWord c = false) : c ∉ name := by
  intro hmem
  rw [h.words c hmem] at hc
  cases hc

theorem source_token (name rest : List Char) : (Piece.token name).source ++ rest =
    '\x7b' :: '\x7b' :: (name ++ '\x7d' :: '\x7d' :: rest) := by
  simp [Piece.source, tokenOpen, tokenClose]

theorem tokenAt?_source (h : IsName name) (rest : List Char) :
    tokenAt? ((Piece.token name).source ++ rest) = some name := by
  have hclose : Text.isWord '\x7d' = false := by decide +kernel
  have hname : (name ++ '\x7d' :: '\x7d' :: rest).takeWhile Text.isWord = name := by
    rw [List.takeWhile_append_of_pos h.words]
    simp [hclose]
  rw [source_token, tokenAt?]
  simp only [List.drop_succ_cons, List.drop_zero, hname]
  rw [if_pos]
  exact ⟨rfl, h.ne_nil, by simp [tokenClose]⟩

theorem exists_of_tokenAt? (h : tokenAt? cs = some name) :
    IsName name ∧ ∃ rest, cs = (Piece.token name).source ++ rest := by
  have hwords : ∀ c ∈ (cs.drop 2).takeWhile Text.isWord, Text.isWord c = true :=
    fun c hc => List.mem_takeWhile_imp hc
  obtain ⟨behind, hbehind⟩ : (cs.drop 2).takeWhile Text.isWord <+: cs.drop 2 :=
    List.takeWhile_prefix _
  rw [tokenAt?] at h
  split at h
  · rename_i htoken
    obtain ⟨hopen, hne, hclose⟩ := htoken
    cases h
    generalize (cs.drop 2).takeWhile Text.isWord = name at *
    have hdrop : cs.drop (name.length + 2) = behind := by
      rw [Nat.add_comm, ← List.drop_drop, ← hbehind, List.drop_left]
    refine ⟨⟨hne, hwords⟩, behind.drop 2, ?_⟩
    rw [Piece.source, List.append_assoc, List.append_assoc, ← hclose, hdrop, List.take_append_drop,
      hbehind, ← hopen, List.take_append_drop]
  · cases h

theorem tokenAt?_eq_none_iff : tokenAt? cs = none ↔ ¬ StartsToken cs := by
  constructor
  · rintro hnone ⟨name, rest, hname, rfl⟩
    rw [tokenAt?_source hname] at hnone
    cases hnone
  · intro hstarts
    cases hat : tokenAt? cs with
    | none => rfl
    | some name =>
        obtain ⟨hname, rest, hcs⟩ := exists_of_tokenAt? hat
        exact absurd ⟨name, rest, hname, hcs⟩ hstarts

theorem tokenAt?_eq_none_of_append (h : tokenAt? (cs ++ rest) = none) : tokenAt? cs = none := by
  rw [tokenAt?_eq_none_iff] at h ⊢
  rintro ⟨name, more, hname, rfl⟩
  exact h ⟨name, more ++ rest, hname, List.append_assoc _ _ _⟩

theorem tokenAt?_cons_of_ne (h : c ≠ '\x7b') (rest : List Char) : tokenAt? (c :: rest) = none := by
  rw [tokenAt?_eq_none_iff]
  rintro ⟨name, more, -, hcs⟩
  rw [source_token] at hcs
  exact h (List.cons.inj hcs).1

theorem pieces_source (h : IsName name) (rest : List Char) :
    pieces ((Piece.token name).source ++ rest) = .token name :: pieces rest := by
  have hat := tokenAt?_source h rest
  rw [source_token] at hat ⊢
  simp only [pieces, piecesAfter, hat]
  rw [piecesAfter_eq]
  simp [pieces]

theorem pieces_cons (h : tokenAt? (c :: rest) = none) :
    pieces (c :: rest) = .plain c :: pieces rest := by
  simp only [pieces, piecesAfter, h]

/-- A text is read a token or a character at a time. -/
theorem pieces_induction {motive : List Char → Prop} (nil : motive [])
    (token : ∀ name rest, IsName name → motive rest →
      motive ((Piece.token name).source ++ rest))
    (plain : ∀ c rest, tokenAt? (c :: rest) = none → motive rest → motive (c :: rest))
    (cs : List Char) : motive cs := by
  -- on the length, as a token takes several characters
  induction hn : cs.length using Nat.strong_induction_on generalizing cs with
  | h n ih =>
      subst hn
      cases cs with
      | nil => exact nil
      | cons c rest =>
          cases hat : tokenAt? (c :: rest) with
          | none => exact plain c rest hat (ih rest.length (Nat.lt_succ_self _) rest rfl)
          | some name =>
              obtain ⟨hname, more, hcs⟩ := exists_of_tokenAt? hat
              rw [hcs]
              refine token name more hname (ih more.length ?_ more rfl)
              rw [hcs, source_token]
              simp only [List.length_cons, List.length_append]
              omega

theorem pieces_append (h : '\x7b' ∉ w) (rest : List Char) :
    pieces (w ++ rest) = w.map .plain ++ pieces rest := by
  induction w with
  | nil => rfl
  | cons c w ih =>
      have hc : c ≠ '\x7b' := fun hc => h (hc ▸ List.mem_cons_self)
      rw [List.cons_append, pieces_cons (tokenAt?_cons_of_ne hc _),
        ih fun hmem => h (List.mem_cons_of_mem c hmem)]
      rfl

/-! ### Filled texts -/

/-- What comes in the place of a piece, where `stand` gives it for a token by its name. -/
def Piece.fill (stand : List Char → List Char) : Piece → List Char
  | plain c => [c]
  | token name => stand name

def fillTokens (stand : List Char → List Char) (cs : List Char) : List Char :=
  (pieces cs).flatMap (Piece.fill stand)

section
variable (stand : List Char → List Char)

theorem fillTokens_source (h : IsName name) (rest : List Char) :
    fillTokens stand ((Piece.token name).source ++ rest) = stand name ++ fillTokens stand rest := by
  rw [fillTokens, pieces_source h]
  rfl

theorem fillTokens_cons (h : tokenAt? (c :: rest) = none) :
    fillTokens stand (c :: rest) = c :: fillTokens stand rest := by
  rw [fillTokens, pieces_cons h]
  rfl

theorem flatMap_fill_plain (w : List Char) : (w.map .plain).flatMap (Piece.fill stand) = w := by
  induction w with
  | nil => rfl
  | cons c w ih => exact congrArg (c :: ·) ih

theorem fillTokens_append (h : '\x7b' ∉ w) (rest : List Char) :
    fillTokens stand (w ++ rest) = w ++ fillTokens stand rest := by
  rw [fillTokens, pieces_append h, List.flatMap_append, flatMap_fill_plain]
  rfl

end

/-! ### Tokens by their names -/

def Piece.name? : Piece → Option (List Char)
  | plain _ => none
  | token name => some name

/-- The names of the tokens of a text, in order. -/
def tokenNames (cs : List Char) : List (List Char) := (pieces cs).filterMap Piece.name?

theorem tokenNames_source (h : IsName name) (rest : List Char) :
    tokenNames ((Piece.token name).source ++ rest) = name :: tokenNames rest := by
  rw [tokenNames, pieces_source h]
  rfl

theorem tokenNames_cons (h : tokenAt? (c :: rest) = none) :
    tokenNames (c :: rest) = tokenNames rest := by
  rw [tokenNames, pieces_cons h]
  rfl

theorem tokenNames_append (h : '\x7b' ∉ w) (rest : List Char) :
    tokenNames (w ++ rest) = tokenNames rest := by
  induction w with
  | nil => rfl
  | cons c w ih =>
      have hc : c ≠ '\x7b' := fun hc => h (hc ▸ List.mem_cons_self)
      rw [List.cons_append, tokenNames_cons (tokenAt?_cons_of_ne hc _),
        ih fun hmem => h (List.mem_cons_of_mem c hmem)]

theorem tokenNames_cons_of_tokenAt? (h : tokenAt? (c :: rest) = some name) :
    tokenNames (c :: rest) = name :: tokenNames rest := by
  have hbrace : Text.isWord '\x7b' = false := by decide +kernel
  obtain ⟨hname, more, hcs⟩ := exists_of_tokenAt? h
  rw [hcs, tokenNames_source hname]
  rw [source_token] at hcs
  obtain ⟨-, rfl⟩ := List.cons.inj hcs
  have hinner : tokenAt? ('\x7b' :: (name ++ '\x7d' :: '\x7d' :: more)) = none := by
    rw [tokenAt?_eq_none_iff]
    rintro ⟨other, rest, -, hstart⟩
    rw [source_token] at hstart
    obtain ⟨a, name, rfl⟩ := List.exists_cons_of_ne_nil hname.ne_nil
    obtain ⟨-, hsecond⟩ := List.cons.inj hstart
    exact hname.not_mem hbrace ((List.cons.inj hsecond).1 ▸ List.mem_cons_self)
  have hclosed : '\x7b' ∉ name ++ ['\x7d', '\x7d'] := by
    simpa using hname.not_mem hbrace
  have hbehind := tokenNames_append hclosed more
  rw [List.append_assoc] at hbehind
  rw [tokenNames_cons hinner, ← hbehind]
  rfl

end Dialogue
