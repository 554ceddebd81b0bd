import Dialogue.Proofs.Text.Tokens
import Dialogue.Variables

/-!
# Texts taken apart

A text is in exactly one way a row of literals with tokens between them, no token of the text
starting in a literal. To fill a text is to leave the literals as they are and to put in the place
of each token what its name stands for; what comes in is not read again
(`Variables.interpolate_substitutes`).
-/
namespace Dialogue

/-- A literal, and tokens by their names, each with the literal behind it. -/
structure Dissection where
  lead : List Char
  parts : List (List Char × List Char)

namespace Dissection

/-- Tokens and the literals behind them, with `stand` of its name in the place of each token. -/
def joined (stand : List Char → List Char) (parts : List (List Char × List Char)) : List Char :=
  parts.flatMap fun p => stand p.1 ++ p.2

def filled (stand : List Char → List Char) (d : Dissection) : List Char :=
  d.lead ++ joined stand d.parts

/-- A token with its braces. -/
def token (name : List Char) : List Char := (Piece.token name).source

/-- No token starts in a literal with `behind` after it. -/
def Quiet (literal behind : List Char) : Prop :=
  ∀ before rest, literal = before ++ rest → rest ≠ [] → ¬ StartsToken (rest ++ behind)

structure Dissects (d : Dissection) (text : List Char) : Prop where
  source : d.filled token = text
  names : ∀ p ∈ d.parts, IsName p.1
  lead : Quiet d.lead (joined token d.parts)
  literals : ∀ before p after, d.parts = before ++ p :: after → Quiet p.2 (joined token after)

variable {d d' : Dissection} {literal behind text : List Char} {c : Char}
  {parts : List (List Char × List Char)}

/-! ### Pieces of a dissection -/

theorem quiet_nil (behind : List Char) : Quiet [] behind := by
  intro before rest hsplit hne
  exact absurd (List.append_eq_nil_iff.mp hsplit.symm).2 hne

theorem quiet_cons_iff : Quiet (c :: literal) behind ↔
    tokenAt? (c :: (literal ++ behind)) = none ∧ Quiet literal behind := by
  rw [tokenAt?_eq_none_iff]
  constructor
  · intro h
    constructor
    · exact h [] (c :: literal) rfl (List.cons_ne_nil c literal)
    · rintro before rest rfl hne
      exact h (c :: before) rest rfl hne
  · rintro ⟨hhead, hrest⟩ before rest hsplit hne
    cases before with
    | nil =>
        obtain rfl : c :: literal = rest := hsplit
        exact hhead
    | cons b before => exact hrest before rest (List.cons.inj hsplit).2 hne

theorem Quiet.pieces_append (h : Quiet literal behind) :
    pieces (literal ++ behind) = literal.map .plain ++ pieces behind := by
  induction literal with
  | nil => rfl
  | cons c literal ih =>
      obtain ⟨hhead, hrest⟩ := quiet_cons_iff.mp h
      rw [List.cons_append, pieces_cons hhead, ih hrest]
      rfl

/-- The pieces of the text that is taken apart. -/
def pieces (d : Dissection) : List Piece :=
  d.lead.map .plain ++ d.parts.flatMap fun p => .token p.1 :: p.2.map .plain

theorem pieces_joined (hnames : ∀ p ∈ parts, IsName p.1)
    (hquiet : ∀ before p after, parts = before ++ p :: after → Quiet p.2 (joined token after)) :
    Dialogue.pieces (joined token parts) =
      parts.flatMap fun p => .token p.1 :: p.2.map .plain := by
  induction parts with
  | nil => rfl
  | cons p parts ih =>
      have hrest := ih (fun q hq => hnames q (List.mem_cons_of_mem p hq))
        fun before q after hsplit => hquiet (p :: before) q after (hsplit ▸ rfl)
      have hliteral : Quiet p.2 (joined token parts) := hquiet [] p parts rfl
      calc Dialogue.pieces (joined token (p :: parts))
          = Dialogue.pieces ((Piece.token p.1).source ++ (p.2 ++ joined token parts)) := by
            simp [joined, token]
        _ = .token p.1 :: (p.2.map .plain ++ Dialogue.pieces (joined token parts)) := by
            rw [pieces_source (hnames p List.mem_cons_self), hliteral.pieces_append]
        _ = _ := by simp [hrest]

theorem Dissects.pieces_eq (h : d.Dissects text) : Dialogue.pieces text = d.pieces := by
  rw [← h.source, filled, h.lead.pieces_append, pieces_joined h.names h.literals]
  rfl

/-! ### The dissection of a text -/

/-- Characters are gathered up to the next token. -/
def ofPieces : List Piece → Dissection
  | [] => ⟨[], []⟩
  | .plain c :: rest => ⟨c :: (ofPieces rest).lead, (ofPieces rest).parts⟩
  | .token name :: rest => ⟨[], (name, (ofPieces rest).lead) :: (ofPieces rest).parts⟩

theorem ofPieces_plain (literal : List Char) (rest : List Piece) :
    ofPieces (literal.map .plain ++ rest) =
      ⟨literal ++ (ofPieces rest).lead, (ofPieces rest).parts⟩ := by
  induction literal with
  | nil => rfl
  | cons c literal ih =>
      rw [List.map_cons, List.cons_append, ofPieces, ih]
      rfl

theorem ofPieces_pieces (d : Dissection) : ofPieces d.pieces = d := by
  have hparts : ofPieces (d.parts.flatMap fun p => .token p.1 :: p.2.map .plain) =
      ⟨[], d.parts⟩ := by
    induction d.parts with
    | nil => rfl
    | cons p parts ih =>
        rw [List.flatMap_cons, List.cons_append, ofPieces, ofPieces_plain, ih, List.append_nil]
  rw [pieces, ofPieces_plain, hparts, List.append_nil]

theorem dissects_ofPieces (text : List Char) : (ofPieces (Dialogue.pieces text)).Dissects text := by
  induction text using pieces_induction with
  | nil =>
      exact {
        source := rfl
        names := by simp [Dialogue.pieces, piecesAfter, ofPieces]
        lead := quiet_nil _
        literals := by simp [Dialogue.pieces, piecesAfter, ofPieces] }
  | token name rest hname ih =>
      rw [pieces_source hname]
      refine ⟨?_, ?_, quiet_nil _, ?_⟩
      · show token name ++ (ofPieces _).lead ++ joined token (ofPieces _).parts = _
        rw [List.append_assoc]
        exact congrArg _ ih.source
      · exact List.forall_mem_cons.mpr ⟨hname, ih.names⟩
      · intro before p after hsplit
        cases before with
        | nil =>
            obtain ⟨rfl, rfl⟩ := List.cons.inj hsplit
            exact ih.lead
        | cons b before => exact ih.literals before p after (List.cons.inj hsplit).2
  | plain c rest hplain ih =>
      rw [pieces_cons hplain]
      have hsource := ih.source
      refine ⟨congrArg (c :: ·) hsource, ih.names, quiet_cons_iff.mpr ⟨?_, ih.lead⟩, ih.literals⟩
      show tokenAt? (c :: (ofPieces _).filled token) = none
      rw [hsource]
      exact hplain

theorem Dissects.unique (h : d.Dissects text) (h' : d'.Dissects text) : d' = d := by
  rw [← ofPieces_pieces d, ← ofPieces_pieces d', ← h.pieces_eq, h'.pieces_eq]

theorem Dissects.fillTokens_eq (h : d.Dissects text) (stand : List Char → List Char) :
    fillTokens stand text = d.filled stand := by
  have hparts : (d.parts.flatMap fun p => .token p.1 :: p.2.map .plain).flatMap
      (Piece.fill stand) = joined stand d.parts := by
    rw [List.flatMap_assoc, joined]
    congr 1
    funext p
    rw [List.flatMap_cons, flatMap_fill_plain]
    rfl
  rw [fillTokens, h.pieces_eq, pieces, List.flatMap_append, flatMap_fill_plain, hparts]
  rfl

theorem Dissects.any_isToken (h : d.Dissects text) :
    (Dialogue.pieces text).any Piece.isToken = true ↔ 0 < d.parts.length := by
  rw [h.pieces_eq, pieces, List.any_append]
  cases d.parts with
  | nil => simp [Piece.isToken]
  | cons p parts => simp [Piece.isToken]

end Dissection

namespace Variables

/-- A name means the contact, and no value that says something overrides it. -/
def MeansContact (vars : Variables) (contact name : String) : Prop :=
  (name = "nome" ∨ name = "name") ∧
    (Bindings.get? name vars = none ∨ Bindings.get? name vars = some .null ∨
      Bindings.get? name vars = some (.str "")) ∧ contact ≠ ""

instance (vars : Variables) (contact name : String) : Decidable (vars.MeansContact contact name) :=
  inferInstanceAs (Decidable (_ ∧ (_ ∨ _ ∨ _) ∧ _))

/-- What comes in the place of a token: the contact, the text of the value, or the token itself. -/
def standIn (vars : Variables) (contact : String) (name : List Char) : List Char :=
  if vars.MeansContact contact (String.ofList name) then contact.toList
  else match Bindings.get? (String.ofList name) vars with
    | some v => v.spoken.toList
    | none => Dissection.token name

variable {vars : Variables} {contact : String}

theorem isVacant_iff (vars : Variables) (name : String) : vars.isVacant name = true ↔
    Bindings.get? name vars = none ∨ Bindings.get? name vars = some .null ∨
      Bindings.get? name vars = some (.str "") := by
  unfold isVacant
  split <;> simp_all

theorem namesContact_iff (vars : Variables) (contact name : String) :
    vars.namesContact contact name = true ↔ vars.MeansContact contact name := by
  rw [MeansContact, ← isVacant_iff]
  simp [namesContact, contactKeys, and_assoc]

theorem render_eq_fill (vars : Variables) (contact : String) :
    vars.render contact = Piece.fill (vars.standIn contact) := by
  funext piece
  cases piece with
  | plain c => rfl
  | token name =>
      have hmeans := namesContact_iff vars contact (String.ofList name)
      unfold render resolve? Piece.fill standIn
      by_cases h : vars.MeansContact contact (String.ofList name)
      · simp only [if_pos (hmeans.mpr h), if_pos h]
      · simp only [if_neg (hmeans.not.mpr h), if_neg h]
        cases Bindings.get? (String.ofList name) vars with
        | none => rfl
        | some v => rfl

theorem toList_interpolate (vars : Variables) (contact text : String) :
    (vars.interpolate contact text).toList = fillTokens (vars.standIn contact) text.toList := by
  rw [interpolate, String.toList_ofList, render_eq_fill]
  rfl

/-- There is exactly one way to take a text apart. Its literals stay as they are when the text is
filled and each of its tokens gives way to what its name stands for, whatever that holds; and the
text has a token if there is one in its dissection. -/
theorem interpolate_substitutes (vars : Variables) (contact text : String) :
    ∃ d : Dissection, d.Dissects text.toList ∧ (∀ d', d'.Dissects text.toList → d' = d) ∧
      (vars.interpolate contact text).toList = d.filled (vars.standIn contact) ∧
      (hasToken text = true ↔ 0 < d.parts.length) := by
  obtain ⟨d, hd⟩ : ∃ d : Dissection, d.Dissects text.toList :=
    ⟨_, Dissection.dissects_ofPieces text.toList⟩
  refine ⟨d, hd, fun d' hd' => hd.unique hd', ?_, hd.any_isToken⟩
  rw [toList_interpolate, hd.fillTokens_eq]

/-- Of three braces the first is a literal, and a value that looks like a token stays. -/
example : Variables.interpolate [("a", .str "\x7b\x7bb\x7d\x7d")] ""
    "\x7b\x7b\x7ba\x7d\x7d\x7d" = "\x7b\x7b\x7bb\x7d\x7d\x7d" := by decide +kernel

end Variables
end Dialogue
