import Dialogue.Proofs.Bindings
import Dialogue.Proofs.Json.Literal

/-!
# Filled documents

Tokens of a JSON document are inside its texts, and where what comes in their places fits between
quotes, the filled document reads as the value of the old one with each of its texts filled
(`parse_fill`). So nothing is added to the value, nothing is lost and nothing changes places.
-/
namespace Dialogue.Json

mutual

/-- A value with a change made to its texts, names of fields included. -/
def mapTexts (f : String → String) : Json → Json
  | null => null
  | bool b => bool b
  | int n => int n
  | float x => float x
  | str s => str (f s)
  | list items => list (mapItems f items)
  | object fields => object (mapFields f fields)

def mapItems (f : String → String) : List Json → List Json
  | [] => []
  | v :: vs => mapTexts f v :: mapItems f vs

def mapFields (f : String → String) : List (String × Json) → List (String × Json)
  | [] => []
  | (name, v) :: fields => (f name, mapTexts f v) :: mapFields f fields

end

mutual

/-- In no object of the value do two names become one. -/
def Apart (f : String → String) : Json → Prop
  | null | bool _ | int _ | float _ | str _ => True
  | list items => ItemsApart f items
  | object fields => Bindings.Separates f (fields.map Prod.fst) ∧ FieldsApart f fields

def ItemsApart (f : String → String) : List Json → Prop
  | [] => True
  | v :: vs => Apart f v ∧ ItemsApart f vs

def FieldsApart (f : String → String) : List (String × Json) → Prop
  | [] => True
  | (_, v) :: fields => Apart f v ∧ FieldsApart f fields

end

variable {f : String → String} {stand : List Char → List Char} {cs ds rest w : List Char} {c : Char}
  {v v' : Json} {vs vs' : List Json} {fields fields' : List (String × Json)} {depth : Nat}

/-- Where its names stay apart, a value is another one with its texts changed. -/
def Changed (f : String → String) (v v' : Json) : Prop := v.Apart f → v' = v.mapTexts f

theorem mapItems_of_forall₂ (h : List.Forall₂ (Changed f) vs vs') (hvs : ItemsApart f vs) :
    vs' = mapItems f vs := by
  induction h with
  | nil => rfl
  | cons hv _ ih => rw [mapItems, hv hvs.1, ih hvs.2]

theorem mapFields_of_renamed (h : Bindings.Renamed f (Changed f) fields fields')
    (hfields : FieldsApart f fields) : fields' = mapFields f fields := by
  induction h with
  | nil => rfl
  | @cons b b' _ _ hb _ ih =>
      obtain ⟨name, v⟩ := b
      obtain ⟨name', v'⟩ := b'
      obtain ⟨rfl, hv⟩ := hb
      rw [mapFields, ← hv hfields.1, ← ih hfields.2]

theorem changed_list (h : List.Forall₂ (Changed f) vs vs') : Changed f (.list vs) (.list vs') :=
  fun hvs => congrArg Json.list (mapItems_of_forall₂ h hvs)

theorem changed_object (h : Bindings.Renamed f (Changed f) fields fields') :
    Changed f (.object (Bindings.ofList fields)) (.object (Bindings.ofList fields')) := by
  rintro ⟨hnames, hfields⟩
  have hkeys : Bindings.Separates f (fields.map Prod.fst) := by
    intro a ha b hb
    refine hnames a ?_ b ?_
    · rw [Bindings.keys_ofList]
      exact List.mem_eraseDups.mpr ha
    · rw [Bindings.keys_ofList]
      exact List.mem_eraseDups.mpr hb
  exact congrArg Json.object (mapFields_of_renamed (h.ofList hkeys) hfields)

/-! ### Between the texts -/

/-- The rest of a document with its tokens in texts, where what comes in the place of each fits. -/
def Fillable (stand : List Char → List Char) (cs : List Char) : Prop := ∃ ds, Written stand cs ds

theorem Fillable.tail (h : Fillable stand (c :: cs)) (hc : c ≠ '\\')
    (hat : tokenAt? (c :: cs) = none) : Fillable stand cs := by
  obtain ⟨ds, h⟩ := h
  generalize hcs : c :: cs = whole at h
  cases h with
  | nil => cases hcs
  | token hname =>
      rw [hcs, tokenAt?_source hname] at hat
      cases hat
  | char _ _ _ h =>
      obtain ⟨-, rfl⟩ := List.cons.inj hcs
      exact ⟨_, h⟩
  | escape => exact absurd (List.cons.inj hcs).1 hc

/-- What is not inside a text has no part in a token. -/
def Outside (c : Char) : Prop := c ≠ '\x7b' ∧ c ≠ '\\'

theorem Fillable.of_append (h : Fillable stand (w ++ cs)) (hw : ∀ c ∈ w, Outside c) :
    Fillable stand cs := by
  induction w with
  | nil => exact h
  | cons c w ih =>
      obtain ⟨⟨hbrace, hslash⟩, hw⟩ := List.forall_mem_cons.mp hw
      exact ih (h.tail hslash (tokenAt?_cons_of_ne hbrace _)) hw

theorem isSpace_cases (h : isSpace c = true) : c = ' ' ∨ c = '\t' ∨ c = '\n' ∨ c = '\r' := by
  simpa [isSpace, or_assoc] using h

theorem outside_of_isSpace (h : isSpace c = true) : Outside c := by
  rcases isSpace_cases h with rfl | rfl | rfl | rfl <;> exact ⟨by decide, by decide⟩

theorem isScalarChar_of_isSpace (h : isSpace c = true) : isScalarChar c = false := by
  rcases isSpace_cases h with rfl | rfl | rfl | rfl <;> rfl

theorem outside_of_isScalarChar (h : isScalarChar c = true) : Outside c := by
  constructor <;> rintro rfl <;> cases h

theorem fillTokens_outside (hw : ∀ c ∈ w, Outside c) (cs : List Char) :
    fillTokens stand (w ++ cs) = w ++ fillTokens stand cs :=
  fillTokens_append stand (fun hmem => (hw _ hmem).1 rfl) cs

theorem blanks_skip (cs : List Char) :
    ∃ w, (∀ c ∈ w, isSpace c = true) ∧ cs = w ++ skip cs :=
  ⟨cs.takeWhile isSpace, fun _ hc => List.mem_takeWhile_imp hc,
    List.takeWhile_append_dropWhile.symm⟩

theorem not_isSpace_of_skip (h : skip cs = c :: rest) : isSpace c = false := by
  have hhead := List.head?_dropWhile_not isSpace cs
  rw [show cs.dropWhile isSpace = c :: rest from h] at hhead
  exact hhead

theorem skip_fillTokens (hat : tokenAt? (skip cs) = none) :
    skip (fillTokens stand cs) = fillTokens stand (skip cs) := by
  obtain ⟨w, hw, hcs⟩ := blanks_skip cs
  have hfill : fillTokens stand cs = w ++ fillTokens stand (skip cs) := by
    rw [← fillTokens_outside fun c hc => outside_of_isSpace (hw c hc), ← hcs]
  have hblanks : skip (w ++ fillTokens stand (skip cs)) = skip (fillTokens stand (skip cs)) :=
    List.dropWhile_append_of_pos hw
  rw [hfill, hblanks]
  cases hskip : skip cs with
  | nil => rfl
  | cons c rest =>
      rw [hskip] at hat
      rw [fillTokens_cons stand hat, skip,
        List.dropWhile_cons_of_neg (by simp [not_isSpace_of_skip hskip])]

/-- A value may end before the text. -/
def Closes (cs : List Char) : Prop :=
  ∀ c rest, skip cs = c :: rest → c = ',' ∨ c = ']' ∨ c = '\x7d'

theorem closes_of_skip (h : skip cs = c :: rest) (hc : c = ',' ∨ c = ']' ∨ c = '\x7d') :
    Closes cs := by
  intro d more hd
  rw [h] at hd
  cases hd
  exact hc

theorem Closes.ends (h : Closes cs) : Ends cs := by
  obtain ⟨w, hw, hcs⟩ := blanks_skip cs
  intro c hc
  rw [hcs] at hc
  cases w with
  | nil =>
      obtain ⟨rest, hrest⟩ := List.head?_eq_some_iff.mp hc
      rcases h c rest hrest with rfl | rfl | rfl <;> rfl
  | cons d w =>
      cases hc
      exact isScalarChar_of_isSpace (hw _ List.mem_cons_self)

theorem Closes.filled (h : Closes cs) : Closes (fillTokens stand cs) := by
  cases hskip : skip cs with
  | nil =>
      have hat : tokenAt? (skip cs) = none := by
        rw [hskip]
        rfl
      intro c rest hc
      rw [skip_fillTokens hat, hskip] at hc
      cases hc
  | cons c rest =>
      have hc := h c rest hskip
      have hat : tokenAt? (c :: rest) = none :=
        tokenAt?_cons_of_ne (by rcases hc with rfl | rfl | rfl <;> decide) rest
      have hfill : skip (fillTokens stand cs) = fillTokens stand (skip cs) :=
        skip_fillTokens (hskip ▸ hat)
      rw [hskip, fillTokens_cons stand hat] at hfill
      exact closes_of_skip hfill hc

namespace Fillable

theorem skipped (h : Fillable stand cs) : Fillable stand (skip cs) := by
  obtain ⟨w, hw, hcs⟩ := blanks_skip cs
  rw [hcs] at h
  exact h.of_append fun c hc => outside_of_isSpace (hw c hc)

theorem mark (h : Fillable stand cs) (hskip : skip cs = c :: rest) (hc : Outside c) :
    Fillable stand rest ∧ skip (fillTokens stand cs) = c :: fillTokens stand rest := by
  have hat : tokenAt? (c :: rest) = none := tokenAt?_cons_of_ne hc.1 rest
  have hmark := h.skipped
  rw [hskip] at hmark
  refine ⟨hmark.tail hc.2 hat, ?_⟩
  rw [skip_fillTokens (hskip ▸ hat), hskip, fillTokens_cons stand hat]

theorem text {s : List Char} (h : Fillable stand cs) (hs : IsText cs s rest) :
    Fillable stand rest ∧
      IsText (fillTokens stand cs) (fillTokens stand s) (fillTokens stand rest) := by
  obtain ⟨ds, hds⟩ := h
  obtain ⟨ds', hrest, -, hfilled⟩ := hds.isText hs
  exact ⟨⟨ds', hrest⟩, hfilled⟩

theorem opened (h : Fillable stand ('"' :: cs)) :
    Fillable stand cs ∧ fillTokens stand ('"' :: cs) = '"' :: fillTokens stand cs := by
  have hat : tokenAt? ('"' :: cs) = none := tokenAt?_cons_of_ne (by decide) cs
  exact ⟨h.tail (by decide) hat, fillTokens_cons stand hat⟩

theorem name {s named value : List Char} (h : Fillable stand cs) (hname : IsText cs s named)
    (hcolon : skip named = ':' :: value) : Fillable stand value ∧
      IsText (fillTokens stand cs) (fillTokens stand s) (fillTokens stand named) ∧
      skip (fillTokens stand named) = ':' :: fillTokens stand value := by
  obtain ⟨hnamed, hfilled⟩ := h.text hname
  obtain ⟨hvalue, hmark⟩ := hnamed.mark hcolon ⟨by decide, by decide⟩
  exact ⟨hvalue, hfilled, hmark⟩

theorem scalar (h : Fillable stand cs) (hv : readScalar cs = .ok (v, rest)) (he : Closes rest) :
    Fillable stand rest ∧
      readScalar (fillTokens stand cs) = .ok (v, fillTokens stand rest) := by
  obtain ⟨c, eaten, heaten, rfl, hread⟩ := readScalar_taken hv he.ends
  have houtside : ∀ d ∈ c :: eaten, Outside d := fun d hd => outside_of_isScalarChar (heaten d hd)
  rw [← List.cons_append] at h ⊢
  refine ⟨h.of_append houtside, ?_⟩
  rw [fillTokens_outside houtside]
  exact hread _ he.filled.ends

end Fillable

/-! ### Values -/

theorem IsFields.head (h : IsFields depth cs fields rest) : ∃ more, cs = '"' :: more := by
  cases h <;> exact ⟨_, rfl⟩

theorem tokenAt?_brace (h : ∀ more, skip cs ≠ '\x7b' :: more) : tokenAt? ('\x7b' :: cs) = none := by
  rw [tokenAt?_eq_none_iff]
  rintro ⟨name, rest, -, hsource⟩
  rw [source_token] at hsource
  obtain ⟨-, rfl⟩ := List.cons.inj hsource
  exact h _ rfl

theorem IsValue.tokenAt? (h : IsValue depth cs v rest) : tokenAt? cs = none := by
  cases h with
  | noFields hclose => exact tokenAt?_brace fun more => by simp [hclose]
  | fields hfields =>
      obtain ⟨more, hmore⟩ := hfields.head
      exact tokenAt?_brace fun more => by simp [hmore]
  | text _ | noItems _ | items _ => exact tokenAt?_cons_of_ne (by decide) _
  | scalar hv =>
      obtain ⟨c, more, rfl, hc⟩ := readScalar_head hv
      exact tokenAt?_cons_of_ne (outside_of_isScalarChar hc).1 more

theorem IsItems.tokenAt? (h : IsItems depth cs vs rest) : Dialogue.tokenAt? cs = none := by
  cases h with
  | last hv _ => exact hv.tokenAt?
  | more hv _ _ => exact hv.tokenAt?

theorem IsFields.tokenAt? (h : IsFields depth cs fields rest) : Dialogue.tokenAt? cs = none := by
  obtain ⟨more, rfl⟩ := h.head
  exact tokenAt?_cons_of_ne (by decide) more

theorem mapTexts_of_readScalar (h : readScalar cs = .ok (v, rest)) (f : String → String) :
    v.mapTexts f = v := by
  unfold readScalar at h
  split at h
  · rename_i r hword
    cases h
    have hwords : ∀ entry ∈ words, entry.2.mapTexts f = entry.2 := by simp [words, mapTexts]
    obtain ⟨entry, hmem, hentry⟩ := List.exists_of_findSome?_eq_some hword
    obtain ⟨behind, -, heq⟩ := Option.map_eq_some_iff.mp hentry
    cases heq
    exact hwords entry hmem
  · obtain ⟨-, -, rfl, -⟩ := readNumber_eq_ok.mp h
    unfold ofParts
    split <;> rfl

/-- A text with its tokens filled. -/
def fillText (stand : List Char → List Char) (text : String) : String :=
  String.ofList (fillTokens stand text.toList)

theorem fillText_ofList (stand : List Char → List Char) (cs : List Char) :
    String.ofList (fillTokens stand cs) = fillText stand (String.ofList cs) := by
  rw [fillText, String.toList_ofList]

section
variable (stand)

mutual

theorem IsValue.fill : ∀ {depth : Nat} {cs : List Char} {v : Json} {rest : List Char},
    IsValue depth cs v rest → Fillable stand cs → Closes rest →
      Fillable stand rest ∧ ∃ v', IsValue depth (fillTokens stand cs) v' (fillTokens stand rest) ∧
        Changed (fillText stand) v v'
  | _, _, _, _, .text h, hf, _ => by
      obtain ⟨hopen, hfill⟩ := hf.opened
      obtain ⟨hrest, hfilled⟩ := hopen.text h
      rw [hfill]
      exact ⟨hrest, _, .text hfilled, fun _ => congrArg Json.str (fillText_ofList _ _)⟩
  | _, _, _, _, .scalar h, hf, hclose => by
      obtain ⟨hrest, hfilled⟩ := hf.scalar h hclose
      exact ⟨hrest, _, .scalar hfilled, fun _ => (mapTexts_of_readScalar h _).symm⟩
  | _, _, _, _, .noItems h, hf, _ => by
      have hat := (@IsValue.noItems 0 _ _ h).tokenAt?
      obtain ⟨hrest, hfilled⟩ := (hf.tail (by decide) hat).mark h ⟨by decide, by decide⟩
      rw [fillTokens_cons stand hat]
      exact ⟨hrest, _, .noItems hfilled, fun _ => rfl⟩
  | _, _, _, _, .items h, hf, _ => by
      have hat := (IsValue.items h).tokenAt?
      obtain ⟨hrest, vs', hitems, hchanged⟩ := h.fill (hf.tail (by decide) hat).skipped
      rw [← skip_fillTokens h.tokenAt?] at hitems
      rw [fillTokens_cons stand hat]
      exact ⟨hrest, _, .items hitems, changed_list hchanged⟩
  | _, _, _, _, .noFields h, hf, _ => by
      have hat := (@IsValue.noFields 0 _ _ h).tokenAt?
      obtain ⟨hrest, hfilled⟩ := (hf.tail (by decide) hat).mark h ⟨by decide, by decide⟩
      rw [fillTokens_cons stand hat]
      exact ⟨hrest, _, .noFields hfilled, fun _ => rfl⟩
  | _, _, _, _, .fields h, hf, _ => by
      have hat := (IsValue.fields h).tokenAt?
      obtain ⟨hrest, fields', hfields, hrenamed⟩ := h.fill (hf.tail (by decide) hat).skipped
      rw [← skip_fillTokens h.tokenAt?] at hfields
      rw [fillTokens_cons stand hat]
      exact ⟨hrest, _, .fields hfields, changed_object hrenamed⟩

theorem IsItems.fill : ∀ {depth : Nat} {cs : List Char} {vs : List Json} {rest : List Char},
    IsItems depth cs vs rest → Fillable stand cs →
      Fillable stand rest ∧ ∃ vs', IsItems depth (fillTokens stand cs) vs' (fillTokens stand rest) ∧
        List.Forall₂ (Changed (fillText stand)) vs vs'
  | _, _, _, _, .last hv hclose, hf => by
      obtain ⟨hbehind, v', hvalue, hchanged⟩ := hv.fill hf (closes_of_skip hclose (by decide))
      obtain ⟨hrest, hfilled⟩ := hbehind.mark hclose ⟨by decide, by decide⟩
      exact ⟨hrest, _, .last hvalue hfilled, .cons hchanged .nil⟩
  | _, _, _, _, .more hv hcomma h, hf => by
      obtain ⟨hbehind, v', hvalue, hchanged⟩ := hv.fill hf (closes_of_skip hcomma (by decide))
      obtain ⟨hnext, hfilled⟩ := hbehind.mark hcomma ⟨by decide, by decide⟩
      obtain ⟨hrest, vs', hitems, hrow⟩ := h.fill hnext.skipped
      rw [← skip_fillTokens h.tokenAt?] at hitems
      exact ⟨hrest, _, .more hvalue hfilled hitems, .cons hchanged hrow⟩

theorem IsFields.fill : ∀ {depth : Nat} {cs : List Char} {fields : List (String × Json)}
    {rest : List Char}, IsFields depth cs fields rest → Fillable stand cs →
      Fillable stand rest ∧
        ∃ fields', IsFields depth (fillTokens stand cs) fields' (fillTokens stand rest) ∧
          Bindings.Renamed (fillText stand) (Changed (fillText stand)) fields fields'
  | _, _, _, _, .last hname hcolon hv hclose, hf => by
      obtain ⟨hopen, hfill⟩ := hf.opened
      obtain ⟨hvalue, hnamed, hmark⟩ := hopen.name hname hcolon
      obtain ⟨hbehind, v', hfilled, hchanged⟩ :=
        hv.fill hvalue.skipped (closes_of_skip hclose (by decide))
      obtain ⟨hrest, hend⟩ := hbehind.mark hclose ⟨by decide, by decide⟩
      rw [← skip_fillTokens hv.tokenAt?] at hfilled
      rw [hfill]
      exact ⟨hrest, _, .last hnamed hmark hfilled hend, .cons ⟨fillText_ofList _ _, hchanged⟩ .nil⟩
  | _, _, _, _, .more hname hcolon hv hcomma h, hf => by
      obtain ⟨hopen, hfill⟩ := hf.opened
      obtain ⟨hvalue, hnamed, hmark⟩ := hopen.name hname hcolon
      obtain ⟨hbehind, v', hfilled, hchanged⟩ :=
        hv.fill hvalue.skipped (closes_of_skip hcomma (by decide))
      obtain ⟨hnext, hend⟩ := hbehind.mark hcomma ⟨by decide, by decide⟩
      obtain ⟨hrest, fields', hfields, hrow⟩ := h.fill hnext.skipped
      rw [← skip_fillTokens hv.tokenAt?] at hfilled
      rw [← skip_fillTokens h.tokenAt?] at hfields
      rw [hfill]
      exact ⟨hrest, _, .more hnamed hmark hfilled hend hfields,
        .cons ⟨fillText_ofList _ _, hchanged⟩ hrow⟩

end
end

/-! ### Documents -/

/-- A document whose tokens are in the same places when its escapes are resolved. -/
def Plain (cs : List Char) : Prop := ∃ ds, Resolves cs ds ∧ tokenNames ds = tokenNames cs

theorem plain_of_not_mem (h : '\\' ∉ cs) : Plain cs := ⟨cs, resolves_self h, rfl⟩

theorem IsJson.fill (h : IsJson cs v) (hplain : Plain cs)
    (hfits : ∀ name ∈ tokenNames cs, Fits (stand name)) (hv : v.Apart (fillText stand)) :
    IsJson (fillTokens stand cs) (v.mapTexts (fillText stand)) := by
  obtain ⟨rest, hvalue, hrest⟩ := h
  obtain ⟨ds, hresolves, hnames⟩ := hplain
  have hf : Fillable stand cs := ⟨ds, hresolves.written hnames hfits⟩
  have hclose : Closes rest := fun c more hc => by
    rw [hrest] at hc
    cases hc
  obtain ⟨-, v', hfilled, hchanged⟩ := hvalue.fill stand hf.skipped hclose
  have hend : tokenAt? (skip rest) = none := hrest ▸ rfl
  rw [← skip_fillTokens hvalue.tokenAt?, hchanged hv] at hfilled
  refine ⟨fillTokens stand rest, hfilled, ?_⟩
  rw [skip_fillTokens hend, hrest]
  rfl

/-- A document whose tokens are filled with what fits between quotes reads as its value with all
texts filled, as long as no two names of an object become one. -/
theorem parse_fill {text : String} (h : parse text = .ok v) (hplain : Plain text.toList)
    (hfits : ∀ name ∈ tokenNames text.toList, Fits (stand name)) (hv : v.Apart (fillText stand)) :
    parse (fillText stand text) = .ok (v.mapTexts (fillText stand)) := by
  have hfilled := (read_eq_ok.mp h).fill hplain hfits hv
  rw [parse, fillText, String.toList_ofList]
  exact read_eq_ok.mpr hfilled

end Dialogue.Json
