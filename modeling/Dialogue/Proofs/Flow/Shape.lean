import Dialogue.Proofs.Flow.Spelling
import Dialogue.Proofs.Flow.Tagging
import Dialogue.Proofs.Json.Limits

/-!
# The shapes of a step

A step may be given flat or in the shape of the editor, which wraps its label and its configuration.
A check comes to the same step, or to the same issues, for the one and for the other; and it does
not matter to a configuration which of its names a field goes by (`check_spelled`). What an issue
shows of a step without an id or a type may have its fields in another order.
-/
namespace Dialogue

namespace Check

/-- The same record, its fields perhaps in another order. -/
def Given.Reordered (g h : Given) : Prop :=
  ∃ fields fields' : List (String × String), fields.Perm fields' ∧
    g = ⟨Json.recordText fields, "dict"⟩ ∧ h = ⟨Json.recordText fields', "dict"⟩

/-- The same issue. Where a field is missing, the value at fault is the record it is missing in. -/
structure Issue.Same (i j : Issue) : Prop where
  fault : i.fault = j.fault
  path : i.path = j.path
  given : i.given = j.given ∨ i.fault = .missing ∧ i.given.Reordered j.given

theorem Issue.Same.refl (i : Issue) : i.Same i := ⟨rfl, rfl, .inl rfl⟩

end Check

open Check

namespace Checked

variable {α β : Type} {x y : Checked α} {f g : Checked (α → β)}

/-- The same value, or the same issues in the same order. -/
inductive Same : Checked α → Checked α → Prop where
  | ok (a : α) : Same (.ok a) (.ok a)
  | error {issues issues' : List Issue} (h : List.Forall₂ Issue.Same issues issues') :
      Same (.error issues) (.error issues')

theorem Same.refl : (x : Checked α) → Same x x
  | .ok a => .ok a
  | .error _ => .error (List.forall₂_same.mpr fun i _ => Issue.Same.refl i)

theorem Same.under (h : Same x y) (step : Check.Step) : Same (x.under step) (y.under step) := by
  cases h with
  | ok a => exact .ok a
  | error h =>
      refine .error (List.forall₂_map_left_iff.mpr (List.forall₂_map_right_iff.mpr ?_))
      exact h.imp fun i j hij => ⟨hij.fault, congrArg (step :: ·) hij.path, hij.given⟩

theorem Same.map (h : Same x y) (f : α → β) : Same (f <$> x) (f <$> y) := by
  cases h with
  | ok a => exact .ok (f a)
  | error h => exact .error h

theorem Same.both (hf : Same f g) (h : Same x y) : Same (both f x) (both g y) := by
  cases hf with
  | ok f =>
      cases h with
      | ok a => exact .ok (f a)
      | error h => exact .error h
  | error hf =>
      cases h with
      | ok a => exact .error hf
      | error h => exact .error (List.rel_append hf h)

end Checked

namespace Node

/-! ### Fields of a step -/

variable {fs gs : Fields}

theorem shown_perm (hp : fs.Perm gs) (config : NodeConfig) :
    shown fs config = shown gs config ∨ (shown fs config).Reordered (shown gs config) := by
  unfold shown
  rw [hp.all_eq]
  split
  · exact .inr ⟨_, _, hp.map _, rfl, rfl⟩
  · exact .inl rfl

private theorem requiredIn_same {whole whole' : Given}
    (hw : whole = whole' ∨ whole.Reordered whole')
    (hget : ∀ name, Bindings.get? name fs = Bindings.get? name gs) (name : String) :
    (requiredIn whole [name] text fs).Same (requiredIn whole' [name] text gs) := by
  have hpick : pick [name] fs = pick [name] gs := by
    simp only [pick, List.findSome?_cons, List.findSome?_nil, hget name]
  unfold requiredIn
  rw [hpick]
  cases pick [name] gs with
  | none => exact .error (.cons ⟨rfl, rfl, hw.imp_right (⟨rfl, ·⟩)⟩ .nil)
  | some f => exact .refl _

/-- The order of the fields of a step matters to the record that an issue shows, and to nothing
else. -/
theorem assembled_same (type : String) (hp : fs.Perm gs)
    (hget : ∀ name, Bindings.get? name fs = Bindings.get? name gs) :
    (assembled type fs).Same (assembled type gs) := by
  have hmade (config : NodeConfig) : Checked.Same
      (Node.mk <$> requiredIn (shown fs config) ["id"] text fs
        |>.both (requiredIn (shown fs config) ["type"] text fs)
        |>.both (requiredIn (shown fs config) ["label"] text fs)
        |>.both (.ok config))
      (Node.mk <$> requiredIn (shown gs config) ["id"] text gs
        |>.both (requiredIn (shown gs config) ["type"] text gs)
        |>.both (requiredIn (shown gs config) ["label"] text gs)
        |>.both (.ok config)) := by
    have hw := shown_perm hp config
    exact ((((requiredIn_same hw hget "id").map _).both (requiredIn_same hw hget "type")).both
      (requiredIn_same hw hget "label")).both (.ok config)
  unfold assembled
  rw [hget "config"]
  cases NodeKind.ofName? type with
  | none => exact hmade _
  | some kind =>
      dsimp only
      cases NodeConfig.check kind ((Bindings.get? "config" gs).getD .null) with
      | error issues => exact Checked.Same.refl (.error issues)
      | ok config => exact hmade config

theorem hasText_of_typeFault? {f : TextFault}
    (hflat : Bindings.get? "type" (flatten fs) = Bindings.get? "type" fs)
    (h : typeFault? (flatten fs) = some f) : (Json.object fs).hasText = false := by
  obtain ⟨v, hv, hfault⟩ := Option.bind_eq_some_iff.mp h
  rw [hflat] at hv
  rw [Bool.eq_false_iff]
  intro htext
  have hnone := Json.hasText_eq_true.mp (Json.hasText_of_mem htext (Bindings.mem_of_get? hv))
  rw [hnone] at hfault
  cases hfault

/-! ### The two shapes -/

/-- A field that may be left out. -/
def written (name : String) (v : Option Json) : Fields := (v.map (name, ·)).toList

def flat (id type label config : Option Json) : Fields :=
  written "id" id ++ written "type" type ++ written "label" label ++ written "config" config

/-- A step in the shape of the editor, with what is wrapped. -/
def exported (id type position : Option Json) (data : Fields) : Fields :=
  written "id" id ++ written "type" type ++ written "position" position ++ [("data", .object data)]

theorem get?_written (name other : String) (v : Option Json) :
    Bindings.get? name (written other v) = if other = name then v else none := by
  cases v <;> simp [written, Bindings.get?]

private theorem keys_written (name : String) (v : Option Json) :
    ((written name v).map Prod.fst).Sublist [name] := by
  cases v <;> simp [written]

theorem nodup_flat (id type label config : Option Json) :
    ((flat id type label config).map Prod.fst).Nodup := by
  have hkeys : ((flat id type label config).map Prod.fst).Sublist
      ["id", "type", "label", "config"] := by
    simp only [flat, List.map_append]
    exact (((keys_written _ _).append (keys_written _ _)).append (keys_written _ _)).append
      (keys_written _ _)
  exact List.Nodup.sublist hkeys (by decide)

theorem nodup_exported (id type position : Option Json) (data : Fields) :
    ((exported id type position data).map Prod.fst).Nodup := by
  have hkeys : ((exported id type position data).map Prod.fst).Sublist
      ["id", "type", "position", "data"] := by
    simp only [exported, List.map_append]
    exact (((keys_written _ _).append (keys_written _ _)).append (keys_written _ _)).append
      (List.Sublist.refl _)
  exact List.Nodup.sublist hkeys (by decide)

theorem nodup_setDefault (h : (fs.map Prod.fst).Nodup) (name : String) (v : Json) :
    ((setDefault name v fs).map Prod.fst).Nodup := by
  unfold setDefault
  split
  · exact h
  · exact Bindings.nodup_put h name v

theorem nodup_flatten (h : (fs.map Prod.fst).Nodup) : ((flatten fs).map Prod.fst).Nodup := by
  have hrest := Bindings.nodup_erase (Bindings.nodup_erase h "data") "position"
  unfold flatten
  dsimp only
  split
  · exact nodup_setDefault (nodup_setDefault hrest _ _) _ _
  · exact hrest

theorem nodup_completed (type : String) (h : (fs.map Prod.fst).Nodup) :
    ((completed type fs).map Prod.fst).Nodup :=
  Bindings.nodup_put (Bindings.nodup_put h _ _) _ _

/-- A value where it is given and says something. -/
def sayingOr (empty : Json) : Option Json → Json
  | some v => if v.isTruthy then v else empty
  | none => empty

/-- A value where it is given and not null. -/
def givenOr (empty : Json) : Option Json → Json
  | none | some .null => empty
  | some v => v

theorem get?_setDefault (name other : String) (v : Json) (fs : Fields) :
    Bindings.get? name (setDefault other v fs) =
      if name = other then some ((Bindings.get? other fs).getD v) else Bindings.get? name fs := by
  unfold setDefault
  by_cases hname : name = other
  · subst hname
    cases hget : Bindings.get? name fs with
    | none => simp [Bindings.has, hget, Bindings.get?_put_self]
    | some w => simp [Bindings.has, hget]
  · rw [if_neg hname]
    split
    · rfl
    · rw [Bindings.get?_put_ne hname]

theorem get?_completed (name type : String) (fs : Fields) :
    Bindings.get? name (completed type fs) =
      if name = "config" then some (givenOr (.object []) (Bindings.get? "config" fs))
      else if name = "label" then some (sayingOr (.str type) (Bindings.get? "label" fs))
      else Bindings.get? name fs := by
  unfold completed
  by_cases hconfig : name = "config"
  · subst hconfig
    rw [Bindings.get?_put_self, if_pos rfl]
    rfl
  · rw [Bindings.get?_put_ne hconfig, if_neg hconfig]
    by_cases hlabel : name = "label"
    · subst hlabel
      rw [Bindings.get?_put_self, if_pos rfl]
      rfl
    · rw [Bindings.get?_put_ne hlabel, if_neg hlabel]

theorem get?_flatten_plain (hdata : Bindings.get? "data" fs = none) (name : String) :
    Bindings.get? name (flatten fs) =
      if name = "position" then none else Bindings.get? name fs := by
  have hflat : flatten fs = Bindings.erase "position" (Bindings.erase "data" fs) := by
    simp only [flatten, hdata]
  rw [hflat, Bindings.get?_erase, Bindings.get?_erase]
  by_cases hname : name = "data"
  · subst hname
    rw [hdata, ite_self]
  · rw [if_neg hname]

theorem get?_flatten_wrapped {data : Fields} (hdata : Bindings.get? "data" fs = some (.object data))
    (hlabel : Bindings.get? "label" fs = none) (hconfig : Bindings.get? "config" fs = none)
    (name : String) : Bindings.get? name (flatten fs) =
      if name = "config" then some (sayingOr (.object []) (Bindings.get? "config" data))
      else if name = "label" then some (sayingOr (.str "") (Bindings.get? "label" data))
      else if name = "position" ∨ name = "data" then none
      else Bindings.get? name fs := by
  have hflat : flatten fs =
      setDefault "config" (sayingOr (.object []) (Bindings.get? "config" data))
        (setDefault "label" (sayingOr (.str "") (Bindings.get? "label" data))
          (Bindings.erase "position" (Bindings.erase "data" fs))) := by
    simp only [flatten, hdata]
    rfl
  rw [hflat, get?_setDefault, get?_setDefault, get?_setDefault]
  simp only [Bindings.get?_erase, hlabel, hconfig]
  by_cases hposition : name = "position" <;> by_cases hdata : name = "data" <;>
    simp [hposition, hdata]

variable {id type position label config : Option Json} {data wrapped plain : Fields}

theorem get?_plain (h : plain.Perm (flat id type label config)) (name : String) :
    Bindings.get? name plain =
      if name = "id" then id else if name = "type" then type else if name = "label" then label
      else if name = "config" then config else none := by
  rw [← Bindings.get?_perm h.symm (nodup_flat id type label config)]
  simp only [flat, Bindings.get?_append, get?_written, eq_comm (b := name)]
  split_ifs <;> simp_all

theorem get?_wrapped (h : wrapped.Perm (exported id type position data)) (name : String) :
    Bindings.get? name wrapped =
      if name = "id" then id else if name = "type" then type
      else if name = "position" then position
      else if name = "data" then some (.object data) else none := by
  rw [← Bindings.get?_perm h.symm (nodup_exported id type position data)]
  simp only [exported, Bindings.get?_append, get?_written, eq_comm (b := name), Bindings.get?]
  split_ifs <;> simp_all

theorem get?_editor (h : data.Perm (written "label" label ++ written "config" config))
    (name : String) : Bindings.get? name data =
      if name = "label" then label else if name = "config" then config else none := by
  have hplain : data.Perm (flat none none label config) := h
  rw [get?_plain hplain]
  split_ifs <;> simp_all

/-- Of the values of a label that say nothing, none says it in another way. -/
theorem sayingOr_sayingOr {other empty : Json} (h : other.isTruthy = false) (v : Option Json) :
    sayingOr empty (some (sayingOr other v)) = sayingOr empty v := by
  cases v with
  | none => simp [sayingOr, h]
  | some v => by_cases hv : v.isTruthy = true <;> simp [sayingOr, hv, h]

theorem givenOr_sayingOr (h : ∀ v ∈ config, v = .null ∨ ∃ fs, v = .object fs) :
    givenOr (.object []) (some (sayingOr (.object []) config)) = givenOr (.object []) config := by
  cases config with
  | none => rfl
  | some v =>
      obtain rfl | ⟨fs, rfl⟩ := h v rfl
      · rfl
      · cases fs with
        | nil => rfl
        | cons f fs => rfl

section Shapes

variable (hw : wrapped.Perm (exported id type position data))
  (hd : data.Perm (written "label" label ++ written "config" config))
  (hp : plain.Perm (flat id type label config))
include hw hd hp

theorem get?_flatten_shapes (name : String) :
    Bindings.get? name (flatten wrapped) =
        (if name = "config" then some (sayingOr (.object []) config)
        else if name = "label" then some (sayingOr (.str "") label)
        else Bindings.get? name (flatten plain)) ∧
      Bindings.get? name (flatten plain) = Bindings.get? name plain := by
  have hdata : Bindings.get? "data" wrapped = some (.object data) := by simp [get?_wrapped hw]
  have hlabel : Bindings.get? "label" wrapped = none := by simp [get?_wrapped hw]
  have hconfig : Bindings.get? "config" wrapped = none := by simp [get?_wrapped hw]
  have hnodata : Bindings.get? "data" plain = none := by simp [get?_plain hp]
  rw [get?_flatten_wrapped hdata hlabel hconfig, get?_flatten_plain hnodata, get?_editor hd,
    get?_editor hd, get?_wrapped hw, get?_plain hp]
  constructor
  · split_ifs <;> simp_all
  · split_ifs <;> simp_all

theorem get?_type_shapes :
    Bindings.get? "type" (flatten wrapped) = Bindings.get? "type" plain := by
  obtain ⟨hwrapped, hplain⟩ := get?_flatten_shapes hw hd hp "type"
  exact hwrapped.trans hplain

theorem typeText_shapes : typeText (flatten wrapped) = typeText (flatten plain) := by
  unfold typeText
  rw [get?_type_shapes hw hd hp, (get?_flatten_shapes hw hd hp "type").2]

theorem typeFault?_shapes : typeFault? (flatten wrapped) = typeFault? (flatten plain) := by
  unfold typeFault?
  rw [get?_type_shapes hw hd hp, (get?_flatten_shapes hw hd hp "type").2]

/-- In both shapes a step comes to the same fields. -/
theorem get?_completed_shapes (hc : ∀ v ∈ config, v = .null ∨ ∃ fs, v = .object fs)
    (kind name : String) : Bindings.get? name (completed kind (flatten wrapped)) =
      Bindings.get? name (completed kind (flatten plain)) := by
  have hflat (name : String) := (get?_flatten_shapes hw hd hp name).1
  have hplain (name : String) := (get?_flatten_shapes hw hd hp name).2
  rw [get?_completed, get?_completed]
  by_cases hconfig : name = "config"
  · rw [if_pos hconfig, if_pos hconfig, hflat, if_pos rfl, givenOr_sayingOr hc, hplain,
      get?_plain hp]
    rfl
  · rw [if_neg hconfig, if_neg hconfig]
    by_cases hlabel : name = "label"
    · rw [if_pos hlabel, if_pos hlabel, hflat, if_neg (by decide), if_pos rfl,
        sayingOr_sayingOr rfl, hplain, get?_plain hp]
      rfl
    · rw [if_neg hlabel, if_neg hlabel, hflat, if_neg hconfig, if_neg hlabel]

/-- A step is the same in both shapes, and so is what is wrong with it. -/
theorem check_shapes (hc : ∀ v ∈ config, v = .null ∨ ∃ fs, v = .object fs) :
    (check (.object wrapped)).Same (check (.object plain)) := by
  have hget := get?_completed_shapes hw hd hp hc (typeText (flatten plain))
  have hnodup : (wrapped.map Prod.fst).Nodup :=
    (hw.map Prod.fst).symm.nodup (nodup_exported id type position data)
  have hnodup' : (plain.map Prod.fst).Nodup :=
    (hp.map Prod.fst).symm.nodup (nodup_flat id type label config)
  simp only [check, model, typeText_shapes hw hd hp, typeFault?_shapes hw hd hp]
  split
  · rename_i f hfault
    have hwrapped : Bindings.get? "type" (flatten wrapped) = Bindings.get? "type" wrapped := by
      rw [get?_type_shapes hw hd hp, get?_plain hp, get?_wrapped hw]
      rfl
    rw [Checked.fault, Checked.fault, Given.ofJson, Given.ofJson,
      hasText_of_typeFault? hwrapped ((typeFault?_shapes hw hd hp).trans hfault),
      hasText_of_typeFault? (get?_flatten_shapes hw hd hp "type").2 hfault]
    exact .refl _
  · refine assembled_same _ (Bindings.perm_of_get? ?_ ?_ hget) hget
    · exact nodup_completed _ (nodup_flatten hnodup)
    · exact nodup_completed _ (nodup_flatten hnodup')

end Shapes

/-- A step may be given in the shape of the editor or flat, its fields in any order: it comes to
the same step or to the same issues. A configuration of a kind may have each of its fields under
any of its names, where none is given under two: it is let through or not, and comes to the same
configuration, whichever they are. -/
theorem check_spelled {kind : NodeKind} {rename : String → String} {fs : Fields}
    (hw : wrapped.Perm (exported id type position data))
    (hd : data.Perm (written "label" label ++ written "config" config))
    (hp : plain.Perm (flat id type label config))
    (hc : ∀ v ∈ config, v = .null ∨ ∃ fs, v = .object fs)
    (hs : kind.Single fs) (hr : kind.Respells rename) :
    (check (.object wrapped)).Same (check (.object plain)) ∧
      (∀ c, NodeConfig.check kind (.object fs) = .ok c ↔
        NodeConfig.check kind (.object (respelled rename fs)) = .ok c) ∧
      ∀ c, NodeConfig.check kind (.object fs) = .ok c →
        c.fields.map Prod.fst = kind.fieldNames :=
  ⟨check_shapes hw hd hp hc, NodeConfig.check_respelled hs hr,
    fun _ h => NodeConfig.names_fields (NodeConfig.kind?_of_check h)⟩

/-- The configuration of a question under the names that an editor gives its fields. -/
def question : Fields := [("variableName", .str "name"), ("prompt", .str "Your name?")]

theorem question_spelled :
    (check (.object [("id", .str "ask"), ("type", .str "input"), ("position", .null),
        ("data", .object [("config", .object question), ("label", .str "")])])).Same
      (check (.object [("type", .str "input"), ("id", .str "ask"), ("label", .str ""),
        ("config", .object question)])) ∧
      (∀ c, NodeConfig.check .input (.object question) = .ok c ↔
        NodeConfig.check .input
          (.object [("variable_name", .str "name"), ("prompt", .str "Your name?")]) = .ok c) ∧
      NodeConfig.check .input (.object question) = .ok (.input ⟨"Your name?", "name", .text⟩) := by
  have hdata : List.Perm [("config", .object question), ("label", .str "")]
      (written "label" (some (.str "")) ++ written "config" (some (.object question))) :=
    .swap _ _ _
  have hwrapped : List.Perm
      [("id", .str "ask"), ("type", .str "input"), ("position", .null),
        ("data", .object [("config", .object question), ("label", .str "")])]
      (exported (some (.str "ask")) (some (.str "input")) (some .null)
        [("config", .object question), ("label", .str "")]) := .refl _
  have hplain : List.Perm [("type", .str "input"), ("id", .str "ask"), ("label", .str ""),
        ("config", .object question)]
      (flat (some (.str "ask")) (some (.str "input")) (some (.str ""))
        (some (.object question))) := .swap _ _ _
  have hconfig : ∀ v ∈ some (Json.object question), v = .null ∨ ∃ fs, v = .object fs :=
    fun _ hv => .inr ⟨_, (Option.some.inj hv).symm⟩
  have hsingle : NodeKind.input.Single question := by decide
  obtain ⟨hshapes, hnames, -⟩ := check_spelled hwrapped hdata hplain hconfig hsingle
    NodeKind.input.respells_snakeCase
  exact ⟨hshapes, hnames, rfl⟩

end Node
end Dialogue
