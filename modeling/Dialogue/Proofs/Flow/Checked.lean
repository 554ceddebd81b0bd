import Dialogue.Proofs.Flow.Tagging

/-!
# The steps of a checked flow

Each step of a flow that was checked has a configuration that its kind can be carried out by
(`Node.Fit`), but for an action that is to assign to a blank name (`Node.Nameless`). What it binds
and sends has a text if the given value has one (`Flow.worded_of_check`).
-/
namespace Dialogue
open Check

namespace Checked

theorem eq_ok_of_under {α : Type} {x : Checked α} {place : Check.Step} {a : α}
    (h : x.under place = .ok a) : x = .ok a := by
  cases x with
  | error issues => cases h
  | ok b => exact h

theorem exists_of_map {α β : Type} {f : α → β} {x : Checked α} {b : β} (h : f <$> x = .ok b) :
    ∃ a, x = .ok a ∧ f a = b := by
  cases x with
  | error issues => cases h
  | ok a => exact ⟨a, rfl, Except.ok.inj h⟩

theorem exists_of_mem_all {α : Type} {checks : List (Checked α)} {l : List α}
    (h : all checks = .ok l) {a : α} (ha : a ∈ l) : .ok a ∈ checks := by
  induction checks generalizing l with
  | nil =>
      cases h
      cases ha
  | cons c rest ih =>
      obtain ⟨f, more, hf, hmore, rfl⟩ := both_eq_ok.mp h
      obtain ⟨g, first, hg, hfirst, rfl⟩ := both_eq_ok.mp hf
      cases hg
      rcases List.mem_cons.mp ha with rfl | ha
      · rw [hfirst]
        exact List.mem_cons_self
      · exact List.mem_cons_of_mem _ (ih hmore ha)

end Checked

namespace Check

theorem exists_of_mem_listOf {α : Type} {check : Json → Checked α} {v : Json} {l : List α}
    (h : listOf check v = .ok l) {a : α} (ha : a ∈ l) :
    ∃ items, v = .list items ∧ ∃ w ∈ items, check w = .ok a := by
  cases v with
  | list items =>
      obtain ⟨i, hi, hitem⟩ := List.mem_mapIdx.mp (Checked.exists_of_mem_all h ha)
      exact ⟨items, rfl, items[i], List.getElem_mem hi, Checked.eq_ok_of_under hitem⟩
  | _ => cases h

/-- A field has a value that its check lets through, or the one for when it is not given. -/
theorem of_field {α : Type} {names : List String} {check : Json → Checked α} {default a : α}
    {fs : Fields} (h : field names check default fs = .ok a) :
    a = default ∨ ∃ f ∈ fs, check f.2 = .ok a := by
  unfold field at h
  split at h
  · rename_i name v hpick
    obtain ⟨given, -, hgiven⟩ := List.exists_of_findSome?_eq_some hpick
    obtain ⟨w, hw, hpair⟩ := Option.map_eq_some_iff.mp hgiven
    cases hpair
    exact .inr ⟨(name, v), Bindings.mem_of_get? hw, Checked.eq_ok_of_under h⟩
  · exact .inl (Except.ok.inj h).symm

end Check

theorem InputConfig.trim_answerName {v : Json} {name : String} (h : answerName v = .ok name) :
    Text.trim name ≠ "" := by
  obtain ⟨s, -, hs⟩ := exists_of_bind h
  dsimp only at hs
  split at hs
  · cases hs
  · rename_i hname
    rw [← Except.ok.inj hs, Text.trim_trim]
    exact hname

/-- An answer can always be kept under the name that an input step was checked with. -/
theorem InputConfig.named_of_check {v : Json} {c : InputConfig} (h : check v = .ok c) :
    Text.trim c.variableName ≠ "" := by
  cases v with
  | object fs =>
      obtain ⟨f, expected, hf, -, rfl⟩ := Checked.both_eq_ok.mp h
      obtain ⟨g, name, hg, hname, rfl⟩ := Checked.both_eq_ok.mp hf
      obtain ⟨prompt, -, rfl⟩ := Checked.exists_of_map hg
      rcases of_field hname with rfl | ⟨w, -, hw⟩
      · show Text.trim "resposta" ≠ ""
        decide
      · exact trim_answerName hw
  | _ => cases h

theorem Scalar.toJson_of_check {v : Json} {s : Scalar} (h : check v = .ok s) : s.toJson = v := by
  cases v <;> cases h <;> rfl

/-- What an action binds or sends has a text if its configuration was given one. -/
theorem ActionConfig.hasText_of_check {v : Json} {c : ActionConfig} (hv : v.hasText = true)
    (h : check v = .ok c) :
    c.variableValue.toJson.hasText = true ∧ ∀ b ∈ c.vistaFields, b.2.hasText = true := by
  cases v with
  | object fs =>
      obtain ⟨f, contactFields, hf, -, rfl⟩ := Checked.both_eq_ok.mp h
      obtain ⟨g, tagId, hg, -, rfl⟩ := Checked.both_eq_ok.mp hf
      obtain ⟨k, vistaFields, hk, hfields, rfl⟩ := Checked.both_eq_ok.mp hg
      obtain ⟨l, value, hl, hvalue, rfl⟩ := Checked.both_eq_ok.mp hk
      obtain ⟨m, name, hm, -, rfl⟩ := Checked.both_eq_ok.mp hl
      obtain ⟨type, -, rfl⟩ := Checked.exists_of_map hm
      constructor
      · rcases of_field hvalue with rfl | ⟨w, hw, hchecked⟩
        · rfl
        · show value.toJson.hasText = true
          rw [Scalar.toJson_of_check hchecked]
          exact Json.hasText_of_mem hv hw
      · rcases of_field hfields with rfl | ⟨⟨name, w⟩, hw, hchecked⟩
        · exact fun b hb => absurd hb List.not_mem_nil
        · have hgiven := Json.hasText_of_mem hv hw
          cases w with
          | object given =>
              cases hchecked
              exact fun b hb => Json.hasText_of_mem hgiven hb
          | _ => cases hchecked
  | _ => cases h

namespace Node

/-- A step with a configuration that what its kind does can be done by. -/
structure Fit (n : Node) : Prop where
  kind : ∀ k, n.kind? = some k → n.config.kind? = some k
  checked : ∀ fields, n.config ≠ .unchecked fields
  named : ∀ c, n.config = .input c → Text.trim c.variableName ≠ ""

/-- An action that is to assign to a name of nothing but blanks. -/
def Nameless (n : Node) : Prop :=
  n.kind? = some .action ∧ ∃ c, n.config = .action c ∧ c.actionType = Engine.assignment ∧
    Text.trim (Engine.assignedName c) = ""

variable {v : Json} {n : Node}

private theorem fit_config {kind : NodeKind} {config : NodeConfig}
    (h : NodeConfig.check kind v = .ok config) : (∀ fields, config ≠ .unchecked fields) ∧
      ∀ c, config = .input c → Text.trim c.variableName ≠ "" := by
  cases kind with
  | input =>
      obtain ⟨c, hc, rfl⟩ := Checked.exists_of_map h
      refine ⟨by simp, ?_⟩
      rintro _ ⟨⟩
      exact InputConfig.named_of_check hc
  | _ =>
      obtain ⟨c, -, rfl⟩ := Checked.exists_of_map h
      exact ⟨by simp, by simp⟩

theorem fit_of_check (h : check v = .ok n) : n.Fit := by
  have hkind : ∀ k, n.kind? = some k → n.config.kind? = some k := by
    intro k hk
    rw [kind?_config_of_check h, kind?_eq_some_iff.mp hk, k.trim_name]
    exact NodeKind.ofName?_name k
  obtain ⟨fs, -, hconfig⟩ := exists_of_check h
  split at hconfig
  · obtain ⟨hchecked, hnamed⟩ := fit_config hconfig
    exact ⟨hkind, hchecked, hnamed⟩
  · exact ⟨hkind, by simp [hconfig], by simp [hconfig]⟩

private theorem mem_of_setDefault {name : String} {fs : Fields} {b : String × Json}
    (h : b ∈ setDefault name v fs) : b = (name, v) ∨ b ∈ fs := by
  unfold setDefault at h
  split at h
  · exact .inr h
  · exact Bindings.eq_or_mem_of_put h

theorem hasText_of_mem_flatten {fs : Fields} (h : (Json.object fs).hasText = true)
    {b : String × Json} (hb : b ∈ flatten fs) : b.2.hasText = true := by
  have hkept {c : String × Json}
      (hc : c ∈ Bindings.erase "position" (Bindings.erase "data" fs)) : c.2.hasText = true :=
    Json.hasText_of_mem h (List.mem_of_mem_filter (List.mem_of_mem_filter hc))
  unfold flatten at hb
  dsimp only at hb
  split at hb
  · rename_i editor hdata
    have heditor := Json.hasText_of_mem h (Bindings.mem_of_get? hdata)
    have hgiven {name : String} {w empty : Json} (hw : Bindings.get? name editor = some w)
        (hempty : empty.hasText = true) : (if w.isTruthy then w else empty).hasText = true := by
      split
      · exact Json.hasText_of_mem heditor (Bindings.mem_of_get? hw)
      · exact hempty
    rcases mem_of_setDefault hb with rfl | hb
    · dsimp only
      split
      · exact hgiven ‹_› rfl
      · rfl
    · rcases mem_of_setDefault hb with rfl | hb
      · dsimp only
        split
        · exact hgiven ‹_› rfl
        · rfl
      · exact hkept hb
  · exact hkept hb

theorem hasText_configGiven {fs : Fields} (h : (Json.object fs).hasText = true) :
    (configGiven fs).hasText = true := by
  unfold configGiven
  split
  · rfl
  · rfl
  · rename_i hget
    exact hasText_of_mem_flatten h (Bindings.mem_of_get? hget)

theorem worded_of_check (hv : v.hasText = true) (h : check v = .ok n) : n.Worded := by
  intro c hc
  obtain ⟨fs, rfl, hconfig⟩ := exists_of_check h
  have hgiven := hasText_configGiven hv
  rw [hc] at hconfig
  split at hconfig
  · rename_i kind hkind
    have hkind' : some kind = some .action := by
      rw [← NodeConfig.kind?_of_check hconfig]
      rfl
    cases hkind'
    obtain ⟨d, hd, hsame⟩ := Checked.exists_of_map hconfig
    cases hsame
    exact ActionConfig.hasText_of_check hgiven hd
  · cases hconfig

end Node

namespace Flow

theorem exists_check {v : Json} {flow : Flow} (h : check v = .ok flow) {node : Node}
    (hn : node ∈ flow.nodes) :
    ∃ w, Node.check w = .ok node ∧ (v.hasText = true → w.hasText = true) := by
  cases v with
  | object fs =>
      obtain ⟨given, hgiven, hrules⟩ := exists_of_bind h
      have hsame : given = flow := by
        split at hrules
        · cases hrules
        · exact Except.ok.inj hrules
      subst hsame
      obtain ⟨f, edges, hf, -, rfl⟩ := Checked.both_eq_ok.mp hgiven
      obtain ⟨g, nodes, hg, hnodes, rfl⟩ := Checked.both_eq_ok.mp hf
      obtain ⟨k, department, hk, -, rfl⟩ := Checked.both_eq_ok.mp hg
      obtain ⟨m, description, hm, -, rfl⟩ := Checked.both_eq_ok.mp hk
      obtain ⟨l, name, hl, -, rfl⟩ := Checked.both_eq_ok.mp hm
      obtain ⟨id, -, rfl⟩ := Checked.exists_of_map hl
      rcases of_field hnodes with rfl | ⟨⟨key, w⟩, hw, hlist⟩
      · cases hn
      · obtain ⟨items, rfl, u, hu, hchecked⟩ := exists_of_mem_listOf hlist hn
        exact ⟨u, hchecked, fun htext =>
          Json.hasText_of_mem_list (Json.hasText_of_mem htext hw) hu⟩
  | _ => cases h

theorem fit_of_check {v : Json} {flow : Flow} (h : check v = .ok flow) {node : Node}
    (hn : node ∈ flow.nodes) : node.Fit := by
  obtain ⟨w, hw, -⟩ := exists_check h hn
  exact Node.fit_of_check hw

theorem worded_of_check {v : Json} {flow : Flow} (hv : v.hasText = true)
    (h : check v = .ok flow) {node : Node} (hn : node ∈ flow.nodes) : node.Worded := by
  obtain ⟨w, hw, htext⟩ := exists_check h hn
  exact Node.worded_of_check (htext hv) hw

end Flow
end Dialogue
