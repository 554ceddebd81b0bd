import Dialogue.Proofs.Json.Limits
import Dialogue.Proofs.Run.Processing
import Dialogue.Proofs.Run.Request

/-!
# What a step puts into words

A step says texts and hands over texts in which the values of variables take the places of tokens.
It fails where one of these values has no text (`Engine.wordless?`), which is nowhere if the
variables and what the step itself holds have texts (`wordless?_of_worded`), as everything has that
an answer leaves behind.
-/
namespace Dialogue

theorem Answer.hasText_coerce (text : String) (kind : AnswerKind) :
    (coerce text kind).hasText = true := by
  cases kind with
  | currency =>
      show (readCurrency (Text.trim text)).hasText = true
      unfold readCurrency
      split <;> rfl
  | _ => rfl

/-- Every value has a text. -/
def Variables.Worded (vars : Variables) : Prop := ∀ b ∈ vars, b.2.hasText = true

/-- What an action binds or sends has a text. -/
def Node.Worded (node : Node) : Prop := ∀ c, node.config = .action c →
  c.variableValue.toJson.hasText = true ∧ ∀ b ∈ c.vistaFields, b.2.hasText = true

namespace Variables

variable {vars : Variables} {name : String} {value : Json}

theorem Worded.get? (h : vars.Worded) (hv : Bindings.get? name vars = some value) :
    value.fault? = none := Json.hasText_eq_true.mp (h _ (Bindings.mem_of_get? hv))

theorem Worded.fault? (h : vars.Worded) (contact text : String) :
    vars.fault? contact text = none := by
  rw [Variables.fault?, List.findSome?_eq_none_iff]
  intro piece _
  cases piece with
  | plain c => rfl
  | token name =>
      rw [pieceFault?]
      split
      · rfl
      · rw [Option.bind_eq_none_iff]
        exact fun value hv => h.get? hv

theorem Worded.put (h : vars.Worded) (name : String) (hv : value.hasText = true) :
    Worded (Bindings.put name value vars) := by
  intro b hb
  rcases Bindings.eq_or_mem_of_put hb with rfl | hb
  · exact hv
  · exact h b hb

theorem Worded.seed (h : vars.Worded) (contact phone : String) :
    Worded (vars.seed (.str contact) (.str phone)) := (h.put _ rfl).put _ rfl

theorem Worded.binding (h : vars.Worded) (name : String) (hv : value.hasText = true) :
    Worded (Bindings.merge vars (binding? name value).toList) := by
  unfold binding?
  split
  · exact h
  · exact h.put _ hv

theorem Worded.assigned {node : Node} (h : vars.Worded) (hn : node.Worded) :
    Worded (node.assigned vars) := by
  unfold Node.assigned Node.assignment?
  split
  · rename_i c _ hc
    split
    · exact h.binding _ (hn c hc).1
    · exact h
  · exact h

end Variables

namespace Engine

variable {e : Engine} {node : Node} {run : Run} {raised : Raised} {f : Failure}

theorem fillFault?_of_worded (e : Engine) (h : run.vars.Worded) (text : String) :
    e.fillFault? run text = none := h.fault? _ _

@[simp] theorem fillFault?_empty (e : Engine) (run : Run) : e.fillFault? run "" = none := rfl

theorem codeFault?_of_worded {fields : Payload} (h : run.vars.Worded)
    (hf : ∀ b ∈ fields, b.2.hasText = true) : codeFault? run.vars fields = none := by
  have hcode : (fields.get "propertyCode").fault? = none := by
    unfold Payload.get
    cases hget : Bindings.get? "propertyCode" fields with
    | none => rfl
    | some v => exact Json.hasText_eq_true.mp (hf _ (Bindings.mem_of_get? hget))
  unfold codeFault?
  rw [hcode]
  dsimp only
  split
  · cases hget : Bindings.get? propertyVariable run.vars with
    | none => rfl
    | some v => exact h.get? hget
  · rfl

theorem vistaFault?_of_worded (e : Engine) {c : ActionConfig} (h : run.vars.Worded)
    (hf : ∀ b ∈ c.vistaFields, b.2.hasText = true) : e.vistaFault? run c = none := by
  have hfields : c.vistaFields.findSome? (fun b => e.fieldFault? run b.2) = none := by
    rw [List.findSome?_eq_none_iff]
    intro b _
    unfold fieldFault?
    split
    · exact fillFault?_of_worded e h _
    · rfl
  have hfilled : ∀ b ∈ c.vistaFields.map (fun b => (b.1, e.fillField run b.2)),
      b.2.hasText = true := by
    intro b hb
    obtain ⟨g, hg, rfl⟩ := List.mem_map.mp hb
    show (e.fillField run g.2).hasText = true
    unfold fillField
    split
    · rfl
    · exact hf g hg
  rw [vistaFault?, hfields, codeFault?_of_worded h hfilled, Option.none_or]

theorem integrationFault?_of_worded (e : Engine) (c : IntegrationConfig) (h : run.vars.Worded) :
    e.integrationFault? run c = none := by
  rw [integrationFault?, Option.or_eq_none_iff, Option.bind_eq_none_iff, Option.bind_eq_none_iff]
  exact ⟨fun text _ => fillFault?_of_worded e h text, fun text _ => fillFault?_of_worded e h text⟩

theorem prompt_str (e : Engine) (node : Node) (run : Run) (text : String) :
    e.prompt node run (.str text) = match e.fillFault? run text with
      | some f => .error (.unsayable f)
      | none => .ok (if text = "" then run else run.say .bot (e.fill run text) node.id) := by
  unfold prompt
  by_cases hempty : text = ""
  · subst hempty
    rfl
  · have htruthy : (Json.str text).isTruthy = true := by simpa [Json.isTruthy] using hempty
    rw [if_pos htruthy]
    show e.sayFilled node run text = _
    rw [sayFilled, filled_eq, if_neg hempty]
    cases e.fillFault? run text <;> rfl

/-- What the texts of a step of a checked flow fail of, with the run as it was by then. -/
def wordless? (e : Engine) (node : Node) (run : Run) : Option Raised :=
  match node.kind?, node.config with
  | some .message, .message c =>
    (e.fillFault? run (if c.text = "" then "[Mensagem vazia]" else c.text)).map
      (⟨run, .unsayable ·⟩)
  | some .input, .input c => (e.fillFault? run c.prompt).map (⟨run, .unsayable ·⟩)
  | some .action, .action c =>
    if c.actionType = updateVista then
      (e.vistaFault? run c).map (⟨e.announceVista node run, .unsayable ·⟩)
    else none
  | some .integration, .integration c =>
    (e.integrationFault? run c).map (⟨e.announceIntegration node c run, .unsayable ·⟩)
  | some .finish, .finish c => (e.fillFault? run c.message).map (⟨run, .unsayable ·⟩)
  | _, _ => none

theorem wordless?_of_worded (e : Engine) (hr : run.vars.Worded) (hn : node.Worded) :
    e.wordless? node run = none := by
  unfold wordless?
  split
  · rw [fillFault?_of_worded e hr, Option.map_none]
  · rw [fillFault?_of_worded e hr, Option.map_none]
  · rename_i c _ hc
    rw [vistaFault?_of_worded e hr (hn c hc).2, Option.map_none, ite_self]
  · rw [integrationFault?_of_worded e _ hr, Option.map_none]
  · rw [fillFault?_of_worded e hr, Option.map_none]
  · rfl

/-- What a step has no words for is said of the variables that it began with. -/
theorem of_wordless? (h : e.wordless? node run = some raised) :
    raised.run.vars = run.vars ∧ ∃ t, raised.failure = .unsayable t := by
  unfold wordless? at h
  split at h
  case h_3 =>
    split at h
    · obtain ⟨t, -, rfl⟩ := Option.map_eq_some_iff.mp h
      exact ⟨rfl, t, rfl⟩
    · cases h
  case h_6 => cases h
  all_goals
    obtain ⟨t, -, rfl⟩ := Option.map_eq_some_iff.mp h
    exact ⟨rfl, t, rfl⟩

theorem visitMessage_eq_error_iff {c : MessageConfig} :
    e.visitMessage node c run = .error raised ↔
      (e.fillFault? run (if c.text = "" then "[Mensagem vazia]" else c.text)).map
        (fun f => (⟨run, .unsayable f⟩ : Raised)) = some raised := by
  unfold visitMessage
  rw [filled_eq]
  cases e.fillFault? run (if c.text = "" then "[Mensagem vazia]" else c.text) <;> simp

theorem visitInput_eq_error_iff {c : InputConfig} :
    e.visitInput node c.fields run = .error raised ↔
      (e.fillFault? run c.prompt).map (fun f => (⟨run, .unsayable f⟩ : Raised)) =
        some raised := by
  have hprompt : c.fields.prompt = .str c.prompt := rfl
  have hname : c.fields.variableName.said = .ok c.variableName := rfl
  unfold visitInput
  rw [hprompt, prompt_str, hname]
  cases e.fillFault? run c.prompt <;> simp

theorem visitEnd_eq_error_iff {c : EndConfig} :
    e.visitEnd node c run = .error raised ↔
      (e.fillFault? run c.message).map (fun f => (⟨run, .unsayable f⟩ : Raised)) =
        some raised := by
  unfold visitEnd
  rw [prompt_str]
  cases e.fillFault? run c.message <;> simp

theorem visitAssignment_eq_error_iff {c : ActionConfig} :
    e.visitAssignment node c run = .error raised ↔
      Text.trim (assignedName c) = "" ∧ raised = ⟨run, .blankVariable⟩ := by
  simp only [visitAssignment, Run.setVariable?, Variables.set?]
  by_cases hblank : Text.trim (assignedName c) = ""
  · simp [hblank, eq_comm]
  · simp [hblank]

theorem attempt_of_wordless? (hh : Bindings.get? node.type e.handlers = none)
    (h : e.wordless? node run = some raised) : e.attempt node run = .error raised := by
  simp only [attempt, hh]
  unfold wordless? at h
  split at h
  case h_1 c hk hc =>
    simp only [hk, visitBuiltin, hc]
    exact visitMessage_eq_error_iff.mpr h
  case h_2 c hk hc =>
    simp only [hk, visitBuiltin, hc]
    exact visitInput_eq_error_iff.mpr h
  case h_3 c hk hc =>
    split at h
    · rename_i hupdates
      simp only [hk, visitBuiltin, hc, visitAction, if_pos hupdates]
      exact ask_eq_error.mpr h
    · cases h
  case h_4 c hk hc =>
    simp only [hk, visitBuiltin, hc]
    exact ask_eq_error.mpr h
  case h_5 c hk hc =>
    simp only [hk, visitBuiltin, hc]
    exact visitEnd_eq_error_iff.mpr h
  case h_6 => cases h

end Engine
end Dialogue
