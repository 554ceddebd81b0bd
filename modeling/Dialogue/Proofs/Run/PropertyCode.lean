import Dialogue.Conversation
import Dialogue.Proofs.Flow.Graph
import Dialogue.Proofs.Json.Display
import Dialogue.Proofs.Run.Request
import Dialogue.Proofs.Text.Tokens

/-!
# Codes of properties

An update of the CRM names a property by a code: the one of the step, unless it says nothing or has
a token left in it, then the one of a variable, then a fixed one. So a code is never empty, and it
has a token only where the variable has one (`visit_codigo`). The variable is displayed then, while
a token for it gives way to what is spoken, and for some values that is another text
(`vistaPayload_named`).
-/
namespace Dialogue

/-- What the variable for the code comes to, or the fixed code where it says nothing. -/
def Variables.propertyCode (vars : Variables) : String :=
  shownOr defaultProperty ((Bindings.get? propertyVariable vars).getD .null)

theorem Variables.propertyCode_ne_empty (vars : Variables) : vars.propertyCode ≠ "" := by
  unfold propertyCode shownOr
  split
  · exact Json.display_ne_empty ‹_›
  · decide

/-- The fixed code has no token, so a token comes from the variable. -/
theorem Variables.hasToken_propertyCode (vars : Variables) :
    hasToken vars.propertyCode = true ↔ ∃ v, Bindings.get? propertyVariable vars = some v ∧
      v.isTruthy = true ∧ hasToken v.display = true := by
  have hfixed : hasToken defaultProperty = false := by decide +kernel
  unfold propertyCode shownOr
  cases Bindings.get? propertyVariable vars with
  | none => simp [Json.isTruthy, hfixed]
  | some v => by_cases hv : v.isTruthy = true <;> simp [hv, hfixed]

namespace Engine

variable {e : Engine} {node : Node} {run r : Run} {config : ActionConfig} {request : EffectRequest}
  {v : Json}

/-- The fields of an update, each filled if it is a text. -/
def vistaFields (e : Engine) (run : Run) (config : ActionConfig) : Payload :=
  config.vistaFields.map fun f => (f.1, e.fillField run f.2)

/-- The code that the step names itself. -/
def namedCode (e : Engine) (run : Run) (config : ActionConfig) : String :=
  shownOr "" (((Bindings.get? "propertyCode" config.vistaFields).map (e.fillField run)).getD .null)

/-- The code of the step says nothing, or a token in it was left open. -/
def CodeOpen (e : Engine) (run : Run) (config : ActionConfig) : Prop :=
  e.namedCode run config = "" ∨ hasToken (e.namedCode run config) = true

instance (e : Engine) (run : Run) (config : ActionConfig) : Decidable (e.CodeOpen run config) :=
  inferInstanceAs (Decidable (_ ∨ _))

/-- The code that an update goes by. -/
def codeFor (e : Engine) (run : Run) (config : ActionConfig) : String :=
  if e.CodeOpen run config then run.vars.propertyCode else e.namedCode run config

theorem propertyCode_vistaFields (e : Engine) (run : Run) (config : ActionConfig) :
    propertyCode run.vars (e.vistaFields run config) = e.codeFor run config := by
  have hnamed : shownOr "" ((e.vistaFields run config).get "propertyCode") =
      e.namedCode run config := by
    rw [Payload.get, vistaFields, Bindings.get?_map]
    rfl
  unfold propertyCode codeFor CodeOpen
  rw [hnamed]
  rfl

theorem vistaPayload_eq (e : Engine) (run : Run) (config : ActionConfig) :
    e.vistaPayload run config = Bindings.merge [("codigo", .str (e.codeFor run config))]
      (Bindings.erase "propertyCode" (e.vistaFields run config)) := by
  rw [← propertyCode_vistaFields]
  rfl

theorem codeFor_ne_empty (e : Engine) (run : Run) (config : ActionConfig) :
    e.codeFor run config ≠ "" := by
  unfold codeFor
  split
  · exact run.vars.propertyCode_ne_empty
  · rename_i hclosed
    exact fun hempty => hclosed (.inl hempty)

theorem hasToken_codeFor (e : Engine) (run : Run) (config : ActionConfig) :
    hasToken (e.codeFor run config) = true ↔ e.CodeOpen run config ∧
      ∃ v, Bindings.get? propertyVariable run.vars = some v ∧ v.isTruthy = true ∧
        hasToken v.display = true := by
  rw [← run.vars.hasToken_propertyCode]
  unfold codeFor
  split
  · simp [*]
  · rename_i hclosed
    exact iff_of_false (fun htoken => hclosed (.inr htoken)) (fun h => hclosed h.1)

theorem mem_fields_iff {name : String} (hname : name ≠ "propertyCode") : (name, v) ∈
    Bindings.erase "propertyCode" (e.vistaFields run config) ↔
      ∃ w, (name, w) ∈ config.vistaFields ∧ e.fillField run w = v := by
  simp [Bindings.erase, vistaFields, hname]

theorem get?_codigo (h : ∀ v, ("codigo", v) ∉ config.vistaFields) :
    Bindings.get? "codigo" (e.vistaPayload run config) = some (.str (e.codeFor run config)) := by
  rw [vistaPayload_eq, Bindings.get?_merge_of_not_mem]
  · rfl
  · intro v hv
    obtain ⟨w, hw, -⟩ := (mem_fields_iff (by decide)).mp hv
    exact h w hw

/-- A request for an update has a code in it: what a field `codigo` of the step comes to, or else a
text that says something. There is a token in that text just where the code of the step is open and
the variable for it has a text with a token itself. -/
theorem visit_codigo (h : e.visit node run = .asking r request)
    (hu : request.effect = updateVista) :
    ∃ config, node.config = .action config ∧
      ((∀ v, ("codigo", v) ∉ config.vistaFields) →
        ∃ code ≠ "", Bindings.get? "codigo" request.payload = some (.str code) ∧
          code = (if e.CodeOpen run config then run.vars.propertyCode
            else e.namedCode run config) ∧
          (hasToken code = true ↔ e.CodeOpen run config ∧
            ∃ v, Bindings.get? propertyVariable run.vars = some v ∧ v.isTruthy = true ∧
              hasToken v.display = true)) ∧
      ((∃ v, ("codigo", v) ∈ config.vistaFields) → ∃ v, ("codigo", v) ∈ config.vistaFields ∧
        Bindings.get? "codigo" request.payload = some (e.fillField run v)) := by
  cases visit_asking h with
  | @vista config hc =>
      refine ⟨config, hc, fun hfree => ?_, fun ⟨v, hv⟩ => ?_⟩
      · exact ⟨e.codeFor run config, codeFor_ne_empty e run config, get?_codigo hfree, rfl,
          hasToken_codeFor e run config⟩
      · have hfield : ∃ w, ("codigo", w) ∈
            Bindings.erase "propertyCode" (e.vistaFields run config) :=
          ⟨e.fillField run v, (mem_fields_iff (by decide)).mpr ⟨v, hv, rfl⟩⟩
        obtain ⟨w, hw, hget⟩ := Bindings.exists_get?_merge hfield
          [("codigo", .str (e.codeFor run config))]
        obtain ⟨v, hv, rfl⟩ := (mem_fields_iff (by decide)).mp hw
        exact ⟨v, hv, by rw [vistaPayload_eq, hget]⟩
  | integration hc =>
      have hother : integration ≠ updateVista := by decide
      exact absurd hu hother

end Engine

/-! ### Updates after a question for the code -/

namespace Listing

def update (id : String) (fields : Payload) : Node :=
  ⟨id, "action", "", .action ⟨updateVista, none, .null, fields, none, []⟩⟩

/-- A flow that asks for the code of a property and makes two updates. -/
def engine (expected : AnswerKind) (first second : Payload) : Engine where
  flow := {
    id := "listing", name := "Listing", description := "", department := none
    nodes := [
      ⟨"entry", "start", "", .start ⟨"first_message", [], none⟩⟩,
      ⟨"question", "input", "", .input ⟨"", propertyVariable, expected⟩⟩,
      update "first" first, update "second" second]
    edges := [
      ⟨none, "entry", "question", none, none⟩,
      ⟨none, "question", "first", none, none⟩,
      ⟨none, "first", "second", none, none⟩] }
  settings := default

/-- What the gateway is given in the run with an answer. -/
def payloads (e : Engine) (answer : String) : List Payload :=
  let c : Conversation := { session := .make e none, gateway := .arranged [{ success := true }] 0 }
  (c.start.1.send answer).1.session.requests.map (·.payload)

/-- The variable is sent where the step names no code. -/
theorem plain_codigo : ∃ r request,
    (engine .text [] []).visit (update "first" [])
      { id := "run", vars := [(propertyVariable, .str "AP-101")] } = .asking r request ∧
    request.effect = updateVista ∧
    Bindings.get? "codigo" request.payload = some (.str "AP-101") := by
  have hvisit : (engine .text [] []).visit (update "first" [])
      { id := "run", vars := [(propertyVariable, .str "AP-101")] } = .asking _ _ := rfl
  obtain ⟨config, hc, htext, -⟩ := Engine.visit_codigo hvisit rfl
  cases hc
  obtain ⟨code, -, hget, hcode, -⟩ := htext (by simp)
  refine ⟨_, _, hvisit, rfl, hget.trans ?_⟩
  rw [hcode]
  decide +kernel

/-- An answer that looks like a token is sent as the code, and a field takes its place whatever it
holds. -/
theorem answer_leaks : (engine .text [] [("codigo", .null)]).flow.Accepted ∧
    payloads (engine .text [] [("codigo", .null)]) "\x7b\x7bx\x7d\x7d" =
      [[("codigo", .str "\x7b\x7bx\x7d\x7d")], [("codigo", .null)]] ∧
    hasToken "\x7b\x7bx\x7d\x7d" = true := ⟨rfl, by decide +kernel, by decide +kernel⟩

end Listing

namespace Engine

variable {e : Engine} {run : Run} {config : ActionConfig} {v : Json}

/-! ### The variable, displayed and spoken -/

/-- The token for the variable. -/
def codeToken : String := "\x7b\x7b" ++ propertyVariable ++ "\x7d\x7d"

theorem fill_codeToken (hv : Bindings.get? propertyVariable run.vars = some v) :
    e.fill run codeToken = v.spoken := by
  have hpieces : pieces codeToken.toList = [.token propertyVariable.toList] := by decide +kernel
  have hother : Variables.contactKeys.contains propertyVariable = false := by decide
  simp only [fill, Variables.interpolate, hpieces, List.flatMap_singleton, Variables.render,
    Variables.resolve?, Variables.namesContact, String.ofList_toList, hother, Bool.false_and,
    Bool.false_eq_true, if_false, hv, Option.map_some]

theorem codeFor_named (hcode : Bindings.get? "propertyCode" config.vistaFields =
      some (.str codeToken)) (hv : Bindings.get? propertyVariable run.vars = some v)
    (hsaid : v.spoken ≠ "") (hclosed : hasToken v.spoken = false) :
    e.codeFor run config = v.spoken := by
  have hnamed : e.namedCode run config = v.spoken := by
    rw [namedCode, hcode, Option.map_some, fillField, fill_codeToken hv]
    simp [shownOr, Json.isTruthy, hsaid, Json.display]
  rw [codeFor, if_neg, hnamed]
  simp [CodeOpen, hnamed, hsaid, hclosed]

/-- The update where the step leaves the code to the variable. -/
def withoutCode (config : ActionConfig) : ActionConfig :=
  { config with vistaFields := Bindings.erase "propertyCode" config.vistaFields }

theorem codeFor_withoutCode (e : Engine) (run : Run) (config : ActionConfig) :
    e.codeFor run (withoutCode config) = run.vars.propertyCode := by
  have hnone : Bindings.get? "propertyCode" (withoutCode config).vistaFields = none := by
    rw [withoutCode, Bindings.get?_erase, if_pos rfl]
  have hopen : e.CodeOpen run (withoutCode config) := by
    rw [CodeOpen, namedCode, hnone]
    exact .inl rfl
  rw [codeFor, if_pos hopen]

theorem vistaPayload_withoutCode (e : Engine) (run : Run) (config : ActionConfig) :
    e.vistaPayload run (withoutCode config) =
      Bindings.merge [("codigo", .str run.vars.propertyCode)]
        (Bindings.erase "propertyCode" (e.vistaFields run config)) := by
  rw [vistaPayload_eq, codeFor_withoutCode]
  congr 1
  simp [vistaFields, withoutCode, Bindings.erase, List.filter_map, Function.comp_def]

theorem propertyCode_eq_spoken_iff (hv : Bindings.get? propertyVariable run.vars = some v)
    (hsaid : v.spoken ≠ "") :
    run.vars.propertyCode = v.spoken ↔ v.isTruthy = true ∧ ¬ v.IsRecast := by
  rw [Variables.propertyCode, hv, Option.getD_some, shownOr]
  cases htruthy : v.isTruthy with
  | false =>
      have hspoken := Json.spoken_of_not_truthy htruthy
      have hne : defaultProperty ≠ v.spoken := by
        intro hsame
        rw [← hsame] at hspoken
        revert hspoken
        decide
      simpa using hne
  | true =>
      have hnull : v ≠ .null := by
        rintro rfl
        exact hsaid rfl
      rw [if_pos rfl, eq_comm, Json.spoken_eq_display_iff hnull, eq_self, true_and]

/-- A step that names the code by the token for the variable sends what is spoken of its value. It
sends the same as a step that leaves the code to the variable just where the value counts as
something and is spoken as it is displayed, so neither a truth value nor zero nor a whole double. -/
theorem vistaPayload_named (e : Engine) (run : Run) {config : ActionConfig}
    (hcode : Bindings.get? "propertyCode" config.vistaFields = some (.str codeToken))
    (hfree : ∀ v, ("codigo", v) ∉ config.vistaFields)
    (hv : Bindings.get? propertyVariable run.vars = some v) (hsaid : v.spoken ≠ "")
    (hclosed : hasToken v.spoken = false) :
    Bindings.get? "codigo" (e.vistaPayload run config) = some (.str v.spoken) ∧
      Bindings.get? "codigo" (e.vistaPayload run (withoutCode config)) =
        some (.str (if v.isTruthy then v.display else "TEST-001")) ∧
      (e.vistaPayload run config = e.vistaPayload run (withoutCode config) ↔
        v.isTruthy = true ∧ ¬ v.IsRecast) := by
  have hnamed : Bindings.get? "codigo" (e.vistaPayload run config) =
      some (.str (e.codeFor run config)) := get?_codigo hfree
  rw [codeFor_named hcode hv hsaid hclosed] at hnamed
  have hplain : Bindings.get? "codigo" (e.vistaPayload run (withoutCode config)) =
      some (.str run.vars.propertyCode) := by
    rw [← codeFor_withoutCode e run config]
    exact get?_codigo fun v hmem => hfree v (List.mem_of_mem_filter hmem)
  refine ⟨hnamed, ?_, ?_⟩
  · rw [hplain, Variables.propertyCode, hv]
    rfl
  · rw [← propertyCode_eq_spoken_iff hv hsaid]
    constructor
    · intro hsame
      rw [hsame, hplain] at hnamed
      simpa using hnamed
    · intro hsame
      rw [vistaPayload_withoutCode, vistaPayload_eq, codeFor_named hcode hv hsaid hclosed, hsame]

end Engine

namespace Listing

/-- A code that is a text is the same either way. -/
theorem text_named :
    let config : ActionConfig := ⟨updateVista, none, .null,
      [("propertyCode", .str Engine.codeToken), ("status", .str "vendido")], none, []⟩
    let run : Run := { id := "run", vars := [(propertyVariable, .str "AP-101")] }
    Bindings.get? "propertyCode" config.vistaFields = some (.str Engine.codeToken) ∧
      (∀ v, ("codigo", v) ∉ config.vistaFields) ∧
      Bindings.get? propertyVariable run.vars = some (.str "AP-101") ∧
      (Json.str "AP-101").spoken ≠ "" ∧ hasToken (Json.str "AP-101").spoken = false ∧
      (engine .text [] []).vistaPayload run config =
        (engine .text [] []).vistaPayload run (Engine.withoutCode config) := by
  intro config run
  have hfree : ∀ v, ("codigo", v) ∉ config.vistaFields := by simp [config]
  have hclosed : hasToken (Json.str "AP-101").spoken = false := by decide +kernel
  have hcode : Bindings.get? "propertyCode" config.vistaFields = some (.str Engine.codeToken) := rfl
  obtain ⟨-, -, hsame⟩ := Engine.vistaPayload_named (engine .text [] []) run hcode hfree rfl
    (by decide) hclosed
  exact ⟨hcode, hfree, rfl, by decide, hclosed, hsame.mpr ⟨by decide, by simp [Json.IsRecast]⟩⟩

/-- A number that is answered is sent with its point by one step and without it by the other. -/
theorem number_differs :
    (engine .number [("propertyCode", .str Engine.codeToken)] []).flow.Accepted ∧
      payloads (engine .number [("propertyCode", .str Engine.codeToken)] []) "500" =
        [[("codigo", .str "500")], [("codigo", .str "500.0")]] := ⟨rfl, by decide +kernel⟩

end Listing

end Dialogue
