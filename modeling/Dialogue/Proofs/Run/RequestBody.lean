import Dialogue.Conversation
import Dialogue.Proofs.Flow.Graph
import Dialogue.Proofs.Json.Filling
import Dialogue.Proofs.Run.Request
import Dialogue.Proofs.Text.Dissection

/-!
# Bodies of requests

A body is filled as a text, before anything reads it as JSON. Where what comes in may stand between
quotes as it is, that makes no difference: the body that is sent has the value of the one in the
flow with each of its texts filled (`visit_body`). A quote in an answer is enough to break it.
-/
namespace Dialogue

theorem isName_of_mem_tokenNames {name cs : List Char} (h : name ∈ tokenNames cs) :
    IsName name := by
  induction cs using pieces_induction with
  | nil => cases h
  | token other rest hother ih =>
      rw [tokenNames_source hother] at h
      rcases List.mem_cons.mp h with rfl | h
      · exact hother
      · exact ih h
  | plain c rest hplain ih =>
      rw [tokenNames_cons hplain] at h
      exact ih h

theorem Variables.standIn_eq (vars : Variables) (contact : String) (name : List Char) :
    vars.standIn contact name = match vars.resolve? contact (String.ofList name) with
      | some s => s.toList
      | none => (Piece.token name).source :=
  (congrFun (vars.render_eq_fill contact) (.token name)).symm

namespace Engine

variable {e : Engine} {node : Node} {run r : Run} {config : IntegrationConfig}
  {request : EffectRequest} {v : Json} {text : String}

theorem fill_eq (e : Engine) (run : Run) :
    e.fill run = Json.fillText (run.vars.standIn e.settings.contactName) := by
  funext text
  rw [Json.fillText, ← Variables.toList_interpolate, String.ofList_toList]
  rfl

/-- Whatever the tokens of a text stand for may stand between quotes as it is. -/
def FitsIn (e : Engine) (run : Run) (text : String) : Prop :=
  ∀ name ∈ tokenNames text.toList, ∀ s,
    run.vars.resolve? e.settings.contactName (String.ofList name) = some s → Json.Fits s.toList

theorem parse_fill (hv : Json.parse text = .ok v) (hplain : Json.Plain text.toList)
    (hfits : e.FitsIn run text) (hapart : v.Apart (e.fill run)) :
    Json.parse (e.fill run text) = .ok (v.mapTexts (e.fill run)) := by
  rw [fill_eq] at hapart ⊢
  refine Json.parse_fill hv hplain (fun name hname => ?_) hapart
  rw [Variables.standIn_eq]
  split
  · rename_i s hs
    exact hfits name hname s hs
  · exact Json.fits_source (isName_of_mem_tokenNames hname)

theorem ne_empty_of_parse (hv : Json.parse text = .ok v) : text ≠ "" := by
  rintro rfl
  cases hv

/-- The body of a request is a text that reads as JSON, and its value is the one in the flow with
each of its texts filled. It is what is sent. -/
theorem visit_body (h : e.visit node run = .asking r request)
    (hc : node.config = .integration config) (hbody : config.body = some text)
    (hv : Json.parse text = .ok v) (hplain : Json.Plain text.toList) (hfits : e.FitsIn run text)
    (hapart : v.Apart (e.fill run)) :
    ∃ body, request.payload.get "body" = .str body ∧
      Json.parse body = .ok (v.mapTexts (e.fill run)) ∧
      Http.Integration.content (request.payload.get "body") =
        .ok (.json (v.mapTexts (e.fill run))) := by
  have hfilled := parse_fill hv hplain hfits hapart
  have hget : request.payload.get "body" = .str (e.fill run text) := by
    cases visit_asking h with
    | vista hother =>
        rw [hc] at hother
        cases hother
    | integration hsame =>
        rw [hc] at hsame
        cases hsame
        show e.fillOption run config.body = _
        rw [hbody]
        exact if_neg (ne_empty_of_parse hv)
  refine ⟨e.fill run text, hget, hfilled, ?_⟩
  have htruthy : (Json.str (e.fill run text)).isTruthy = true := by
    simpa [Json.isTruthy] using ne_empty_of_parse hfilled
  rw [hget, Http.Integration.content, htruthy, hfilled]
  rfl

end Engine

/-! ### Requests with the name of a contact -/

namespace Lead

def request (body : String) : Node :=
  ⟨"request", "integration", "", .integration ⟨"webhook", none, .post, [], some body⟩⟩

/-- A flow that makes a request with a body for a contact. -/
def engine (contact body : String) : Engine where
  flow := {
    id := "lead", name := "Lead", description := "", department := none
    nodes := [⟨"entry", "start", "", .start ⟨"first_message", [], none⟩⟩, request body]
    edges := [⟨none, "entry", "request", none, none⟩] }
  settings := { (default : Settings) with contactName := contact }

def named : String := "\x7b\"name\": \"\x7b\x7bnome\x7d\x7d\"\x7d"

/-- A name that may stand between quotes is all that changes. -/
theorem named_filled : ∃ r asked,
    (engine "Ana" named).visit (request named) { id := "run" } = .asking r asked ∧
    Json.parse named = .ok (.object [("name", .str "\x7b\x7bnome\x7d\x7d")]) ∧
    Json.Plain named.toList ∧ (engine "Ana" named).FitsIn { id := "run" } named ∧
    Http.Integration.content (asked.payload.get "body") =
      .ok (.json (.object [("name", .str "Ana")])) := by
  have hfault : (engine "Ana" named).integrationFault?
      (Run.enter { id := "run" } (request named).id)
      ⟨"webhook", none, .post, [], some named⟩ = none := by decide +kernel
  have hvisit := Engine.visit_integration rfl rfl rfl hfault
  have hparse : Json.parse named = .ok (.object [("name", .str "\x7b\x7bnome\x7d\x7d")]) := by
    decide +kernel
  have hplain : Json.Plain named.toList := Json.plain_of_not_mem (by decide)
  have hfits : (engine "Ana" named).FitsIn { id := "run" } named := by
    have hnames : tokenNames named.toList = ["nome".toList] := by decide +kernel
    intro name hname s hs
    rw [hnames, List.mem_singleton] at hname
    subst hname
    cases hs
    decide
  have hapart : (Json.object [("name", .str "\x7b\x7bnome\x7d\x7d")]).Apart
      ((engine "Ana" named).fill { id := "run" }) := by
    simp [Json.Apart, Json.FieldsApart, Bindings.Separates]
  obtain ⟨body, -, -, hcontent⟩ := Engine.visit_body hvisit rfl rfl hparse hplain hfits hapart
  refine ⟨_, _, hvisit, hparse, hplain, hfits, hcontent.trans ?_⟩
  have hname : (engine "Ana" named).fill { id := "run" } "\x7b\x7bnome\x7d\x7d" = "Ana" := by
    decide +kernel
  have hkey : (engine "Ana" named).fill { id := "run" } "name" = "name" := by decide +kernel
  simp [Json.mapTexts, Json.mapFields, hname, hkey]

/-- What the bodies that the gateway is given in the run for a contact read as. -/
def received (contact body : String) : List (Option Json) :=
  let c : Conversation :=
    { session := .make (engine contact body) none, gateway := .arranged [{ success := true }] 0 }
  c.start.1.session.requests.map fun asked => match asked.payload.get "body" with
    | .str s => (Json.parse s).toOption
    | _ => none

def keyed : String := "\x7b\"\x7b\x7bnome\x7d\x7d\": 1, \"id\": 2\x7d"

def escaped : String := "\x7b\"name\": \"\\u007b\x7bnome\x7d\x7d\"\x7d"

def halved : String := "\x7b\"name\": \"\\ud83d\x7b\x7bnome\x7d\x7d\\ude00\"\x7d"

/-- A quote in a name ends the text that the name is put in, so the body reads as nothing or has a
field more. A name may be the one of another field, which is lost; a token with an escape in it is
none; and halves of a pair are one character where nothing comes between them. -/
theorem body_differs :
    (∀ body ∈ [named, keyed, escaped, halved],
      (engine "" body).flow.Accepted ∧ (Json.parse body).toOption.isSome) ∧
    received "\"" named = [none] ∧
    received "Ana\",\"admin\":\"sim" named =
      [some (.object [("name", .str "Ana"), ("admin", .str "sim")])] ∧
    received "id" keyed = [some (.object [("id", .int 2)])] ∧
    received "Ana" escaped = [some (.object [("name", .str "\x7b\x7bnome\x7d\x7d")])] ∧
    received "" halved =
      [some (.object [("name", .str (String.ofList [Char.ofNat 0x1f600]))])] := by
  have hread : ∀ body ∈ [named, keyed, escaped, halved], (Json.parse body).toOption.isSome := by
    decide +kernel
  have haccepted : ∀ body ∈ [named, keyed, escaped, halved], (engine "" body).flow.Accepted := by
    simp only [List.forall_mem_cons]
    exact ⟨rfl, rfl, rfl, rfl, by simp⟩
  exact ⟨fun body hbody => ⟨haccepted body hbody, hread body hbody⟩, by decide +kernel⟩

end Lead
end Dialogue
