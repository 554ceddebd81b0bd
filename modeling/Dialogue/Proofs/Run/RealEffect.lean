import Mathlib
import Dialogue.Proofs.Json.Display
import Dialogue.Proofs.Json.Limits
import Dialogue.Proofs.Run.Simulation

/-!
# Effects carried out

An effect that is carried out succeeds just when an answer with a status below 400 arrives that does
not refuse it in its body. Every other end is a failure that says what went wrong, and the step that
asked notes it once and the system says it once (`invoke_real`, `real_effect`). What an update
brings back was read from a text, so it can be told (`builtin_tellable`).
-/
namespace Dialogue

/-- A failure says what went wrong. -/
def EffectResult.Tells (result : EffectResult) : Prop :=
  result.success = false → ∃ m, result.failure = some m ∧ m ≠ ""

theorem EffectResult.tells_failed {m : String} (h : m ≠ "") : (failed m).Tells :=
  fun _ => ⟨m, rfl, h⟩

/-! ### Answers -/

namespace Http

variable {status : Nat} {body : Json}

namespace Vista

theorem said_ne_empty {fallback : String} (h : fallback ≠ "") (v : Option Json) :
    said v fallback ≠ "" := by
  cases v with
  | none => exact h
  | some v =>
      unfold said
      dsimp only
      split
      · exact Json.display_ne_empty ‹_›
      · exact h

theorem read_success : (read status body).success = true ↔
    status < 400 ∧ body.field? "success" ≠ some (.bool false) := by
  unfold read firstErrorStatus
  split
  · simp
    omega
  · split
    · simp [*]
    · simp [*]
      omega

theorem read_tells : (read status body).Tells := by
  unfold read
  split
  · exact fun _ => ⟨_, rfl, said_ne_empty (by simp [toString]) _⟩
  · split
    · exact fun _ => ⟨_, rfl, said_ne_empty (by decide) _⟩
    · exact fun h => absurd h (by simp)

end Vista

namespace Integration

theorem read_success : (read status body).success = true ↔ status < 400 := by
  unfold read firstErrorStatus
  split
  · simp
    omega
  · simp
    omega

theorem read_tells : (read status body).Tells := by
  unfold read
  split
  · exact fun _ => ⟨_, rfl, by simp [toString]⟩
  · exact fun h => absurd h (by simp)

theorem told_eq_ok {payload : Payload} {name fallback text : String}
    (h : told payload name fallback = .ok text) : text = shownOr fallback (payload.get name) := by
  unfold told at h
  dsimp only at h
  split at h
  · cases h
  · exact (Except.ok.inj h).symm

end Integration

/-- A request is sent and answered with a status and a body. -/
def Answered (request : Except Error Request) (t : Transport) (status : Nat) (body : Json) :
    Prop :=
  ∃ r, request = .ok r ∧ r.isRelative = false ∧ (t.send r).1 = .answer status body

theorem Answered.unique {request : Except Error Request} {t : Transport} {status' : Nat}
    {body' : Json} (h : Answered request t status body) (h' : Answered request t status' body') :
    status = status' ∧ body = body' := by
  obtain ⟨r, hr, -, hsent⟩ := h
  obtain ⟨r', hr', -, hsent'⟩ := h'
  cases hr.symm.trans hr'
  cases hsent.symm.trans hsent'
  exact ⟨rfl, rfl⟩

end Http

open Http

namespace EffectRequest

variable {r : EffectRequest} {url token : String} {t : Transport}

def address (r : EffectRequest) (url : String) : String :=
  Text.trim (if r.effect = updateVista then url else shownOr "" (r.payload.get "url"))

def outgoing (r : EffectRequest) (url token : String) : Except Http.Error Http.Request :=
  if r.effect = updateVista then
    Http.Request.make "POST" (Text.trim url) (Vista.headers token) (.json (.object r.payload))
  else do
    let url ← Integration.told r.payload "url" ""
    Integration.request r.payload (Text.trim url)

def read (r : EffectRequest) : Nat → Json → EffectResult :=
  if r.effect = updateVista then Vista.read else Integration.read

def networkError (r : EffectRequest) : String :=
  if r.effect = updateVista then "Erro de rede ao chamar Vista" else "Erro de rede na integração"

/-- An update may be refused in the body of an answer. -/
def Refused (r : EffectRequest) (body : Json) : Prop :=
  r.effect = updateVista ∧ body.field? "success" = some (.bool false)

def Answered (r : EffectRequest) (url token : String) (t : Transport) (status : Nat)
    (body : Json) : Prop := Http.Answered (r.outgoing url token) t status body

/-- What becomes of an effect that is carried out. -/
def realized (r : EffectRequest) (url token : String) (t : Transport) : EffectResult :=
  match (exchange (r.outgoing url token) r.networkError r.read t).1 with
  | .ok result => result
  | .error e => .failed ("Erro ao executar efeito: " ++ e.message)

theorem read_success {status : Nat} {body : Json} :
    (r.read status body).success = true ↔ status < 400 ∧ ¬ r.Refused body := by
  unfold read Refused
  split
  · simp [Vista.read_success, *]
  · simp [Integration.read_success, *]

theorem read_tells {status : Nat} {body : Json} : (r.read status body).Tells := by
  unfold read
  split
  · exact Vista.read_tells
  · exact Integration.read_tells

/-- An answer is taken up by what the effect makes of it, and everything else is a failure. -/
theorem realized_cases (r : EffectRequest) (url token : String) (t : Transport) :
    (∃ status body, r.Answered url token t status body ∧
      r.realized url token t = r.read status body) ∨
    (∀ status body, ¬ r.Answered url token t status body) ∧
      ∃ m ≠ "", r.realized url token t = .failed m := by
  unfold realized exchange Answered Http.Answered
  cases r.outgoing url token with
  | error e => exact .inr ⟨by simp, _, by simp, rfl⟩
  | ok request =>
      dsimp only
      cases hrelative : request.isRelative with
      | true =>
          -- nobody is asked, whatever the other side would answer
          refine .inr ⟨by simp [hrelative], ?_⟩
          generalize t.send request = sent
          obtain ⟨response, t'⟩ := sent
          cases response <;> exact ⟨_, by simp [networkError], rfl⟩
      | false =>
          generalize hsend : t.send request = sent
          obtain ⟨response, t'⟩ := sent
          cases response with
          | answer status body =>
              exact .inl ⟨status, body, ⟨request, rfl, hrelative, by rw [hsend]⟩, rfl⟩
          | unreadable c => exact .inr ⟨by simp [hsend], _, by simp, rfl⟩
          | unreachable m => exact .inr ⟨by simp [hsend], _, by simp, rfl⟩
          | broken m => exact .inr ⟨by simp [hsend], _, by simp, rfl⟩

theorem realized_success : (r.realized url token t).success = true ↔
    ∃ status body, r.Answered url token t status body ∧ status < 400 ∧ ¬ r.Refused body := by
  obtain ⟨status, body, ha, h⟩ | ⟨hnone, m, -, h⟩ := realized_cases r url token t
  · rw [h, read_success]
    constructor
    · intro hgood
      exact ⟨status, body, ha, hgood⟩
    · rintro ⟨status', body', ha', hgood⟩
      obtain ⟨rfl, rfl⟩ := Http.Answered.unique ha ha'
      exact hgood
  · rw [h]
    constructor
    · intro hsuccess
      cases hsuccess
    · rintro ⟨status, body, ha, -⟩
      exact absurd ha (hnone status body)

theorem realized_tells : (r.realized url token t).Tells := by
  obtain ⟨status, body, -, h⟩ | ⟨-, m, hm, h⟩ := realized_cases r url token t
  · rw [h]
    exact read_tells
  · rw [h]
    exact EffectResult.tells_failed hm

end EffectRequest

namespace Gateway

theorem serve_of_resolve {registry : Registry Implementation} {effect mode : Json}
    (impl : Implementation) (h : registry.resolve effect mode = .ok (some impl)) (payload : Json)
    (t : Transport) : (serve registry t effect mode payload).1 =
      .ok (match (impl.execute payload t).1 with
        | .ok result => result
        | .error m => .failed ("Erro ao executar efeito: " ++ m)) := by
  simp only [serve, h]
  generalize impl.execute payload t = served
  obtain ⟨_ | _, t'⟩ := served <;> rfl

theorem invoke_real {r : EffectRequest} (hr : r.Regular .real) {url : String}
    (hu : r.address url ≠ "") (token : String) (t : Transport) :
    ((builtin url token t).invoke r).1 = .ok (r.realized url token t) := by
  have hsettled (x : Except Http.Error EffectResult) :
      (match x.mapError Http.Error.message with
        | .ok result => result
        | .error m => .failed ("Erro ao executar efeito: " ++ m)) =
      (match x with
        | .ok result => result
        | .error e => .failed ("Erro ao executar efeito: " ++ e.message)) := by
    cases x <;> rfl
  have hother : integration ≠ updateVista := by decide
  obtain ⟨effect, mode, payload⟩ := r
  obtain ⟨rfl, rfl | rfl⟩ := hr
  · have hset : Text.trim url ≠ "" := hu
    simp only [invoke, call, builtin]
    rw [serve_of_resolve (.vista url token) (by rfl)]
    simp only [Implementation.execute, if_neg hset, Implementation.fieldsOf, Vista.execute,
      hsettled, EffectRequest.realized, EffectRequest.outgoing, EffectRequest.networkError,
      EffectRequest.read, if_true]
  · simp only [invoke, call, builtin]
    rw [serve_of_resolve .integration (by rfl)]
    simp only [Implementation.execute, Implementation.fieldsOf, Integration.execute,
      EffectRequest.realized, EffectRequest.outgoing, EffectRequest.networkError,
      EffectRequest.read, if_neg hother]
    cases htold : Integration.told payload "url" "" with
    | error e => rfl
    | ok told =>
        have hset : Text.trim told ≠ "" := by
          rw [Integration.told_eq_ok htold]
          simpa only [EffectRequest.address, if_neg hother] using hu
        simp only [if_neg hset, hsettled]
        rfl

end Gateway

/-! ### What the run is told -/

/-- What the system says when the effect of a step has failed. -/
def Node.errorText (node : Node) (m : String) : String :=
  match node.config with
  | .integration c => s!"Erro na integração {c.integrationType}: {m}"
  | _ => s!"Erro Vista: {m}"

namespace Engine

variable {e : Engine} {node : Node} {run r : Run} {request : EffectRequest}

theorem seeksEffect_of_visit (h : e.visit node run = .asking r request) : node.SeeksEffect := by
  cases visit_asking h with
  | vista hc => exact .inl ⟨_, hc⟩
  | integration hc => exact .inr ⟨_, hc⟩

theorem conclude_reports (hs : node.SeeksEffect) {result : EffectResult} {m : String}
    (hf : result.success = false) (hm : result.failure = some m) :
    (e.conclude node request (.ok result) run).1.messages =
        run.messages ++ [⟨.system, node.errorText m, some node.id, .midnight⟩] ∧
      ∃ entry, (e.conclude node request (.ok result) run).1.log = run.log ++ [entry] ∧
        entry.nodeId = node.id ∧ entry.success = false := by
  have hafter (r : Run) : (e.afterFailure node r result).1.messages = r.messages ∧
      (e.afterFailure node r result).1.log = r.log := by
    unfold afterFailure
    split <;> exact ⟨rfl, rfl⟩
  have htext : failureText result = m := by
    rw [failureText, hm]
    rfl
  rcases hs with ⟨c, hc⟩ | ⟨c, hc⟩
  · have hleft := hafter ((run.say .system s!"Erro Vista: {m}" node.id).note node "Erro Vista" false
      (.object c.vistaFields) (failureOutput result))
    simp only [conclude, serve, hc, concludeVista, hf, htext, Node.errorText]
    exact ⟨hleft.1, _, hleft.2, rfl, rfl⟩
  · have hleft := hafter ((run.say .system s!"Erro na integração {c.integrationType}: {m}"
      node.id).note node s!"Erro na integração: {c.integrationType}" false (.object request.payload)
        (failureOutput result))
    simp only [conclude, serve, hc, concludeIntegration, hf, htext, Node.errorText]
    exact ⟨hleft.1, _, hleft.2, rfl, rfl⟩

end Engine

namespace Gateway

variable {request : EffectRequest} {url : String}

/-- An effect with an address that is carried out comes to a result. It is a success just when an
answer arrives whose status is below 400 and whose body does not refuse it; so it goes by statuses
from 200 to 299 just where no answer with another status below 400 arrives. Any other result says
what went wrong, and the step that asked notes one failure and the system says it once. -/
theorem real_effect (hr : request.Regular .real) (hu : request.address url ≠ "") (token : String)
    (t : Transport) :
    ∃ result, ((builtin url token t).invoke request).1 = .ok result ∧
      (result.success = true ↔ ∃ status body, request.Answered url token t status body ∧
        status < 400 ∧ ¬ request.Refused body) ∧
      ((result.success = true ↔ ∃ status body, request.Answered url token t status body ∧
          200 ≤ status ∧ status < 300 ∧ ¬ request.Refused body) ↔
        ∀ status body, request.Answered url token t status body → ¬ request.Refused body →
          status < 400 → 200 ≤ status ∧ status < 300) ∧
      (result.success = false → ∃ m ≠ "", result.failure = some m ∧
        ∀ (e : Engine) (node : Node) (run r : Run), e.visit node run = .asking r request →
          (e.conclude node request (.ok result) r).1.messages =
              r.messages ++ [⟨.system, node.errorText m, some node.id, .midnight⟩] ∧
            ∃ entry, (e.conclude node request (.ok result) r).1.log = r.log ++ [entry] ∧
              entry.nodeId = node.id ∧ entry.success = false) := by
  refine ⟨_, invoke_real hr hu token t, EffectRequest.realized_success, ?_, fun hf => ?_⟩
  · rw [EffectRequest.realized_success]
    constructor
    · intro hsame status body ha hplain hlow
      obtain ⟨status', body', ha', hfrom, hto, -⟩ := hsame.mp ⟨status, body, ha, hlow, hplain⟩
      obtain ⟨rfl, rfl⟩ := Http.Answered.unique ha ha'
      exact ⟨hfrom, hto⟩
    · intro hrange
      constructor
      · rintro ⟨status, body, ha, hlow, hplain⟩
        obtain ⟨hfrom, hto⟩ := hrange status body ha hplain hlow
        exact ⟨status, body, ha, hfrom, hto, hplain⟩
      · rintro ⟨status, body, ha, -, hto, hplain⟩
        exact ⟨status, body, ha, by omega, hplain⟩
  · obtain ⟨m, hm, hne⟩ := EffectRequest.realized_tells hf
    exact ⟨m, hne, hm, fun e node run r h =>
      Engine.conclude_reports (Engine.seeksEffect_of_visit h) hf hm⟩

def hook : EffectRequest :=
  ⟨integration, .real, [("url", .str "http://crm")]⟩

/-- A side that always answers with a status. -/
def always (status : Nat) : Transport := { responses := [.answer status (.str "")] }

theorem make_hook : Http.Request.make "POST" "http://crm" [contentType]
    (.json (.object [])) = .ok ⟨"POST", "http://crm",
      [("Content-Type", "application/json")], "\x7b\x7d"⟩ := by
  have haddress : Address.read "http://crm" =
      .ok ⟨"http", [], "crm".toList, none, [], none, none⟩ := by cbv
  unfold Http.Request.make
  rw [haddress]
  decide +kernel

theorem outgoing_hook : hook.outgoing "" "" = .ok ⟨"POST", "http://crm",
    [("Content-Type", "application/json")], "\x7b\x7d"⟩ := by
  have hother : hook.effect ≠ updateVista := by decide
  have hmethod : Integration.told hook.payload "method" "POST" = .ok "POST" := by rfl
  have hposts : Text.upper "POST" = "POST" := by decide +kernel
  have hurl : Integration.told hook.payload "url" "" = .ok "http://crm" := by rfl
  have htrim : Text.trim "http://crm" = "http://crm" := by decide +kernel
  have hheaders : Integration.headers (hook.payload.get "headers") = .ok [contentType] := rfl
  have hcontent : Integration.content (hook.payload.get "body") = .ok (.json (.object [])) := rfl
  rw [EffectRequest.outgoing, if_neg hother, ← make_hook]
  simp only [Integration.request, hmethod, hurl, hheaders, hcontent, bind, Except.bind, hposts,
    htrim]
  rfl

theorem hook_answered (status : Nat) :
    hook.Answered "" "" (always status) status (.str "") :=
  ⟨_, outgoing_hook, by decide +kernel, rfl⟩

theorem regular_hook : hook.Regular .real := ⟨rfl, .inr rfl⟩

/-- A page that is not found fails the call. -/
theorem hook_refused : hook.Regular .real ∧ hook.address "" ≠ "" ∧
    ∃ result, ((builtin "" "" (always 404)).invoke hook).1 = .ok result ∧
      result.success = false ∧ ∃ m ≠ "", result.failure = some m := by
  have haddress : hook.address "" ≠ "" := by decide +kernel
  obtain ⟨result, hresult, hsuccess, -, hfails⟩ :=
    real_effect regular_hook haddress "" (always 404)
  have hf : result.success = false := by
    rw [← Bool.not_eq_true, hsuccess]
    rintro ⟨status, body, ha, hlow, -⟩
    obtain ⟨rfl, -⟩ := Http.Answered.unique (hook_answered 404) ha
    omega
  obtain ⟨m, hm, hfailure, -⟩ := hfails hf
  exact ⟨regular_hook, haddress, result, hresult, hf, m, hm, hfailure⟩

/-- A redirection does not, though it is no answer with a status from 200 to 299. -/
theorem hook_redirected : hook.Regular .real ∧ hook.address "" ≠ "" ∧
    hook.Answered "" "" (always 302) 302 (.str "") ∧
    ((builtin "" "" (always 302)).invoke hook).1 =
      .ok ⟨true, Http.answered 302 (.str ""), none⟩ :=
  ⟨regular_hook, by decide +kernel, hook_answered 302, by decide +kernel⟩

end Gateway

/-! ### What is told of an update -/

namespace Http

/-- The body of an answer has a text. -/
def Response.Worded : Response → Prop
  | .answer _ body => body.hasText = true
  | .unreadable _ | .unreachable _ | .broken _ => True

theorem Response.ofText_worded (status : Nat) (text : String) :
    (Response.ofText status text).Worded := by
  unfold Response.ofText
  split
  · rfl
  · split
    · exact Json.hasText_of_read ‹_›
    · split
      · trivial
      · rfl

theorem Transport.send_worded {t : Transport} (h : ∀ a ∈ t.responses, a.Worded) (r : Request) :
    (t.send r).1.Worded := by
  unfold Transport.send
  dsimp only
  split
  · exact h _ (List.mem_of_getElem? ‹_›)
  · rw [List.getLastD_eq_getLast?]
    cases hlast : t.responses.getLast? with
    | some a => exact h a (List.mem_of_getLast? hlast)
    | none => rfl

theorem Vista.read_data {status : Nat} {body : Json} (h : (read status body).success = true) :
    (read status body).data = body := by
  unfold read at h ⊢
  split at h
  · cases h
  · split at h
    · cases h
    · simp [*]

end Http

theorem Gateway.invoke_unset {r : EffectRequest} (hr : r.Regular .real)
    (hupdate : r.effect = updateVista) {url : String} (hu : r.address url = "") (token : String)
    (t : Transport) : ((builtin url token t).invoke r).1 = .ok Vista.unset := by
  have hempty : Text.trim url = "" := by rwa [EffectRequest.address, if_pos hupdate] at hu
  obtain ⟨effect, mode, payload⟩ := r
  obtain ⟨rfl, -⟩ := hr
  cases hupdate
  simp only [invoke, call, builtin]
  rw [serve_of_resolve (.vista url token) (by rfl)]
  simp only [Implementation.execute, if_pos hempty]

/-- What the built-in gateway answers to an update can be told, if the answers to its own requests
were read from texts (`Response.ofText_worded`). -/
theorem Gateway.builtin_tellable {r : EffectRequest} {mode : Mode} (hr : r.Regular mode)
    (hupdate : r.effect = updateVista) (url token : String) {t : Transport}
    (h : ∀ a ∈ t.responses, a.Worded) :
    Tellable mode ((builtin url token t).invoke r).1 := by
  cases mode with
  | mock =>
      rw [invoke_builtin hr, EffectRequest.simulated, if_pos hupdate]
      rintro _ ⟨⟩ -
      rfl
  | real =>
      by_cases hu : r.address url = ""
      · rw [invoke_unset hr hupdate hu]
        rintro _ ⟨⟩ ⟨⟩
      · rw [invoke_real hr hu]
        apply tellable_of_hasText
        rintro _ ⟨⟩ hsuccess
        obtain ⟨status, body, ⟨request, -, -, hsent⟩, hread⟩ | ⟨-, m, -, hfailed⟩ :=
          r.realized_cases url token t
        · have hworded := Transport.send_worded h request
          rw [hsent] at hworded
          rw [hread, EffectRequest.read, if_pos hupdate] at hsuccess ⊢
          rw [Vista.read_data hsuccess]
          exact hworded
        · rw [hfailed] at hsuccess
          cases hsuccess

end Dialogue
