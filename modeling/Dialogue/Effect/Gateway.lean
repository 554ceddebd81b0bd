import Dialogue.Effect.Http
import Dialogue.Effect.Registry

/-!
# The gateway to effects

Every request of a run goes through a gateway. The registry's gateway never gives up: an unknown
effect, an implementation that gives up and an answer of the wrong shape all become failed
results. The mock implementations touch nothing outside.
-/
namespace Dialogue

/-- How an implementation of the host answers: with a value, with a result, or not at all. -/
inductive HostReply where
  | value (v : Json)
  | result (r : EffectResult)
  | raised (message : String)

/-- What serves an effect. -/
inductive Implementation where
  | mockVista
  | mockIntegration
  | vista (url token : String)
  | integration
  | host (reply : Json → HostReply)

def mockVistaMessage : String := "[MOCK] Imóvel atualizado com sucesso"

def mockVista (payload : Payload) : EffectResult :=
  ⟨true, .object [("message", .str mockVistaMessage), ("codigo", payload.get "codigo"),
    ("campos_atualizados", .object (Bindings.erase "codigo" payload))], none⟩

def mockIntegration (payload : Payload) : EffectResult :=
  ⟨true, .object [("mock", .bool true), ("integration_type", payload.get "integration_type"),
    ("url", payload.get "url"), ("method", payload.get "method")], none⟩

/-- The complaint about an error that is no text. -/
def errorKindMessage (v : Json) : String :=
  Check.report "EffectResult" [⟨.notText, [.key "error"], .ofJson v⟩]

/-- The result that a value stands for: an object with a `success` field is a result itself. -/
def normalized : Json → Except String EffectResult
  | .null => .ok ⟨true, .null, none⟩
  | .object fields =>
    match Bindings.get? "success" fields with
    | none => .ok ⟨true, .object fields, none⟩
    | some s =>
      let data := Payload.get "data" fields
      match Payload.get "error" fields with
      | .null => .ok ⟨s.isTruthy, data, none⟩
      | .str e => .ok ⟨s.isTruthy, data, some e⟩
      | v => .error (errorKindMessage v)
  | v => .ok ⟨true, v, none⟩

namespace Implementation

/-- The fields of a payload, in which `part` is looked for. -/
def fieldsOf (part : String) : Json → Except String Payload
  | .object fields => .ok fields
  | v => .error (Failure.wrongConfig v.kindName part).message

/-- The result of an implementation, or the message with which it gave up. -/
def execute (payload : Json) (t : Http.Transport) :
    Implementation → Except String EffectResult × Http.Transport
  | mockVista => ((fieldsOf "items" payload).map Dialogue.mockVista, t)
  | mockIntegration => ((fieldsOf "get" payload).map Dialogue.mockIntegration, t)
  | vista url token =>
    if Text.trim url = "" then (.ok Http.Vista.unset, t)
    else match fieldsOf "get" payload with
      | .error m => (.error m, t)
      | .ok fields =>
        let (r, t) := Http.Vista.execute url token fields t
        (r.mapError Http.Error.message, t)
  | integration =>
    match fieldsOf "get" payload with
    | .error m => (.error m, t)
    | .ok fields =>
      let (r, t) := Http.Integration.execute fields t
      (r.mapError Http.Error.message, t)
  | host reply => (match reply payload with
    | .value v => normalized v
    | .result r => .ok r
    | .raised m => .error m, t)

end Implementation

/-- What a run is told about an effect: its result, or that the gateway itself gave up. -/
abbrev EffectOutcome := Except Failure EffectResult

inductive Gateway where
  /-- Implementations from a registry over a transport. -/
  | effects (registry : Registry Implementation) (transport : Http.Transport)
  /-- Results arranged beforehand, of which the last one repeats, and the number already given. -/
  | arranged (results : List EffectResult) (given : Nat)
  /-- Gives up on every request. -/
  | refusing (message : String)

namespace Gateway

/-- The result when nothing serves an effect in a mode. -/
def unregistered (effect mode : Json) : EffectOutcome := do
  let effect ← effect.said
  let mode ← mode.said
  pure (.failed s!"Efeito \x27{effect}\x27 não registrado para o modo \x27{mode}\x27.")

/-- The outcome of an effect looked up in a registry. -/
def serve (registry : Registry Implementation) (t : Http.Transport) (effect mode payload : Json) :
    EffectOutcome × Http.Transport :=
  match registry.resolve effect mode with
  | .error f => (.error f, t)
  | .ok none => (unregistered effect mode, t)
  | .ok (some impl) =>
    match impl.execute payload t with
    | (.ok result, t) => (.ok result, t)
    | (.error m, t) => (.ok (.failed ("Erro ao executar efeito: " ++ m)), t)

/-- The outcome of an effect given by any values. -/
def call (g : Gateway) (effect mode payload : Json) : EffectOutcome × Gateway :=
  match g with
  | effects registry t =>
    let (outcome, t) := serve registry t effect mode payload
    (outcome, .effects registry t)
  | arranged results given =>
    let result := match results[given]? with
      | some r => r
      | none => results.getLastD ⟨true, .null, none⟩
    (.ok result, .arranged results (given + 1))
  | refusing m => (.error (.raised .runtime m), .refusing m)

/-- The outcome of a request of a run. -/
def invoke (g : Gateway) (r : EffectRequest) : EffectOutcome × Gateway :=
  g.call (.str r.effect) (.str r.mode.name) (.object r.payload)

/-- The mock and the real implementation of both effects. -/
def builtin (vistaUrl token : String) (t : Http.Transport) : Gateway :=
  let key (effect : String) (mode : Mode) : String × Json := (effect, .str mode.name)
  .effects [(key updateVista .mock, .mockVista), (key integration .mock, .mockIntegration),
    (key updateVista .real, .vista vistaUrl token), (key integration .real, .integration)] t

/-- The HTTP requests sent so far. -/
def sent : Gateway → List Http.Request
  | effects _ t => t.sent
  | _ => []

end Gateway
end Dialogue
