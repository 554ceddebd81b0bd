import Dialogue.Proofs.Json.Limits
import Dialogue.Proofs.Run.Record
import Dialogue.Run.Visit

/-!
# What the outcome of an effect leaves behind

Once an effect is served, its step adds one entry to the log and what the system remarks on it, and
nothing else of the run moves but that it may fail. It fails at the step where there is no result,
and where what an update succeeded with is to be told and has no text (`Engine.obstacle?`).
-/
namespace Dialogue

/-- A step whose configuration can ask for an effect. -/
def Node.SeeksEffect (node : Node) : Prop :=
  (∃ c, node.config = .action c) ∨ ∃ c, node.config = .integration c

namespace Run

/-- `r'` is `r` after the system made remarks at a step and one entry was noted there. -/
structure Remarked (node : Node) (success : Bool) (r r' : Run) : Prop where
  frame : r' = { r with messages := r'.messages, log := r'.log }
  said : ∃ ms, r'.messages = r.messages ++ ms ∧
    ∀ m ∈ ms, m.speaker = .system ∧ m.nodeId = some node.id
  noted : ∃ x, r'.log = r.log ++ [x] ∧ x.nodeId = node.id ∧ x.nodeType = node.type ∧
    x.nodeLabel = node.label ∧ x.success = success

namespace Remarked

variable {node : Node} {success : Bool} {r s : Run}

theorem note (r : Run) (node : Node) (action : String) (success : Bool) (input output : Json) :
    Remarked node success r (r.note node action success input output) where
  frame := rfl
  said := ⟨[], by simp [Run.note]⟩
  noted := ⟨_, rfl, rfl, rfl, rfl, rfl⟩

theorem say (h : Remarked node success r s) (content : String) :
    Remarked node success r (s.say .system content node.id) := by
  obtain ⟨ms, hms, hall⟩ := h.said
  refine ⟨?_, ⟨ms ++ [⟨.system, content, some node.id, .midnight⟩], ?_, ?_⟩, h.noted⟩
  · rw [h.frame]
    rfl
  · simp only [Run.say, hms, List.append_assoc]
  · intro m hm
    rcases List.mem_append.mp hm with hm | hm
    · exact hall m hm
    · rw [List.mem_singleton.mp hm]
      exact ⟨rfl, rfl⟩

theorem after_say {content : String}
    (h : Remarked node success (r.say .system content node.id) s) :
    Remarked node success r s := by
  obtain ⟨ms, hms, hall⟩ := h.said
  refine ⟨?_, ⟨⟨.system, content, some node.id, .midnight⟩ :: ms, ?_, ?_⟩, h.noted⟩
  · rw [h.frame]
    rfl
  · rw [hms]
    exact List.append_assoc _ _ _
  · intro m hm
    rcases List.mem_cons.mp hm with rfl | hm
    · exact ⟨rfl, rfl⟩
    · exact hall m hm

theorem told (h : Remarked node success r s) : Told node 1 r s := by
  obtain ⟨ms, hms, hall⟩ := h.said
  obtain ⟨x, hx, hid, -⟩ := h.noted
  refine ⟨?_, ⟨ms, hms, ?_⟩, ⟨[x], hx, rfl, ?_⟩⟩
  · rw [h.frame]
  · intro m hm
    rw [(hall m hm).1]
    decide
  · intro y hy
    rw [List.mem_singleton.mp hy]
    exact hid

theorem failAt (r : Run) (node : Node) (f : Failure) :
    ∃ s, Remarked node false r s ∧ r.failAt node f = s.fail f.report :=
  ⟨_, (note r node s!"Erro: {f.report}" false .null .null).say _, rfl⟩

theorem status (h : Remarked node success r s) : s.status = r.status := by rw [h.frame]

theorem vars (h : Remarked node success r s) : s.vars = r.vars := by rw [h.frame]

theorem visited (h : Remarked node success r s) : s.visited = r.visited := by rw [h.frame]

theorem current (h : Remarked node success r s) : s.current = r.current := by rw [h.frame]

end Remarked

end Run

open Run (Remarked)

/-- What is told of the data of an update that succeeded: of a simulated one the message. -/
def EffectResult.told (mode : Mode) (result : EffectResult) : Json :=
  match mode with
  | .real => result.data
  | .mock => (result.data.field? "message").getD .null

/-- What is told of a success has a text, as all values do that a text is read as
(`Json.hasText_of_read`). -/
def Tellable (mode : Mode) (outcome : EffectOutcome) : Prop :=
  ∀ result, outcome = .ok result → result.success = true → (result.told mode).hasText = true

/-- JSON can be told, as it is in either mode a part of the data that is told. -/
theorem tellable_of_hasText {mode : Mode} {outcome : EffectOutcome}
    (h : ∀ result, outcome = .ok result → result.success = true → result.data.hasText = true) :
    Tellable mode outcome := by
  intro result houtcome hsuccess
  have hdata := h result houtcome hsuccess
  cases mode with
  | real => exact hdata
  | mock =>
      cases hmessage : result.data.field? "message" with
      | none => simp [EffectResult.told, hmessage]
      | some message =>
          have htold : result.told .mock = message := by simp [EffectResult.told, hmessage]
          rw [htold]
          exact Json.hasText_of_field? hdata hmessage

namespace Engine

/-- What keeps a step from being concluded with the outcome of its effect. -/
def obstacle? (e : Engine) (node : Node) : EffectOutcome → Option Failure
  | .error f => some f
  | .ok result =>
    match node.config with
    | .action _ =>
      if result.success then
        match vistaSuccess e.mode result.data with
        | .error f => some f
        | .ok _ => none
      else none
    | _ => none

/-- What a step is left with when the outcome of its effect is there. -/
inductive Served (e : Engine) (node : Node) (run : Run) :
    EffectOutcome → Run × List Event × Step → Prop where
  | onward {r : Run} {result : EffectResult} (h : Remarked node result.success run r)
      (ho : e.obstacle? node (.ok result) = none) :
      Served e node run (.ok result) (r, [node.processed (e.onward node)], e.onward node)
  | halts {r : Run} {result : EffectResult} {reason : String} (h : Remarked node false run r)
      (hf : result.success = false) (hr : e.haltsOn result = some reason) :
      Served e node run (.ok result) (r.fail reason, [node.processed {}], {})
  | breaks {outcome : EffectOutcome} {f : Failure} (ho : e.obstacle? node outcome = some f) :
      Served e node run outcome (run.failAt node f, [], {})

variable {e : Engine} {node : Node} {run r : Run}

theorem haltsOn_ne_empty {result : EffectResult} {reason : String}
    (h : e.haltsOn result = some reason) : reason ≠ "" := by
  unfold haltsOn at h
  split at h
  · injection h with h
    subst h
    split
    · decide
    · assumption
  · cases h

theorem exists_vistaSuccess {mode : Mode} {result : EffectResult}
    (h : (result.told mode).hasText = true) : ∃ text, vistaSuccess mode result.data = .ok text := by
  cases mode with
  | real =>
    have hdata : result.data.hasText = true := h
    exact ⟨_, by rw [vistaSuccess, Json.written_of_hasText hdata]; rfl⟩
  | mock =>
    simp only [EffectResult.told] at h
    simp only [vistaSuccess, Json.said_of_hasText h]
    split
    · exact ⟨_, rfl⟩
    · exact ⟨_, rfl⟩

theorem failure_of_vistaSuccess {mode : Mode} {data : Json} {f : Failure}
    (h : vistaSuccess mode data = .error f) : ∃ t, f = .unsayable t ∨ f = .unwritable t := by
  cases mode with
  | real =>
    cases hwritten : data.written with
    | error g =>
      obtain ⟨t, rfl⟩ := Json.failure_of_written hwritten
      rw [vistaSuccess, hwritten] at h
      exact ⟨t, .inr (Except.error.inj h).symm⟩
    | ok text =>
      rw [vistaSuccess, hwritten] at h
      cases h
  | mock =>
    simp only [vistaSuccess] at h
    split at h
    · obtain ⟨t, ht⟩ := Json.failure_of_said h
      exact ⟨t, .inl ht⟩
    · cases h

theorem failure_of_obstacle? {result : EffectResult} {f : Failure}
    (h : e.obstacle? node (.ok result) = some f) : ∃ t, f = .unsayable t ∨ f = .unwritable t := by
  unfold obstacle? at h
  dsimp only at h
  split at h
  · split at h
    · split at h
      · cases h
        exact failure_of_vistaSuccess ‹_›
      · cases h
    · cases h
  · cases h

theorem obstacle?_of_failed {result : EffectResult} (e : Engine) (node : Node)
    (h : result.success = false) : e.obstacle? node (.ok result) = none := by
  simp only [obstacle?, h, Bool.false_eq_true, if_false]
  split <;> rfl

theorem obstacle?_of_tellable {result : EffectResult} (node : Node)
    (h : Tellable e.mode (.ok result)) : e.obstacle? node (.ok result) = none := by
  cases hs : result.success with
  | false => exact obstacle?_of_failed e node hs
  | true =>
    obtain ⟨text, htext⟩ := exists_vistaSuccess (h result rfl hs)
    simp only [obstacle?, hs, if_true, htext]
    split <;> rfl

private theorem afterFailure_served {result : EffectResult} (hf : result.success = false)
    (h : Remarked node false run r) :
    Served e node run (.ok result) ((e.afterFailure node r result).1,
      [node.processed (e.afterFailure node r result).2], (e.afterFailure node r result).2) := by
  unfold afterFailure
  cases hhalt : e.haltsOn result with
  | some reason => exact .halts h hf hhalt
  | none => exact .onward (hf ▸ h) (obstacle?_of_failed e node hf)

private theorem concludeVista_served {c : ActionConfig} (hc : node.config = .action c)
    (request : EffectRequest) (result : EffectResult) (run : Run) :
    Served e node run (.ok result) (e.conclude node request (.ok result) run) := by
  simp only [conclude, serve, hc, concludeVista]
  by_cases hsuccess : result.success = true
  · simp only [if_pos hsuccess]
    cases htext : vistaSuccess e.mode result.data with
    | error f => exact .breaks (by simp [obstacle?, hc, hsuccess, htext])
    | ok text =>
      have h := (Remarked.note (run.say .system text node.id) node
        s!"Vista atualizado ({e.mode.name})" true (.object c.vistaFields) result.data).after_say
      exact .onward (hsuccess ▸ h) (by simp [obstacle?, hc, hsuccess, htext])
  · simp only [if_neg hsuccess]
    exact afterFailure_served (by simpa using hsuccess)
      (Remarked.note (run.say .system _ node.id) node _ false _ _).after_say

private theorem concludeIntegration_served {c : IntegrationConfig}
    (hc : node.config = .integration c) (request : EffectRequest) (result : EffectResult)
    (run : Run) :
    Served e node run (.ok result) (e.conclude node request (.ok result) run) := by
  simp only [conclude, serve, hc, concludeIntegration]
  split
  · rename_i hsuccess
    exact .onward (hsuccess ▸ Remarked.note run node _ true _ _) (by simp [obstacle?, hc])
  · rename_i hfailed
    exact afterFailure_served (by simpa using hfailed)
      (Remarked.note (run.say .system _ node.id) node _ false _ _).after_say

theorem conclude_served (e : Engine) {node : Node} (hs : node.SeeksEffect)
    (request : EffectRequest) (outcome : EffectOutcome) (run : Run) :
    Served e node run outcome (e.conclude node request outcome run) := by
  cases outcome with
  | error f => exact .breaks rfl
  | ok result =>
    rcases hs with ⟨c, hc⟩ | ⟨c, hc⟩
    · exact concludeVista_served hc request result run
    · exact concludeIntegration_served hc request result run

end Engine
end Dialogue
