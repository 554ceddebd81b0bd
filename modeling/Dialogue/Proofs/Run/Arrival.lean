import Dialogue.Proofs.Flow.Landing
import Dialogue.Proofs.Run.Handles
import Dialogue.Proofs.Run.Request
import Dialogue.Proofs.Run.Termination
import Dialogue.Proofs.Session.Validated

/-!
# Walks that arrive

A walk through steps that can be carried out arrives where the ways of the flow come to rest, or
waits for an effect on the way there (`walk_heads`); if its step is passed with the result, it goes
on to the same place (`takeUp_heads`). An answer at a step that every answer leads on from takes the
run to one of its exits (`take_exits`).
-/
namespace Dialogue

open Run (Told)

namespace Run

/-- A run that a walk goes on with and all of whose values have texts. -/
structure Fluent (r : Run) : Prop extends Live r where
  vars : r.vars.Worded

/-- A run that a walk has come to an end with: it waits at a step, or it is complete. -/
structure Arrived (place : Option Node) (r : Run) : Prop where
  processing : r.processing = false
  cancelled : r.cancelled = false
  vars : r.vars.Worded
  stands : match place with
    | some node => r.status = .waiting ∧ r.current = some node.id
    | none => r.status = .completed

variable {r s : Run} {node : Node} {place : Option Node} {n : Nat}

theorem Fluent.told (h : r.Fluent) (ht : Told node n r s) (hv : s.vars.Worded) : s.Fluent :=
  ⟨h.toLive.told ht, hv⟩

theorem Fluent.suspended (h : r.Fluent) (hcurrent : r.current = some node.id) :
    r.suspend.released.Arrived (some node) := by
  refine ⟨rfl, ?_, (vars_suspend r).symm ▸ h.vars, ?_⟩ <;>
    simp [released, suspend, h.status, h.cancelled, hcurrent]

theorem Fluent.completed (h : r.Fluent) : r.complete.released.Arrived none := by
  have hcomplete := complete_eq h.not_terminal
  refine ⟨rfl, ?_, (vars_complete r).symm ▸ h.vars, ?_⟩ <;>
    simp [released, hcomplete, h.cancelled]

end Run

namespace Engine

/-- An engine without handlers of the host, all of whose steps can be carried out. -/
structure Sturdy (e : Engine) : Prop where
  builtin : e.handlers = []
  steps : ∀ node ∈ e.flow.nodes, node.Fit ∧ ¬ node.Nameless ∧ node.Worded

/-- A leg that arrives at a place, or waits for an effect from which fewer steps lead there. -/
inductive Heads (e : Engine) (place : Option Node) (steps : Nat) (leg : Leg) : Prop where
  | arrived (hstop : leg.stop = .returned) (ha : leg.run.Arrived place)
  | asks {node : Node} {run : Run} {request : EffectRequest} {rest : Nat}
      (hstop : leg.stop = .awaiting node request) (hn : node ∈ e.flow.nodes)
      (ha : e.Asking node run request) (hl : leg.run.Fluent) (hlt : rest < steps)
      (hrest : e.flow.rest? rest (e.flow.next? node) = some place)

variable {e : Engine} {node : Node} {next place : Option Node} {steps bound : Nat} {run r : Run}
  {leg : Leg}

theorem Heads.after (h : e.Heads place steps leg) (events : List Event) :
    e.Heads place steps (leg.after events) := by
  cases h with
  | arrived hstop ha => exact .arrived hstop ha
  | asks hstop hn ha hl hlt hrest => exact .asks hstop hn ha hl hlt hrest

theorem Heads.mono {more : Nat} (h : e.Heads place steps leg) (hle : steps ≤ more) :
    e.Heads place more leg := by
  cases h with
  | arrived hstop ha => exact .arrived hstop ha
  | asks hstop hn ha hl hlt hrest => exact .asks hstop hn ha hl (hlt.trans_le hle) hrest

theorem endOfFlow_heads (hl : run.Fluent) : e.Heads none steps (endOfFlow run) := by
  have hsaid : (run.say .system "Fluxo concluído (sem mais nós)" none).Fluent :=
    ⟨⟨hl.status, hl.cancelled⟩, hl.vars⟩
  rw [endOfFlow, if_pos ⟨hl.status, hl.cancelled⟩]
  exact .arrived rfl hsaid.completed

/-- What follows a step that is passed, if the walk from the next step heads for the place. -/
theorem proceed_heads (hl : r.Fluent) (events : List Event)
    (hw : e.Heads place steps (e.walk bound (e.flow.next? node) r)) :
    e.Heads place steps (proceed (e.walk bound) node r events (e.onward node)) := by
  simp only [proceed, onward, hl.not_terminal, Bool.false_eq_true, if_false]
  exact hw.after events

theorem Sturdy.exists_attempt (hs : e.Sturdy) (hn : node ∈ e.flow.nodes) (hv : run.vars.Worded) :
    ∃ visit, e.attempt node run = .ok visit := by
  obtain ⟨hfit, hnamed, hworded⟩ := hs.steps node hn
  cases hcase : e.attempt node run with
  | ok visit => exact ⟨visit, rfl⟩
  | error raised =>
      rcases (attempt_eq_error_iff hfit (unhandled hs.builtin node)).mp hcase with ⟨h, -⟩ | h
      · exact absurd h hnamed
      · rw [wordless?_of_worded e hv hworded] at h
        cases h

/-- Where a walk heads from a step, if it is known from the next step on. -/
theorem visit_heads (hs : e.Sturdy) (hn : node ∈ e.flow.nodes) (hl : run.Fluent)
    (hrest : e.flow.rest? (steps + 1) (some node) = some place)
    (hwalk : ∀ {r : Run}, r.Fluent → e.flow.rest? steps (e.flow.next? node) = some place →
      e.Heads place steps (e.walk bound (e.flow.next? node) r)) :
    e.Heads place (steps + 1) (e.walk (bound + 1) (some node) run) := by
  have hentered : (run.enter node.id).Fluent := ⟨⟨hl.status, hl.cancelled⟩, hl.vars⟩
  have hattempt := attempt_attempted (unhandled hs.builtin node) (run.enter node.id)
  have hassigned := hl.vars.assigned (hs.steps node hn).2.2
  obtain ⟨visit, hcase⟩ := hs.exists_attempt hn hentered.vars
  have hasking : ∀ r request, visit = .asking r request →
      e.Asking node (run.enter node.id) request := by
    rintro r request rfl
    exact attempt_asking hcase
  simp only [walk, Engine.visit, hcase, hl.cancelled, Bool.false_eq_true, if_false]
  rw [hcase] at hattempt
  cases hattempt with
  | onward h hv hpass =>
      rw [Flow.rest?_of_not_stops hpass] at hrest
      have hlive := hentered.told h (hv ▸ hassigned)
      exact (proceed_heads hlive _ (hwalk hlive hrest)).mono (Nat.le_succ steps)
  | waits h hv ha =>
      rw [Flow.rest?, if_pos ha] at hrest
      cases hrest
      exact .arrived rfl ((hentered.told h (hv ▸ hl.vars)).suspended h.current)
  | @completes r h hv hk =>
      have hasks : ¬ node.Asks := by simp [Node.Asks, hk]
      rw [Flow.rest?, if_neg hasks, if_pos hk] at hrest
      cases hrest
      simp only [Visit.caught, Visit.finished, proceed, r.isTerminal_complete,
        Bool.false_eq_true, if_false, if_true]
      exact .arrived rfl (hentered.told h (hv ▸ hl.vars)).completed
  | asking h hv hseeks hpass =>
      rw [Flow.rest?_of_not_stops hpass] at hrest
      exact .asks rfl hn (hasking _ _ rfl) (hentered.told h (hv ▸ hassigned))
        (Nat.lt_succ_self steps) hrest

theorem walk_heads (hs : e.Sturdy) (hle : steps ≤ bound) (hn : ∀ n ∈ next, n ∈ e.flow.nodes)
    (hl : run.Fluent) (hrest : e.flow.rest? steps next = some place) :
    e.Heads place steps (e.walk bound next run) := by
  -- on the steps to the place; each one that is passed takes one of the walk's
  induction steps generalizing bound next run with
  | zero =>
      cases next with
      | none =>
          cases hrest
          cases bound <;> exact endOfFlow_heads hl
      | some node => cases hrest
  | succ steps ih =>
      cases next with
      | none =>
          cases hrest
          cases bound <;> exact endOfFlow_heads hl
      | some node =>
          obtain ⟨bound, rfl⟩ : ∃ b, bound = b + 1 := ⟨bound - 1, by omega⟩
          have hle' : steps ≤ bound := by omega
          exact visit_heads hs (hn node rfl) hl hrest fun hlive hrest =>
            ih hle' (fun n hnext => Flow.mem_of_next? hnext) hlive hrest

theorem takeUp_heads (hs : e.Sturdy) (hseeks : node.SeeksEffect) (hl : run.Fluent)
    {result : EffectResult} (hpass : e.Passes node result) (hle : steps ≤ e.bound)
    (hrest : e.flow.rest? steps (e.flow.next? node) = some place) (request : EffectRequest) :
    e.Heads place steps (e.takeUp node request (.ok result) run) := by
  obtain ⟨r, h, htaken⟩ := exists_takeUp_eq e hseeks hpass request run
  have hlive := hl.told h.told (h.vars ▸ hl.vars)
  rw [htaken]
  exact proceed_heads hlive _
    (walk_heads hs hle (fun n hnext => Flow.mem_of_next? hnext) hlive hrest)

/-! ### Answers -/

theorem mem_exits (hk : node.kind? = some .condition) {edge : Edge}
    (he : edge ∈ e.flow.outgoing node.id) : e.flow.node? edge.target ∈ e.flow.exits node := by
  have hother : node.kind? ≠ some .input := by simp [hk]
  rw [Flow.exits, if_neg hother]
  exact List.mem_map_of_mem he

/-- A condition that every answer leads on from has a first way out, and all its ways lead to a
step. -/
theorem exits_of_open (hk : node.kind? = some .condition) (ho : e.flow.Open node) :
    (∃ edge rest, e.flow.outgoing node.id = edge :: rest) ∧ none ∉ e.flow.exits node := by
  rcases ho with hinput | ⟨hsome, hall⟩
  · rw [hk] at hinput
    cases hinput
  · refine ⟨List.exists_cons_of_ne_nil fun hnil => hsome ?_, hall⟩
    have hother : node.kind? ≠ some .input := by simp [hk]
    rw [Flow.exits, if_neg hother, hnil]
    rfl

theorem leaveBy_of_mem (ho : none ∉ e.flow.exits node) (hn : next ∈ e.flow.exits node) :
    leaveBy node r next = (r, ⟨next, false⟩) := by
  cases next with
  | none => exact absurd hn ho
  | some n => rfl

theorem branchTaken_exits (hk : node.kind? = some .condition) (ho : e.flow.Open node)
    (run : Run) (text : String) (place : Nat) (branch : Branch) :
    ∃ r, ∃ next ∈ e.flow.exits node,
      e.branchTaken node run text place branch = (r, ⟨next, false⟩) := by
  obtain ⟨⟨first, rest, hout⟩, hall⟩ := exits_of_open hk ho
  have hfirst : first ∈ e.flow.outgoing node.id := hout ▸ List.mem_cons_self
  unfold branchTaken
  cases hedge : e.flow.branchEdge? node (toString place) branch with
  | none =>
      have hmem : e.flow.firstTarget? node ∈ e.flow.exits node := by
        rw [Flow.firstTarget?, hout]
        exact mem_exits hk hfirst
      exact ⟨_, _, hmem, leaveBy_of_mem hall hmem⟩
  | some edge =>
      have hmem := mem_exits hk (List.mem_of_find?_eq_some hedge)
      exact ⟨_, _, hmem, leaveBy_of_mem hall hmem⟩

theorem firstWayOut_exits (hk : node.kind? = some .condition) (ho : e.flow.Open node)
    (run : Run) (text : String) : ∃ r, ∃ next ∈ e.flow.exits node,
      e.firstWayOut node run text = (r, ⟨next, false⟩) := by
  obtain ⟨⟨first, rest, hout⟩, hall⟩ := exits_of_open hk ho
  have hmem : e.flow.next? node ∈ e.flow.exits node := by
    cases hedge : e.flow.unconditionalEdge? node with
    | none =>
        rw [Flow.unconditionalEdge?_eq_none_iff, hout] at hedge
        cases hedge
    | some edge =>
        rw [Flow.next?, hedge]
        exact mem_exits hk (Flow.mem_of_unconditionalEdge? hedge)
  exact ⟨_, _, hmem, leaveBy_of_mem hall hmem⟩

theorem routeCondition_exits (hp : e.settings.unmatchedPolicy = .firstEdge) (hfit : node.Fit)
    (hk : node.kind? = some .condition) (ho : e.flow.Open node) (run : Run) (text : String) :
    ∃ r, ∃ next ∈ e.flow.exits node, e.routeCondition node run text = .ok (r, ⟨next, false⟩) := by
  have hkind := hfit.kind _ hk
  cases hc : node.config with
  | condition c =>
      cases hplace : resolveBranch text c.branches with
      | some place =>
          obtain ⟨b, hb⟩ := exists_branch hplace
          obtain ⟨r, next, hnext, htaken⟩ := branchTaken_exits hk ho run text place b
          exact ⟨r, next, hnext, by simp only [routeCondition, hc, hplace, hb, htaken]⟩
      | none =>
          obtain ⟨r, next, hnext, hout⟩ := firstWayOut_exits hk ho run text
          exact ⟨r, next, hnext, by simp only [routeCondition, hc, hplace, hp, hout]⟩
  | _ => simp [hc, NodeConfig.kind?] at hkind

theorem next_of_bindInput {text : String} (h : e.bindInput node run text = .ok (r, next)) :
    next = e.flow.next? node := by
  unfold bindInput at h
  split at h
  · obtain ⟨name, -, hnamed⟩ := exists_of_bind h
    obtain ⟨bound, -, hbound⟩ := exists_of_bind hnamed
    cases hbound
    rfl
  · cases h

theorem take_exits (hs : e.Sturdy) (hp : e.settings.unmatchedPolicy = .firstEdge)
    (hn : node ∈ e.flow.nodes) (ha : node.Asks) (ho : e.flow.Open node) (hl : run.Fluent)
    (text : String) : ∃ r, ∃ next ∈ e.flow.exits node,
      Session.take e node run text = .walkOn r next ∧ Told node 1 run r ∧ r.Fluent := by
  have hfit := (hs.steps node hn).1
  have hanswered := take_answered e ha run text
  have htaken : ∃ r, ∃ next ∈ e.flow.exits node,
      Session.take e node run text = .walkOn r next := by
    rcases ha with hk | hk
    · cases hbind : e.bindInput node run text with
      | error f =>
          have htake : Session.take e node run text =
              .failed (run.failAt node f) [.runFailed (run.failAt node f).failure] := by
            simp only [Session.take, hk, hbind]
          exact absurd htake (take_ne_failed hfit (.inl hk) text _)
      | ok left =>
          obtain ⟨r, next⟩ := left
          refine ⟨r, next, ?_, by simp only [Session.take, hk, hbind]⟩
          rw [next_of_bindInput hbind, Flow.exits, if_pos hk]
          exact List.mem_singleton_self _
    · obtain ⟨r, next, hnext, hroute⟩ := routeCondition_exits hp hfit hk ho run text
      exact ⟨r, next, hnext, by simp [Session.take, hk, hroute]⟩
  obtain ⟨r, next, hnext, htake⟩ := htaken
  have hvars := take_vars e ha run text
  rw [htake] at hanswered hvars
  cases hanswered with
  | walkOn h => exact ⟨r, next, hnext, htake, h, hl.told h (hvars ▸ hl.vars.answered node text)⟩

end Engine
end Dialogue
