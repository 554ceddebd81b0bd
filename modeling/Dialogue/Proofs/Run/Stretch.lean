import Dialogue.Proofs.Run.Arrival
import Dialogue.Proofs.Run.Demand
import Dialogue.Proofs.Run.Replay

/-!
# Stretches of a walk

Which steps a walk enters before it waits, ends or asks for an effect can be read off the graph
(`Flow.stretch?`): no value and no outcome of an effect has a say in it. The run then has entered
just these steps, and its variables are what the steps assign (`walk_covers`, `takeUp_covers`).
-/
namespace Dialogue

open Run (Told)

instance (node : Node) : Decidable node.Stops := inferInstanceAs (Decidable (_ ∨ _))

theorem Node.not_asks_of_callsOut {node : Node} (h : node.callsOut = true) : ¬ node.Asks := by
  rintro (hk | hk) <;> simp [Node.callsOut, hk] at h

namespace Run

/-- The steps that were entered once one more is. -/
def entered (visited : List String) (node : Node) : List String :=
  if visited.contains node.id then visited else visited ++ [node.id]

/-- `s` is `r` once it has entered the steps and has what they assign. -/
structure Covers (nodes : List Node) (r s : Run) : Prop where
  vars : s.vars = nodes.foldl (fun vars node => node.assigned vars) r.vars
  visited : s.visited = nodes.foldl entered r.visited

variable {node : Node} {nodes : List Node} {n : Nat} {r s t : Run}

theorem Covers.cons (h : t.Covers nodes s) (hv : t.vars = node.assigned r.vars)
    (ht : t.visited = entered r.visited node) : r.Covers (node :: nodes) s :=
  ⟨by rw [h.vars, hv, List.foldl_cons], by rw [h.visited, ht, List.foldl_cons]⟩

theorem Covers.congr (h : r.Covers nodes s) (hv : t.vars = s.vars) (ht : t.visited = s.visited) :
    r.Covers nodes t := ⟨hv.trans h.vars, ht.trans h.visited⟩

theorem Covers.nil (r : Run) : r.Covers [] r := ⟨rfl, rfl⟩

theorem Covers.single (hv : s.vars = node.assigned r.vars)
    (hs : s.visited = entered r.visited node) : r.Covers [node] s := (Covers.nil s).cons hv hs

theorem Covers.vars_of_none (h : r.Covers nodes s)
    (hnone : ∀ node ∈ nodes, node.assignment? = none) : s.vars = r.vars := by
  rw [h.vars]
  clear h
  induction nodes generalizing r with
  | nil => rfl
  | cons node nodes ih =>
      rw [List.foldl_cons, Node.assigned_of_none (hnone node List.mem_cons_self)]
      exact ih fun node hmem => hnone node (List.mem_cons_of_mem _ hmem)

end Run

namespace Engine

/-- A leg that enters the steps and comes to its end as the last of them says. -/
inductive Covers (e : Engine) (nodes : List Node) (run : Run) (leg : Leg) : Prop where
  | waits {node : Node} (hlast : nodes.getLast? = some node) (ha : node.Asks)
      (hstop : leg.stop = .returned) (harr : leg.run.Arrived (some node))
      (hc : run.Covers nodes leg.run)
  | ends (hlast : ∀ node ∈ nodes.getLast?, ¬ node.Asks ∧ node.callsOut = false)
      (hstop : leg.stop = .returned) (harr : leg.run.Arrived none) (hc : run.Covers nodes leg.run)
  | asks {node : Node} {request : EffectRequest} (hlast : nodes.getLast? = some node)
      (hstop : leg.stop = .awaiting node request) (hr : e.demand? node leg.run = some request)
      (hl : leg.run.Fluent) (hc : run.Covers nodes leg.run)

variable {e : Engine} {node : Node} {nodes : List Node} {next : Option Node} {steps bound : Nat}
  {run r : Run} {leg : Leg}

theorem Covers.after (h : e.Covers nodes run leg) (events : List Event) :
    e.Covers nodes run (leg.after events) := by
  cases h with
  | waits hlast ha hstop harr hc => exact .waits hlast ha hstop harr hc
  | ends hlast hstop harr hc => exact .ends hlast hstop harr hc
  | asks hlast hstop hr hl hc => exact .asks hlast hstop hr hl hc

theorem Covers.cons (h : e.Covers nodes r leg) (ha : ¬ node.Asks) (ho : node.callsOut = false)
    (hv : r.vars = node.assigned run.vars) (hs : r.visited = Run.entered run.visited node) :
    e.Covers (node :: nodes) run leg := by
  cases h with
  | waits hlast ha hstop harr hc =>
      exact .waits (by simp [List.getLast?_cons, hlast]) ha hstop harr (hc.cons hv hs)
  | asks hlast hstop hr hl hc =>
      exact .asks (by simp [List.getLast?_cons, hlast]) hstop hr hl (hc.cons hv hs)
  | ends hlast hstop harr hc =>
      refine .ends ?_ hstop harr (hc.cons hv hs)
      cases hnodes : nodes.getLast? with
      | none => simp [List.getLast?_cons, hnodes, ha, ho]
      | some last => simpa [List.getLast?_cons, hnodes] using hlast last hnodes

end Engine
end Dialogue
