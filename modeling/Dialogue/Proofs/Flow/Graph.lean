import Dialogue.Flow.Accept
import Dialogue.Flow.Branching
import Dialogue.Proofs.Bindings
import Dialogue.Proofs.Yields

/-!
# Steps of an accepted flow

The ids of an accepted flow are distinct, so a step is found by its own id, and every way through
the flow leads from step to step.
-/
namespace Dialogue

namespace Flow

/-- A flow that breaks no rule of graphs. -/
def Accepted (flow : Flow) : Prop := flow.breach? = none

theorem accepted_of_check {v : Json} {flow : Flow} (h : check v = .ok flow) : flow.Accepted := by
  cases v with
  | object fs =>
      obtain ⟨given, -, hg⟩ := exists_of_bind h
      cases hb : given.breach? with
      | some b => simp [hb, Checked.fault, Checked.refuse] at hg
      | none =>
          have heq : given = flow := by simpa [hb, pure, Except.pure] using hg
          exact heq ▸ hb
  | _ => simp [check, Check.model, Checked.fault, Checked.refuse] at h

theorem Accepted.rules {flow : Flow} (h : flow.Accepted) :
    (flow.nodes.map fun n => Text.trim n.id).Nodup ∧
      (∀ edge ∈ flow.edges,
        Edge.loose? (flow.nodes.map fun n => Text.trim n.id) edge = none) ∧
      ∀ start, flow.startNode? = some start → ∀ edge ∈ flow.edges, edge.target ≠ start.id := by
  unfold Accepted breach? at h
  dsimp only at h
  generalize hstarts : (flow.nodes.filter fun n => n.type = NodeKind.start.name).map (·.id) = starts
    at h
  split at h
  · cases h
  · split at h
    · cases h
    · rename_i hdup
      obtain ⟨htight, hrest⟩ := Option.or_eq_none_iff.mp ((Option.orElse_eq_or ..).symm.trans h)
      refine ⟨not_not.mp hdup, List.findSome?_eq_none_iff.mp htight, ?_⟩
      intro start hstart edge he htarget
      have hfirst : starts.head? = some start.id := by
        rw [← hstarts, List.head?_map, List.head?_filter, ← startNode?, hstart]
        rfl
      match starts with
      | [] => cases hfirst
      | [_] =>
          cases hfirst
          have hany : flow.edges.any (·.target = start.id) = true :=
            List.any_eq_true.mpr ⟨edge, he, by simpa using htarget⟩
          simp [hany] at hrest
      | _ :: _ :: _ => cases hrest

theorem Accepted.nodup_trimmed {flow : Flow} (h : flow.Accepted) :
    (flow.nodes.map fun n => Text.trim n.id).Nodup := h.rules.1

theorem Accepted.nodup_ids {flow : Flow} (h : flow.Accepted) :
    (flow.nodes.map (·.id)).Nodup := by
  have htrim := h.nodup_trimmed
  rw [show (flow.nodes.map fun n => Text.trim n.id) = (flow.nodes.map (·.id)).map Text.trim by
    simp [Function.comp_def]] at htrim
  exact htrim.of_map

theorem mem_of_node? {flow : Flow} {id : String} {node : Node} (h : flow.node? id = some node) :
    node ∈ flow.nodes := List.mem_of_find?_eq_some h

theorem Accepted.node?_id {flow : Flow} (h : flow.Accepted) {node : Node}
    (hn : node ∈ flow.nodes) : flow.node? node.id = some node :=
  find?_key (fun n : Node => n.id) h.nodup_ids hn

theorem Accepted.bind_node? {flow : Flow} (h : flow.Accepted) {node : Node}
    (hn : node ∈ flow.nodes) {place : Option String} (hp : place = some node.id) :
    place.bind flow.node? = some node := by
  rw [hp, Option.bind_some, h.node?_id hn]

theorem mem_of_startNode? {flow : Flow} {node : Node} (h : flow.startNode? = some node) :
    node ∈ flow.nodes := List.mem_of_find?_eq_some h

theorem id_of_node? {flow : Flow} {id : String} {node : Node} (h : flow.node? id = some node) :
    node.id = id := by
  simpa using List.find?_some h

/-! ### Ways from step to step -/

/-- A way of the flow leads from a step to another. -/
def Leads (flow : Flow) (node next : Node) : Prop :=
  ∃ edge ∈ flow.outgoing node.id, flow.node? edge.target = some next

variable {flow : Flow} {node next : Node} {edge : Edge}

theorem Leads.mem (h : flow.Leads node next) : next ∈ flow.nodes := by
  obtain ⟨edge, -, he⟩ := h
  exact mem_of_node? he

theorem edge_mem_of_outgoing {id : String} (h : edge ∈ flow.outgoing id) :
    edge ∈ flow.edges ∧ edge.source = id := by
  simpa [outgoing] using h

theorem mem_of_unconditionalEdge? (h : flow.unconditionalEdge? node = some edge) :
    edge ∈ flow.outgoing node.id := by
  simp only [unconditionalEdge?] at h
  split at h
  · cases hfind : (flow.outgoing node.id).find? fun e => e.selector.getD "" = "" with
    | some e =>
        rw [hfind] at h
        cases h
        exact List.mem_of_find?_eq_some hfind
    | none =>
        rw [hfind] at h
        exact List.mem_of_head? h
  · exact List.mem_of_head? h

theorem leads_of_next? (h : flow.next? node = some next) : flow.Leads node next := by
  obtain ⟨edge, hedge, he⟩ := Option.bind_eq_some_iff.mp h
  exact ⟨edge, mem_of_unconditionalEdge? hedge, he⟩

theorem leads_of_firstTarget? (h : flow.firstTarget? node = some next) :
    flow.Leads node next := by
  obtain ⟨edge, hedge, he⟩ := Option.bind_eq_some_iff.mp h
  exact ⟨edge, List.mem_of_head? hedge, he⟩

theorem leads_of_branchEdge? {place : String} {branch : Branch}
    (h : flow.branchEdge? node place branch = some edge) (he : flow.node? edge.target = some next) :
    flow.Leads node next := ⟨edge, List.mem_of_find?_eq_some h, he⟩

theorem mem_of_next? (h : flow.next? node = some next) : next ∈ flow.nodes :=
  (leads_of_next? h).mem

end Flow
end Dialogue
