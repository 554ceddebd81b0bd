import Dialogue.Proofs.Flow.Graph
import Dialogue.Proofs.Text.Trimming

/-!
# Edges that resolve

The ends of the edges of an accepted flow are held against the ids of its steps without the blanks
around them, but a step is found by its id as it is. So each end names one step, and an edge
resolves just when neither step that it names has blanks around its id (`check_resolves`).
-/
namespace Dialogue

namespace Flow

/-- The ends of an edge are steps of the flow, and the edge leaves the one. -/
def Resolves (flow : Flow) (edge : Edge) : Prop :=
  ∃ source target, flow.node? edge.source = some source ∧ flow.node? edge.target = some target ∧
    edge ∈ flow.outgoing source.id

/-- An edge that leads to a step with blanks around its id, which cannot be found by it. -/
def Strays (flow : Flow) (edge : Edge) : Prop :=
  ∃ target ∈ flow.nodes, Text.trim target.id = edge.target ∧ target.id ≠ edge.target

variable {flow : Flow} {edge : Edge} {node : Node} {id : String}

theorem Accepted.exists_ends (h : flow.Accepted) (he : edge ∈ flow.edges) :
    (∃ source ∈ flow.nodes, Text.trim source.id = edge.source) ∧
      ∃ target ∈ flow.nodes, Text.trim target.id = edge.target := by
  have htight := h.rules.2.1 edge he
  simp only [Edge.loose?] at htight
  split at htight
  · cases htight
  · split at htight
    · cases htight
    · rename_i hsource htarget
      simpa using And.intro hsource htarget

/-- The step that an end names is found by it just when there are no blanks around its id; no other
step is. -/
theorem Accepted.node?_eq_some_iff (h : flow.Accepted) (hn : node ∈ flow.nodes)
    (hid : Text.trim node.id = id) {found : Node} :
    flow.node? id = some found ↔ node.id = id ∧ node = found := by
  constructor
  · intro hfound
    have hmem := mem_of_node? hfound
    have hsame : Text.trim found.id = Text.trim node.id := by
      rw [id_of_node? hfound, ← hid, Text.trim_trim]
    have heq : node = found := List.inj_on_of_nodup_map h.nodup_trimmed hn hmem hsame.symm
    exact ⟨heq ▸ id_of_node? hfound, heq⟩
  · rintro ⟨rfl, rfl⟩
    exact h.node?_id hn

theorem Accepted.node?_target_eq_none_iff (h : flow.Accepted) (he : edge ∈ flow.edges) :
    flow.node? edge.target = none ↔ flow.Strays edge := by
  constructor
  · intro hnone
    obtain ⟨-, target, hmem, htrim⟩ := h.exists_ends he
    refine ⟨target, hmem, htrim, fun hid => ?_⟩
    rw [(h.node?_eq_some_iff hmem htrim).mpr ⟨hid, rfl⟩] at hnone
    cases hnone
  · rintro ⟨target, hmem, htrim, hid⟩
    rw [Option.eq_none_iff_forall_ne_some]
    intro found hfound
    exact hid ((h.node?_eq_some_iff hmem htrim).mp hfound).1

theorem Accepted.resolves_iff (h : flow.Accepted) (he : edge ∈ flow.edges) {source target : Node}
    (hs : source ∈ flow.nodes) (hsource : Text.trim source.id = edge.source)
    (ht : target ∈ flow.nodes) (htarget : Text.trim target.id = edge.target) :
    flow.Resolves edge ↔ source.id = edge.source ∧ target.id = edge.target := by
  constructor
  · rintro ⟨s, t, hfrom, hto, -⟩
    exact ⟨((h.node?_eq_some_iff hs hsource).mp hfrom).1,
      ((h.node?_eq_some_iff ht htarget).mp hto).1⟩
  · rintro ⟨hsid, htid⟩
    refine ⟨source, target, (h.node?_eq_some_iff hs hsource).mpr ⟨hsid, rfl⟩,
      (h.node?_eq_some_iff ht htarget).mpr ⟨htid, rfl⟩, ?_⟩
    simp [outgoing, he, hsid]

theorem unconditionalEdge?_eq_none_iff :
    flow.unconditionalEdge? node = none ↔ flow.outgoing node.id = [] := by
  simp only [unconditionalEdge?]
  split
  · cases flow.outgoing node.id with
    | nil => simp
    | cons e rest => simp
  · simp

/-- A way out of a step ends nowhere just when there is none or the one that is taken strays. -/
private theorem Accepted.bind_eq_none_iff (h : flow.Accepted) {way : Option Edge}
    (hway : ∀ edge, way = some edge → edge ∈ flow.outgoing id) :
    (way.bind fun e => flow.node? e.target) = none ↔
      way = none ∨ ∃ edge, way = some edge ∧ flow.Strays edge := by
  cases way with
  | none => simp
  | some edge =>
      have hmem := (edge_mem_of_outgoing (hway edge rfl)).1
      simpa using h.node?_target_eq_none_iff hmem

theorem Accepted.next?_eq_none_iff (h : flow.Accepted) (node : Node) :
    flow.next? node = none ↔ flow.outgoing node.id = [] ∨
      ∃ edge, flow.unconditionalEdge? node = some edge ∧ flow.Strays edge := by
  rw [← unconditionalEdge?_eq_none_iff]
  exact h.bind_eq_none_iff fun _ he => mem_of_unconditionalEdge? he

theorem Accepted.firstTarget?_eq_none_iff (h : flow.Accepted) (node : Node) :
    flow.firstTarget? node = none ↔ flow.outgoing node.id = [] ∨
      ∃ edge, (flow.outgoing node.id).head? = some edge ∧ flow.Strays edge := by
  rw [← List.head?_eq_none_iff]
  exact h.bind_eq_none_iff fun _ he => List.mem_of_head? he

/-- Of an accepted flow, each end of an edge names one step, and the edge resolves just when both
bear the names that it gives them. A successor is lost just where the edge to it strays. -/
theorem check_resolves {v : Json} (h : check v = .ok flow) :
    (∀ edge ∈ flow.edges, ∃ source ∈ flow.nodes, ∃ target ∈ flow.nodes,
      Text.trim source.id = edge.source ∧ Text.trim target.id = edge.target ∧
        (flow.Resolves edge ↔ source.id = edge.source ∧ target.id = edge.target)) ∧
    (∀ node : Node, flow.next? node = none ↔ flow.outgoing node.id = [] ∨
      ∃ edge, flow.unconditionalEdge? node = some edge ∧ flow.Strays edge) ∧
    (∀ node : Node, flow.firstTarget? node = none ↔ flow.outgoing node.id = [] ∨
      ∃ edge, (flow.outgoing node.id).head? = some edge ∧ flow.Strays edge) ∧
    ∀ (node : Node) (place : String) (branch : Branch) (edge : Edge),
      flow.branchEdge? node place branch = some edge →
        (flow.node? edge.target = none ↔ flow.Strays edge) := by
  have ha : flow.Accepted := accepted_of_check h
  refine ⟨?_, ha.next?_eq_none_iff, ha.firstTarget?_eq_none_iff, ?_⟩
  · intro edge he
    obtain ⟨⟨source, hs, hsource⟩, target, ht, htarget⟩ := ha.exists_ends he
    exact ⟨source, hs, target, ht, hsource, htarget, ha.resolves_iff he hs hsource ht htarget⟩
  · intro node place branch edge hedge
    have hout : edge ∈ flow.outgoing node.id := List.mem_of_find?_eq_some hedge
    exact ha.node?_target_eq_none_iff (edge_mem_of_outgoing hout).1

/-- A flow as it is given, with a blank after the id of a step. -/
def padded : Json := .object [
  ("nodes", .list [
    .object [("id", .str "entry"), ("type", .str "start")],
    .object [("id", .str "hello "), ("type", .str "message")],
    .object [("id", .str "exit"), ("type", .str "end")]]),
  ("edges", .list [
    .object [("source", .str "entry"), ("target", .str "hello")],
    .object [("source", .str "entry"), ("target", .str "exit")]])]

/-- The flow that it is taken for. -/
def greeting : Flow where
  id := ""
  name := ""
  description := ""
  department := none
  nodes := [
    ⟨"entry", "start", "start", .start ⟨"first_message", [], none⟩⟩,
    ⟨"hello ", "message", "message", .message ⟨"", .zero, false⟩⟩,
    ⟨"exit", "end", "end", .finish ⟨"", false⟩⟩]
  edges := [⟨none, "entry", "hello", none, none⟩, ⟨none, "entry", "exit", none, none⟩]

theorem check_padded : check padded = .ok greeting := by decide +kernel

/-- The second edge resolves. -/
theorem greeting_resolves : check padded = .ok greeting ∧
    greeting.Resolves ⟨none, "entry", "exit", none, none⟩ := by
  obtain ⟨hends, -⟩ := check_resolves check_padded
  obtain ⟨source, hs, target, ht, hsource, htarget, hiff⟩ :=
    hends ⟨none, "entry", "exit", none, none⟩ (by decide)
  have hentry : ∀ node ∈ greeting.nodes, Text.trim node.id = "entry" → node.id = "entry" := by
    decide +kernel
  have hexit : ∀ node ∈ greeting.nodes, Text.trim node.id = "exit" → node.id = "exit" := by
    decide +kernel
  exact ⟨check_padded, hiff.mpr ⟨hentry source hs hsource, hexit target ht htarget⟩⟩

/-- The first one does not, and the step that it leaves has no successor. -/
theorem greeting_strays : check padded = .ok greeting ∧
    ⟨none, "entry", "hello", none, none⟩ ∈ greeting.outgoing "entry" ∧
    ¬ greeting.Resolves ⟨none, "entry", "hello", none, none⟩ ∧
    (greeting.node? "entry").map greeting.next? = some none := by
  refine ⟨check_padded, by decide, ?_, by decide⟩
  rintro ⟨source, target, -, htarget, -⟩
  have hnone : greeting.node? "hello" = none := by decide
  rw [hnone] at htarget
  cases htarget

end Flow
end Dialogue
