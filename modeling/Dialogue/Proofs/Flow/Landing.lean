import Dialogue.Flow.Template
import Dialogue.Proofs.Flow.Checked
import Dialogue.Proofs.Run.Wording

/-!
# Where the ways of a flow come to rest

From a step the unconditional ways lead on until a step asks, ends the run, or has no successor. How
many answers it takes from there to the end, at most and whatever they are, can be computed from the
graph alone (`Flow.finishes`). The built-in flows are through after two answers, and all but one of
them after one (`Template.finishes`).
-/
namespace Dialogue

namespace Node

instance (node : Node) : Decidable node.Asks := inferInstanceAs (Decidable (_ ∨ _))

/-- What an update sends is texts. -/
def sendsTexts (node : Node) : Bool :=
  match node.config with
  | .action c => c.vistaFields.all fun f => (f.2 matches .str _)
  | _ => true

/-- A step that can be carried out where all values have texts: its configuration is that of its
kind, and what it binds has a name and a text. -/
def sturdy (node : Node) : Bool :=
  node.config.kind? = node.kind? && match node.config with
    | .input c => Text.trim c.variableName ≠ ""
    | .unchecked _ => false
    | .action c => c.variableValue.toJson.hasText &&
        (c.actionType ≠ Engine.assignment || Text.trim (Engine.assignedName c) ≠ "")
    | _ => true

theorem exists_str_of_sendsTexts {node : Node} {c : ActionConfig} (h : node.sendsTexts = true)
    (hc : node.config = .action c) : ∀ f ∈ c.vistaFields, ∃ text, f.2 = .str text := by
  intro f hf
  simp only [sendsTexts, hc, List.all_eq_true] at h
  have hstr := h f hf
  split at hstr
  · exact ⟨_, ‹_›⟩
  · cases hstr

theorem fit_of_sturdy {node : Node} (h : node.sturdy = true) : node.Fit ∧ ¬ node.Nameless := by
  obtain ⟨hkind, hconfig⟩ := (Bool.and_eq_true ..).mp h
  refine ⟨⟨fun k hk => ?_, fun fields hc => ?_, fun c hc => ?_⟩, ?_⟩
  · rw [← hk]
    exact of_decide_eq_true hkind
  · simp [hc] at hconfig
  · simpa [hc] using hconfig
  · rintro ⟨-, c, hc, hassigns, hblank⟩
    simp [hc, hassigns, hblank] at hconfig

theorem worded_of_sturdy {node : Node} (h : node.sturdy = true) (hs : node.sendsTexts = true) :
    node.Worded := by
  obtain ⟨-, hconfig⟩ := (Bool.and_eq_true ..).mp h
  intro c hc
  rw [hc] at hconfig
  refine ⟨((Bool.and_eq_true ..).mp hconfig).1, fun f hf => ?_⟩
  obtain ⟨text, htext⟩ := exists_str_of_sendsTexts hs hc f hf
  rw [htext]
  rfl

end Node

namespace Flow

/-- Where the unconditional ways come to rest within so many steps: at a step that asks, or at the
end. -/
def rest? (flow : Flow) : Nat → Option Node → Option (Option Node)
  | _, none => some none
  | 0, some _ => none
  | steps + 1, some node =>
    if node.Asks then some (some node)
    else if node.kind? = some .finish then some none
    else flow.rest? steps (flow.next? node)

/-- Where an answer may lead from a step that asks. -/
def exits (flow : Flow) (node : Node) : List (Option Node) :=
  if node.kind? = some .input then [flow.next? node]
  else (flow.outgoing node.id).map fun edge => flow.node? edge.target

/-- A step that every answer leads on from. -/
def Open (flow : Flow) (node : Node) : Prop :=
  node.kind? = some .input ∨ flow.exits node ≠ [] ∧ none ∉ flow.exits node

instance (flow : Flow) (node : Node) : Decidable (flow.Open node) :=
  inferInstanceAs (Decidable (_ ∨ _))

/-- Whatever the answers are, so many of them lead to the end. -/
def finishes (flow : Flow) : Nat → Option Node → Bool
  | 0, next => flow.rest? flow.nodes.length next = some none
  | answers + 1, next =>
    match flow.rest? flow.nodes.length next with
    | some (some node) => flow.Open node && (flow.exits node).all (flow.finishes answers)
    | place => place = some none

variable {flow : Flow} {node asker : Node} {next : Option Node} {steps answers : Nat}

theorem rest?_of_not_stops (h : ¬ node.Stops) :
    flow.rest? (steps + 1) (some node) = flow.rest? steps (flow.next? node) := by
  obtain ⟨hasks, hfinish⟩ := not_or.mp h
  rw [rest?, if_neg hasks, if_neg hfinish]

theorem asks_of_rest? (hn : ∀ n ∈ next, n ∈ flow.nodes)
    (h : flow.rest? steps next = some (some asker)) : asker ∈ flow.nodes ∧ asker.Asks := by
  induction steps generalizing next with
  | zero => cases next <;> cases h
  | succ steps ih =>
      cases next with
      | none => cases h
      | some node =>
          rw [rest?] at h
          split at h
          · cases h
            exact ⟨hn _ rfl, ‹_›⟩
          · split at h
            · cases h
            · exact ih (fun n hnext => mem_of_next? hnext) h

theorem mem_of_mem_exits (h : next ∈ flow.exits node) : ∀ n ∈ next, n ∈ flow.nodes := by
  rintro n rfl
  unfold exits at h
  split at h
  · exact mem_of_next? (List.mem_singleton.mp h).symm
  · obtain ⟨edge, -, hedge⟩ := List.mem_map.mp h
    exact mem_of_node? hedge

/-- The ways come to the end, or to a step from which every answer leads on to where one answer less
is enough. -/
theorem finishes_cases (h : flow.finishes answers next = true) :
    flow.rest? flow.nodes.length next = some none ∨
      ∃ node fewer, answers = fewer + 1 ∧
        flow.rest? flow.nodes.length next = some (some node) ∧ flow.Open node ∧
        ∀ exit ∈ flow.exits node, flow.finishes fewer exit = true := by
  cases answers with
  | zero => exact .inl (of_decide_eq_true h)
  | succ fewer =>
      unfold finishes at h
      split at h
      · obtain ⟨hopen, hall⟩ := (Bool.and_eq_true ..).mp h
        exact .inr ⟨_, fewer, rfl, ‹_›, of_decide_eq_true hopen, List.all_eq_true.mp hall⟩
      · exact .inl (of_decide_eq_true h)

end Flow

namespace Template

theorem sturdy {t : Template} (h : t ∈ all) :
    ∀ node ∈ t.flow.nodes, node.sturdy = true ∧ node.sendsTexts = true := by
  revert t
  decide +kernel

def askingOnce : List String := ["confirmacao-imovel", "faq-automatico", "agendamento-visita"]

/-- How many answers a built-in flow takes at most. -/
def answers (t : Template) : Nat := if t.flow.id ∈ askingOnce then 1 else 2

/-- No built-in flow ends without an answer, and each ends with so many. -/
theorem finishes {t : Template} (h : t ∈ all) : ∃ start, t.flow.startNode? = some start ∧
    t.flow.finishes 0 (some start) = false ∧
    t.flow.finishes t.answers (some start) = true := by
  have hall : ∀ t ∈ all, (t.flow.startNode?.any fun start =>
      !t.flow.finishes 0 (some start) && t.flow.finishes t.answers (some start)) = true := by
    decide +kernel
  obtain ⟨start, hstart, hends⟩ := (Option.any_eq_true ..).mp (hall t h)
  obtain ⟨hasks, hfinishes⟩ := (Bool.and_eq_true ..).mp hends
  exact ⟨start, hstart, (Bool.not_eq_true' _).mp hasks, hfinishes⟩

end Template
end Dialogue
