import Dialogue.Proofs.Flow.Checked
import Dialogue.Proofs.Run.Handles

/-!
# Ways out of a condition

An answer asks again only where nothing leaves the condition, or where no branch matches and the
settings say to wait. Otherwise it leaves by the first edge that goes with the branch, or with no
branch, and for want of one by the first edge of all; in a flow whose ids have no blanks around them
that edge ends at a step (`routeCondition_leaves`).
-/
namespace Dialogue

namespace Edge

/-- The edge is tied to one of the selectors. -/
def Carries (edge : Edge) (selectors : List String) : Prop :=
  ∃ s ∈ selectors, edge.selector = some s

/-- The edge is tied to no branch. -/
def Bare (edge : Edge) : Prop := edge.selector = none ∨ edge.selector = some ""

instance (edge : Edge) : Decidable edge.Bare := inferInstanceAs (Decidable (_ ∨ _))

variable {edge : Edge}

theorem carries_iff {selectors : List String} :
    edge.Carries selectors ↔ (edge.selector.any fun s => selectors.contains s) = true := by
  cases h : edge.selector with
  | none => simp [Carries, h]
  | some s => simp [Carries, h]

theorem bare_iff : edge.Bare ↔ edge.selector.getD "" = "" := by
  cases h : edge.selector with
  | none => simp [Bare, h]
  | some s => simp [Bare, h]

end Edge

namespace Flow

/-- The edge is the first way out of the step that fits; where none does, the first one. -/
def Leaves (flow : Flow) (node : Node) (fits : Edge → Prop) (edge : Edge) : Prop :=
  ∃ before after, flow.outgoing node.id = before ++ edge :: after ∧
    ((fits edge ∧ ∀ earlier ∈ before, ¬ fits earlier) ∨
      (before = [] ∧ ∀ other ∈ flow.outgoing node.id, ¬ fits other))

variable {flow : Flow} {node : Node} {edge : Edge} {fits : Edge → Prop} {test : Edge → Bool}

theorem Leaves.mem (h : flow.Leaves node fits edge) : edge ∈ flow.outgoing node.id := by
  obtain ⟨before, after, hsplit, -⟩ := h
  rw [hsplit]
  exact List.mem_append_right _ List.mem_cons_self

theorem leaves_of_find? (htest : ∀ edge, fits edge ↔ test edge = true)
    (h : ((flow.outgoing node.id).find? test).or (flow.outgoing node.id).head? = some edge) :
    flow.Leaves node fits edge := by
  rcases Option.or_eq_some_iff.mp h with hfind | ⟨hnone, hhead⟩
  · obtain ⟨hfits, before, after, hsplit, hbefore⟩ := List.find?_eq_some_iff_append.mp hfind
    refine ⟨before, after, hsplit, .inl ⟨(htest edge).mpr hfits, fun earlier hmem hf => ?_⟩⟩
    simpa [(htest earlier).mp hf] using hbefore earlier hmem
  · obtain ⟨after, hsplit⟩ := List.head?_eq_some_iff.mp hhead
    refine ⟨[], after, hsplit, .inr ⟨rfl, fun other hmem hf => ?_⟩⟩
    exact List.find?_eq_none.mp hnone other hmem ((htest other).mp hf)

theorem Accepted.exists_target (h : flow.Accepted)
    (htight : ∀ step ∈ flow.nodes, Text.trim step.id = step.id)
    (he : edge ∈ flow.outgoing node.id) :
    ∃ target ∈ flow.nodes, target.id = edge.target ∧ flow.node? edge.target = some target := by
  obtain ⟨-, target, hmem, htrim⟩ := h.exists_ends (edge_mem_of_outgoing he).1
  have hid : target.id = edge.target := (htight target hmem).symm.trans htrim
  exact ⟨target, hmem, hid, (h.node?_eq_some_iff hmem htrim).mpr ⟨hid, rfl⟩⟩

end Flow

/-- The edge goes with what the answer matches: a selector of the branch, or none where no branch
matches. -/
def ConditionConfig.Suits (c : ConditionConfig) (text : String) (edge : Edge) : Prop :=
  match resolveBranch text c.branches with
  | some place => ∃ b, c.branches[place]? = some b ∧ edge.Carries (b.selectors (toString place))
  | none => edge.Bare

theorem Node.Fit.exists_condition {node : Node} (h : node.Fit)
    (hkind : node.kind? = some .condition) : ∃ c, node.config = .condition c := by
  have hconfig := h.kind _ hkind
  cases hc : node.config with
  | condition c => exact ⟨c, rfl⟩
  | _ => simp [hc, NodeConfig.kind?] at hconfig

namespace Engine

variable {e : Engine} {node : Node}

/-- Waiting just where it is stuck, and otherwise at the end of the first edge that fits. -/
def Departs (e : Engine) (node : Node) (fits : Edge → Prop) (stuck : Prop) (step : Step) : Prop :=
  (step.wait = true ↔ stuck) ∧ (step.wait = true → step.next = none) ∧
    (step.wait = false → ∃ edge target, e.flow.Leaves node fits edge ∧ target ∈ e.flow.nodes ∧
      target.id = edge.target ∧ step.next = some target)

theorem leaveBy_departs {fits : Edge → Prop} {test : Edge → Bool} (ha : e.flow.Accepted)
    (htight : ∀ step ∈ e.flow.nodes, Text.trim step.id = step.id)
    (htest : ∀ edge, fits edge ↔ test edge = true) (run : Run) :
    e.Departs node fits (e.flow.outgoing node.id = [])
      (leaveBy node run ((((e.flow.outgoing node.id).find? test).or
        (e.flow.outgoing node.id).head?).bind fun edge => e.flow.node? edge.target)).2 := by
  cases hway : ((e.flow.outgoing node.id).find? test).or (e.flow.outgoing node.id).head? with
  | none =>
      have hnone : e.flow.outgoing node.id = [] :=
        List.head?_eq_none_iff.mp (Option.or_eq_none_iff.mp hway).2
      simp [Departs, leaveBy, hnone]
  | some edge =>
      have hleaves := Flow.leaves_of_find? htest hway
      have hsome : e.flow.outgoing node.id ≠ [] := List.ne_nil_of_mem hleaves.mem
      obtain ⟨target, hmem, hid, htarget⟩ := ha.exists_target htight hleaves.mem
      rw [Option.bind_some, htarget]
      refine ⟨by simp [leaveBy, hsome], by simp [leaveBy], fun _ => ?_⟩
      exact ⟨edge, target, hleaves, hmem, hid, rfl⟩

theorem branchTaken_step (e : Engine) (node : Node) (run : Run) (text : String) (place : Nat)
    (b : Branch) : ∃ r, e.branchTaken node run text place b = leaveBy node r
      (((e.flow.branchEdge? node (toString place) b).or (e.flow.outgoing node.id).head?).bind
        fun edge => e.flow.node? edge.target) := by
  unfold branchTaken
  cases e.flow.branchEdge? node (toString place) b with
  | some edge => exact ⟨_, rfl⟩
  | none => exact ⟨_, rfl⟩

theorem branchTaken_departs (ha : e.flow.Accepted)
    (htight : ∀ step ∈ e.flow.nodes, Text.trim step.id = step.id) (run : Run) (text : String)
    (place : Nat) (b : Branch) :
    e.Departs node (·.Carries (b.selectors (toString place))) (e.flow.outgoing node.id = [])
      (e.branchTaken node run text place b).2 := by
  obtain ⟨r, hr⟩ := e.branchTaken_step node run text place b
  rw [hr]
  exact leaveBy_departs ha htight (fun _ => Edge.carries_iff) r

theorem unconditionalEdge?_of_condition {flow : Flow} (hkind : node.kind? = some .condition) :
    flow.unconditionalEdge? node =
      ((flow.outgoing node.id).find? fun edge => edge.selector.getD "" = "").or
        (flow.outgoing node.id).head? := by
  rw [Flow.unconditionalEdge?, if_pos (Node.kind?_eq_some_iff.mp hkind), Option.orElse_eq_or]

theorem firstWayOut_departs (ha : e.flow.Accepted)
    (htight : ∀ step ∈ e.flow.nodes, Text.trim step.id = step.id)
    (hkind : node.kind? = some .condition) (run : Run) (text : String) :
    e.Departs node Edge.Bare (e.flow.outgoing node.id = []) (e.firstWayOut node run text).2 := by
  unfold firstWayOut Flow.next?
  rw [unconditionalEdge?_of_condition hkind]
  exact leaveBy_departs ha htight (fun edge => by simp [Edge.bare_iff]) _

/-- A condition of a checked flow whose ids have no blanks around them waits on an answer just where
nothing leaves it, or no branch matches and the settings say to wait. Any other answer leads on to
the end of an edge that leaves it: the first one that goes with the branch that matches, or with no
branch where none does, and for want of such an edge the first of all. -/
theorem routeCondition_leaves {v : Json} (h : Flow.check v = .ok e.flow)
    (htight : ∀ step ∈ e.flow.nodes, Text.trim step.id = step.id) (hn : node ∈ e.flow.nodes)
    (hkind : node.kind? = some .condition) (run : Run) (text : String) :
    ∃ c, node.config = .condition c ∧ ∃ r step, e.routeCondition node run text = .ok (r, step) ∧
      e.Departs node (c.Suits text) (e.flow.outgoing node.id = [] ∨
        resolveBranch text c.branches = none ∧ e.settings.unmatchedPolicy = .wait) step := by
  have ha : e.flow.Accepted := Flow.accepted_of_check h
  obtain ⟨c, hc⟩ := (Flow.fit_of_check h hn).exists_condition hkind
  refine ⟨c, hc, ?_⟩
  cases hplace : resolveBranch text c.branches with
  | some place =>
      obtain ⟨b, hb⟩ := exists_branch hplace
      have hsuits : c.Suits text = (·.Carries (b.selectors (toString place))) := by
        funext edge
        simp [ConditionConfig.Suits, hplace, hb]
      have hroute : e.routeCondition node run text = .ok (e.branchTaken node run text place b) := by
        simp only [routeCondition, hc, hplace, hb]
      refine ⟨(e.branchTaken node run text place b).1,
        (e.branchTaken node run text place b).2, hroute, ?_⟩
      simpa [hsuits] using branchTaken_departs ha htight run text place b
  | none =>
      have hsuits : c.Suits text = Edge.Bare := by
        funext edge
        simp [ConditionConfig.Suits, hplace]
      cases hpolicy : e.settings.unmatchedPolicy with
      | wait =>
          have hroute : e.routeCondition node run text = .ok (askAgain node run text) := by
            simp only [routeCondition, hc, hplace, hpolicy]
          exact ⟨_, _, hroute, by simp [Departs]⟩
      | firstEdge =>
          have hroute : e.routeCondition node run text = .ok (e.firstWayOut node run text) := by
            simp only [routeCondition, hc, hplace, hpolicy]
          refine ⟨(e.firstWayOut node run text).1, (e.firstWayOut node run text).2, hroute, ?_⟩
          simpa [hsuits] using firstWayOut_departs ha htight hkind run text

end Engine

namespace Poll

/-- No branch matches and every way out has a selector, so the first one is taken. -/
theorem maybe_leaves : Flow.check given = .ok engine.flow ∧ choice ∈ engine.flow.nodes ∧
    (∀ step ∈ engine.flow.nodes, Text.trim step.id = step.id) ∧
    choice.kind? = some .condition ∧ resolveBranch "maybe" question.branches = none ∧
    ∃ r, engine.routeCondition choice default "maybe" = .ok (r, ⟨some second, false⟩) := by
  have hnone : resolveBranch "maybe" question.branches = none := by decide +kernel
  have htight : ∀ step ∈ engine.flow.nodes, Text.trim step.id = step.id := by decide +kernel
  have hmem : choice ∈ engine.flow.nodes := by decide
  have hkind : choice.kind? = some .condition := by decide
  obtain ⟨c, hc, r, ⟨next, wait⟩, hroute, hwait, -, hleaves⟩ :=
    Engine.routeCondition_leaves check_given htight hmem hkind default "maybe"
  cases hc
  have hgoes : wait = false := by
    rw [Bool.eq_false_iff]
    intro hw
    rcases hwait.mp hw with hstuck | ⟨-, hpolicy⟩
    · exact absurd hstuck (by decide)
    · exact absurd hpolicy (by decide)
  obtain ⟨edge, target, hedge, htarget, hid, rfl⟩ := hleaves hgoes
  have hout : engine.flow.outgoing choice.id = [toSecond, toFirst] := by decide
  have hbare : ∀ other ∈ [toSecond, toFirst], ¬ other.Bare := by decide
  have hedges : edge ∈ [toSecond, toFirst] := hout ▸ hedge.mem
  obtain ⟨before, after, hsplit, ⟨hfits, -⟩ | ⟨rfl, -⟩⟩ := hedge
  · simp only [ConditionConfig.Suits, hnone] at hfits
    exact absurd hfits (hbare edge hedges)
  · rw [hout] at hsplit
    cases hsplit
    have hends : ∀ step ∈ engine.flow.nodes, step.id = toSecond.target → step = second := by
      decide
    cases hends target htarget hid
    exact ⟨check_given, hmem, htight, hkind, hnone, r, by rw [hroute, hgoes]⟩

end Poll
end Dialogue
