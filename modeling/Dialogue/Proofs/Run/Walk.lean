import Dialogue.Proofs.Run.Identity

/-!
# What a leg of a walk leaves behind

Without handlers of the host, a leg of a walk ends with the run at rest, or at a step whose effect
has been asked for (`walk_sound`, `takeUp_sound`).
-/
namespace Dialogue

open Run (Told)

namespace Run

/-- The steps a run entered are steps of the flow, each kept once, and whatever happened to the
run happened at one of them. -/
structure Traced (flow : Flow) (r : Run) : Prop where
  nodup : r.visited.Nodup
  known : ∀ id ∈ r.visited, ∃ node ∈ flow.nodes, node.id = id
  current : ∀ id, r.current = some id → id ∈ r.visited
  logged : ∀ x ∈ r.log, x.nodeId ∈ r.visited

/-- A run on which nothing is carried out after it was started. -/
inductive AtRest (flow : Flow) (r : Run) : Prop where
  | waiting (node : Node) (hn : node ∈ flow.nodes) (ha : node.Asks) (hs : r.status = .waiting)
      (hc : r.current = some node.id) (hf : r.failure = none) (hp : r.processing = false)
  | completed (hs : r.status = .completed) (hc : r.current = none) (hf : r.failure = none)
      (hp : r.processing = false)
  | failed (reason : String) (hr : reason ≠ "") (hs : r.status = .failed) (hc : r.current = none)
      (hf : r.failure = some reason) (hp : r.processing = false)

structure AtStep (flow : Flow) (node : Node) (r : Run) : Prop where
  mem : node ∈ flow.nodes
  status : r.status = .running
  current : r.current = some node.id
  failure : r.failure = none
  processing : r.processing = true

variable {flow : Flow} {node : Node} {n : Nat} {r s : Run}

theorem mem_visited_enter (r : Run) (id : String) : id ∈ (r.enter id).visited := by
  simp only [enter]
  split
  · simpa using ‹r.visited.contains id = true›
  · simp

theorem visited_subset_enter (r : Run) (id : String) : r.visited ⊆ (r.enter id).visited := by
  simp only [enter]
  split
  · exact fun _ h => h
  · exact fun _ h => List.mem_append_left _ h

theorem Traced.enter (h : r.Traced flow) (hn : node ∈ flow.nodes) :
    (r.enter node.id).Traced flow where
  nodup := by
    simp only [Run.enter]
    split
    · exact h.nodup
    · rename_i hnew
      rw [List.nodup_append]
      refine ⟨h.nodup, List.nodup_singleton _, ?_⟩
      intro id hid other hother heq
      rw [List.mem_singleton.mp hother] at heq
      exact hnew (by simpa [heq] using hid)
  known := by
    intro id hid
    simp only [Run.enter] at hid
    split at hid
    · exact h.known id hid
    · rcases List.mem_append.mp hid with hid | hid
      · exact h.known id hid
      · exact ⟨node, hn, (List.mem_singleton.mp hid).symm⟩
  current := by
    intro id hid
    have : node.id = id := Option.some.inj hid
    exact this ▸ mem_visited_enter r node.id
  logged := fun x hx => visited_subset_enter r node.id (h.logged x hx)

/-- Only the log and the place of a run matter to its trace, and a run may lose its place. -/
theorem Traced.congr (h : r.Traced flow) (hv : s.visited = r.visited) (hl : s.log = r.log)
    (hc : s.current = none ∨ s.current = r.current) : s.Traced flow where
  nodup := hv ▸ h.nodup
  known := hv ▸ h.known
  current := by
    intro id hid
    rcases hc with hc | hc
    · simp [hc] at hid
    · exact hv ▸ h.current id (hc ▸ hid)
  logged := by
    rw [hl, hv]
    exact h.logged

theorem Traced.told (h : r.Traced flow) (hv : node.id ∈ r.visited) (ht : Told node n r s) :
    s.Traced flow where
  nodup := ht.visited ▸ h.nodup
  known := ht.visited ▸ h.known
  current := fun id hid => ht.visited ▸ h.current id (ht.current ▸ hid)
  logged := by
    intro x hx
    obtain ⟨es, hes, -, hall⟩ := ht.noted
    rw [hes] at hx
    rw [ht.visited]
    rcases List.mem_append.mp hx with hx | hx
    · exact h.logged x hx
    · exact hall x hx ▸ hv

theorem AtStep.told (h : r.AtStep flow node) (ht : Told node n r s) : s.AtStep flow node :=
  ⟨h.mem, ht.status.trans h.status, ht.current.trans h.current, ht.failure.trans h.failure,
    ht.processing.trans h.processing⟩

theorem AtStep.not_terminal (h : r.AtStep flow node) : r.isTerminal = false := by
  simp [isTerminal, h.status, Status.isTerminal]

theorem AtStep.suspend_eq (h : r.AtStep flow node) :
    r.suspend = { r with status := .waiting } := by
  rw [suspend, if_pos h.status]

theorem complete_eq (h : r.isTerminal = false) :
    r.complete = { r with status := .completed, current := none } := by
  simp [complete, h]

end Run

namespace Leg

/-- What a leg of a walk comes to, and what the contact has said by then. -/
structure Sound (flow : Flow) (said : List String) (leg : Leg) : Prop where
  answers : leg.run.answers = said
  traced : leg.run.Traced flow
  returned : leg.stop = .returned → leg.run.AtRest flow
  awaiting : ∀ node request, leg.stop = .awaiting node request →
    leg.run.AtStep flow node ∧ node.SeeksEffect

variable {flow : Flow} {said : List String} {run : Run} {leg : Leg}

theorem Sound.of_returned (events : List Event) (hs : run.answers = said)
    (ht : run.Traced flow) (hr : run.released.AtRest flow) :
    Sound flow said (.returned run events) :=
  ⟨hs, ht.congr rfl rfl (.inr rfl), fun _ => hr, by simp [Leg.returned]⟩

theorem Sound.after (h : leg.Sound flow said) (events : List Event) :
    (leg.after events).Sound flow said := ⟨h.answers, h.traced, h.returned, h.awaiting⟩

end Leg

namespace Engine

variable {e : Engine} {node : Node} {run r : Run} {events : List Event} {step : Step}

/-- A run that a walk may go on with. -/
structure Underway (flow : Flow) (r : Run) : Prop where
  traced : r.Traced flow
  status : r.status = .running
  failure : r.failure = none
  processing : r.processing = true
  cancelled : r.cancelled = false

theorem Underway.told {flow : Flow} {node : Node} {n : Nat} {r s : Run} (h : Underway flow r)
    (hv : node.id ∈ r.visited) (ht : Told node n r s) : Underway flow s :=
  ⟨h.traced.told hv ht, ht.status.trans h.status, ht.failure.trans h.failure,
    ht.processing.trans h.processing, ht.follows.cancelled.trans h.cancelled⟩

theorem Underway.enter {flow : Flow} {r : Run} (h : Underway flow r) (hn : node ∈ flow.nodes) :
    Underway flow (r.enter node.id) :=
  ⟨h.traced.enter hn, h.status, h.failure, h.processing, h.cancelled⟩

theorem Underway.atStep_enter {flow : Flow} {r : Run} (h : Underway flow r)
    (hn : node ∈ flow.nodes) : (r.enter node.id).AtStep flow node :=
  ⟨hn, h.status, rfl, h.failure, h.processing⟩

theorem endOfFlow_sound {flow : Flow} (h : Underway flow run) :
    (endOfFlow run).Sound flow run.answers := by
  have hend : run.status = .running ∧ run.cancelled = false := ⟨h.status, h.cancelled⟩
  simp only [endOfFlow, if_pos hend]
  have hsaid := run.answers_say_of_ne (by decide : Speaker.system ≠ .user)
    "Fluxo concluído (sem mais nós)" none
  have hterm : (run.say .system "Fluxo concluído (sem mais nós)" none).isTerminal = false := by
    show run.status.isTerminal = false
    rw [h.status]
    rfl
  apply Leg.Sound.of_returned _ ((Run.answers_complete _).trans hsaid)
  · rw [Run.complete_eq hterm]
    exact h.traced.congr rfl rfl (.inl rfl)
  · rw [Run.complete_eq hterm]
    exact .completed rfl rfl h.failure rfl

theorem proceed_sound (hu : Underway e.flow run) (hr : run.AtStep e.flow node)
    (h : e.Settled node run r events step) {walk : Option Node → Run → Leg}
    (hw : ∀ next r, (∀ n ∈ next, n ∈ e.flow.nodes) → Underway e.flow r →
      (walk next r).Sound e.flow r.answers) :
    (proceed walk node r events step).Sound e.flow run.answers := by
  have hv : node.id ∈ run.visited := hu.traced.current _ hr.current
  cases h with
  | concluded h =>
      cases h with
      | onward h =>
          simp only [proceed, onward, Bool.false_eq_true, if_false, (hr.told h).not_terminal]
          rw [← h.answers]
          exact (hw _ _ (fun n hn => Flow.mem_of_next? hn) (hu.told hv h)).after _
      | @halts r reason h hreason =>
          have hterm : (r.fail reason).isTerminal = true := rfl
          simp only [proceed, Bool.false_eq_true, if_false, hterm, if_true]
          exact .of_returned _ h.answers
            ((hu.traced.told hv h).congr rfl rfl (.inl rfl))
            (.failed reason hreason rfl rfl rfl rfl)
      | @breaks r f h =>
          have hterm : (r.fail f.report).isTerminal = true := rfl
          simp only [proceed, Bool.false_eq_true, if_false, hterm, if_true]
          exact .of_returned _ h.answers
            ((hu.traced.told hv h).congr rfl rfl (.inl rfl))
            (.failed f.report f.report_ne_empty rfl rfl rfl rfl)
  | waits h ha =>
      simp only [proceed, if_true]
      have hat := hr.told h
      apply Leg.Sound.of_returned _ ((Run.answers_suspend r).trans h.answers)
      · rw [hat.suspend_eq]
        exact (hu.traced.told hv h).congr rfl rfl (.inr rfl)
      · rw [hat.suspend_eq]
        exact .waiting node hat.mem ha rfl hat.current hat.failure rfl
  | @completes r h =>
      have hat := hr.told h
      simp only [proceed, Bool.false_eq_true, if_false, r.isTerminal_complete, if_true]
      apply Leg.Sound.of_returned _ ((Run.answers_complete r).trans h.answers)
      · rw [Run.complete_eq hat.not_terminal]
        exact (hu.traced.told hv h).congr rfl rfl (.inl rfl)
      · rw [Run.complete_eq hat.not_terminal]
        exact .completed rfl rfl hat.failure rfl

theorem walk_sound (hh : e.handlers = []) (steps : Nat) (next : Option Node) (run : Run)
    (hn : ∀ n ∈ next, n ∈ e.flow.nodes) (hu : Underway e.flow run) :
    (e.walk steps next run).Sound e.flow run.answers := by
  -- on the bound; between two steps the run stays under way
  induction steps generalizing next run with
  | zero =>
      cases next with
      | none => exact endOfFlow_sound hu
      | some node => exact ⟨rfl, hu.traced, by simp [walk], by simp [walk]⟩
  | succ steps ih =>
      cases next with
      | none => exact endOfFlow_sound hu
      | some node =>
          have hmem : node ∈ e.flow.nodes := hn node rfl
          have hvisit := visit_visited (unhandled hh node) run
          simp only [walk, hu.cancelled, Bool.false_eq_true, if_false]
          cases hv : e.visit node run with
          | asking r request =>
              rw [hv] at hvisit
              cases hvisit with
              | asking h hs =>
                  have hat := (hu.atStep_enter hmem).told h
                  refine ⟨h.answers,
                    (hu.enter hmem).traced.told (Run.mem_visited_enter run node.id) h, by simp, ?_⟩
                  intro node' request' heq
                  injection heq with hnode
                  exact hnode ▸ ⟨hat, hs⟩
          | done r events step =>
              rw [hv] at hvisit
              cases hvisit with
              | settled h =>
                  exact proceed_sound (hu.enter hmem) (hu.atStep_enter hmem) h ih

theorem continueFrom_sound (hh : e.handlers = []) {next : Option Node}
    (hn : ∀ n ∈ next, n ∈ e.flow.nodes) (ht : run.Traced e.flow) (hs : run.status = .running)
    (hf : run.failure = none) (hp : run.processing = false) (hc : run.cancelled = false) :
    (e.continueFrom next run).Sound e.flow run.answers := by
  simp only [continueFrom, hp, Bool.false_eq_true, if_false]
  have hu : Underway e.flow { run with processing := true } :=
    ⟨ht.congr rfl rfl (.inr rfl), hs, hf, rfl, hc⟩
  exact walk_sound hh e.bound next _ hn hu

theorem takeUp_sound (hh : e.handlers = []) (hr : run.AtStep e.flow node)
    (hs : node.SeeksEffect) (ht : run.Traced e.flow) (hc : run.cancelled = false)
    (request : EffectRequest) (outcome : EffectOutcome) :
    (e.takeUp node request outcome run).Sound e.flow run.answers :=
  proceed_sound ⟨ht, hr.status, hr.failure, hr.processing, hc⟩ hr
    (.concluded (conclude_concluded e hs request outcome run)) (walk_sound hh e.bound)

end Engine
end Dialogue
