import Dialogue.Proofs.Run.Trail
import Dialogue.Proofs.Run.Wording

/-!
# The variables of a run as a replay

The variables of a run are written by the assignments of its actions and by the answers to its input
steps and by nothing else: what a leg leaves of them is what these made of them, one after the other
(`walk_vars`, `takeUp_vars`).
-/
namespace Dialogue

/-- The binding that an answer makes at an input step, whose variable must have a name. -/
def Node.answer? (node : Node) (text : String) : Option (String × Json) :=
  match node.kind?, node.config.input? with
  | some .input, some fields =>
    match fields.variableName.said with
    | .ok name => Variables.binding? name (Answer.coerce text (.ofValue fields.expected))
    | .error _ => none
  | _, _ => none

theorem Variables.Worded.answered {vars : Variables} (h : vars.Worded) (node : Node)
    (text : String) : Worded (Bindings.merge vars (node.answer? text).toList) := by
  unfold Node.answer?
  split
  · split
    · exact h.binding _ (Answer.hasText_coerce text _)
    · exact h
  · exact h

namespace Stage

/-- The binding that a stage of a trail makes, if any. -/
def binding? : Stage → Option (String × Json)
  | visit node => node.assignment?
  | answer node text => node.answer? text

/-- The bindings that are made along a trail. -/
def bindings (trail : List Stage) : List (String × Json) := trail.filterMap binding?

theorem merge_cons (vars : Variables) (stage : Stage) (trail : List Stage) :
    Bindings.merge vars (bindings (stage :: trail)) =
      Bindings.merge (Bindings.merge vars stage.binding?.toList) (bindings trail) := by
  unfold bindings
  cases h : stage.binding? with
  | none =>
      rw [List.filterMap_cons_none h]
      rfl
  | some b =>
      rw [List.filterMap_cons_some h]
      rfl

end Stage

namespace Run

@[simp] theorem vars_suspend (r : Run) : r.suspend.vars = r.vars := by
  unfold suspend
  split <;> rfl

@[simp] theorem vars_complete (r : Run) : r.complete.vars = r.vars := by
  unfold complete
  split <;> rfl

end Run

namespace Engine

variable {e : Engine} {node : Node} {run r : Run} {events : List Event} {step : Step}

theorem visit_vars (hh : Bindings.get? node.type e.handlers = none) (run : Run) :
    match e.visit node run with
    | .done r _ _ => r.vars = node.assigned run.vars
    | .asking r _ => r.vars = node.assigned run.vars := by
  have hattempt := attempt_attempted hh (run.enter node.id)
  unfold visit
  generalize e.attempt node (run.enter node.id) = attempt at hattempt ⊢
  have hasks (ha : node.Asks) : node.assigned run.vars = run.vars := by
    apply Node.assigned_of_ne
    rcases ha with hk | hk <;> simp [hk]
  cases hattempt with
  | onward h hv hn => exact hv
  | waits h hv ha => exact hv.trans (hasks ha).symm
  | completes h hv hk =>
      have hnone : node.assigned run.vars = run.vars := Node.assigned_of_ne (by simp [hk]) _
      exact (Run.vars_complete _).trans (hv.trans hnone.symm)
  | asking h hv hs hn => exact hv
  | raised h hv => exact h.vars.trans hv.symm

theorem endOfFlow_vars (run : Run) : (endOfFlow run).run.vars = run.vars := by
  unfold endOfFlow
  split
  · exact Run.vars_complete _
  · rfl

theorem proceed_vars {walk : Option Node → Run → Leg} {stages : Option Node → Run → List Stage}
    (hw : ∀ next r, (walk next r).run.vars =
      Bindings.merge r.vars (Stage.bindings (stages next r)))
    (node : Node) (r : Run) (events : List Event) (step : Step) :
    (proceed walk node r events step).run.vars =
      Bindings.merge r.vars (Stage.bindings (beyond stages r step)) := by
  unfold proceed beyond
  split
  · exact Run.vars_suspend r
  · split
    · rfl
    · exact hw step.next r

theorem walk_vars (hh : e.handlers = []) (steps : Nat) (next : Option Node) (run : Run) :
    (e.walk steps next run).run.vars =
      Bindings.merge run.vars (Stage.bindings (e.stages steps next run)) := by
  induction steps generalizing next run with
  | zero =>
      cases next with
      | none => exact endOfFlow_vars run
      | some node => rfl
  | succ steps ih =>
      cases next with
      | none => exact endOfFlow_vars run
      | some node =>
          have hvisit := visit_vars (unhandled hh node) run
          simp only [walk, stages]
          split
          · rfl
          · generalize e.visit node run = visit at hvisit ⊢
            cases visit with
            | asking r request => exact hvisit
            | done r events step =>
                dsimp only at hvisit ⊢
                rw [Stage.merge_cons, proceed_vars ih, hvisit]
                rfl

theorem continueFrom_vars (hh : e.handlers = []) (next : Option Node) (run : Run) :
    (e.continueFrom next run).run.vars =
      Bindings.merge run.vars (Stage.bindings (e.stagesFrom next run)) := by
  unfold continueFrom stagesFrom
  split
  · rfl
  · exact walk_vars hh e.bound next _

theorem conclude_vars (e : Engine) {node : Node} (hs : node.SeeksEffect) (request : EffectRequest)
    (outcome : EffectOutcome) (run : Run) :
    (e.conclude node request outcome run).1.vars = run.vars := by
  have hserved := conclude_served e hs request outcome run
  generalize e.conclude node request outcome run = left at hserved ⊢
  cases hserved with
  | onward h => exact h.vars
  | halts h hf hr => exact h.vars
  | breaks f => rfl

theorem takeUp_vars (hh : e.handlers = []) (hs : node.SeeksEffect) (request : EffectRequest)
    (outcome : EffectOutcome) (run : Run) : (e.takeUp node request outcome run).run.vars =
      Bindings.merge run.vars (Stage.bindings (e.stagesUpon node request outcome run)) := by
  have hproceed := proceed_vars (walk_vars hh e.bound) node
    (e.conclude node request outcome run).1 (e.conclude node request outcome run).2.1
    (e.conclude node request outcome run).2.2
  rw [conclude_vars e hs] at hproceed
  exact hproceed

theorem leaveBy_vars (node : Node) (run : Run) (next : Option Node) :
    (leaveBy node run next).1.vars = run.vars := by
  cases next <;> rfl

theorem routeCondition_vars {text : String} {step : Step}
    (h : e.routeCondition node run text = .ok (r, step)) : r.vars = run.vars := by
  unfold routeCondition at h
  split at h
  · split at h
    · split at h
      · have hr : _ = r := congrArg Prod.fst (Except.ok.inj h)
        rw [← hr]
        exact leaveBy_vars node _ _
      · have hr : _ = r := congrArg Prod.fst (Except.ok.inj h)
        rw [← hr]
        exact leaveBy_vars node _ _
    · have hr : _ = r := congrArg Prod.fst (Except.ok.inj h)
      rw [← hr]
      split
      · rfl
      · exact leaveBy_vars node _ _
  · cases h

theorem bindInput_vars (hk : node.kind? = some .input) (run : Run) (text : String) :
    match e.bindInput node run text with
    | .ok (r, _) => r.vars = Bindings.merge run.vars (node.answer? text).toList
    | .error _ => node.answer? text = none := by
  unfold bindInput Node.answer?
  rw [hk]
  cases hc : node.config.input? with
  | none => rfl
  | some fields =>
      cases hname : fields.variableName.said with
      | error f =>
          simp only [hname, bind, Except.bind]
      | ok name =>
          simp only [hname, bind, Except.bind]
          cases hbound : run.setVariable? name (Answer.coerce text (.ofValue fields.expected)) with
          | error f => exact Run.binding?_of_setVariable? hbound
          | ok r =>
              have hvars := Run.vars_of_setVariable? hbound
              exact hvars

theorem take_vars (e : Engine) {node : Node} (ha : node.Asks) (run : Run) (text : String) :
    (Session.take e node run text).run.vars =
      Bindings.merge run.vars (node.answer? text).toList := by
  unfold Session.take
  rcases ha with hk | hk
  · simp only [hk]
    have hbound := bindInput_vars (e := e) hk run text
    cases hcase : e.bindInput node run text with
    | error f =>
        rw [hcase] at hbound
        rw [show node.answer? text = none from hbound]
        rfl
    | ok bound =>
        rw [hcase] at hbound
        exact hbound
  · have hnone : node.answer? text = none := by simp [Node.answer?, hk]
    rw [hnone]
    simp only [hk]
    cases hcase : e.routeCondition node run text with
    | error f => rfl
    | ok routed =>
        obtain ⟨r, step⟩ := routed
        have hvars := routeCondition_vars hcase
        dsimp only
        split <;> exact hvars

end Engine
end Dialogue
