import Dialogue.Proofs.Run.Processing

/-!
# What a walk leaves alone

What no transition of a run breaks lasts through a walk, under handlers of the host that do not
break it either (`Keeping`). So a run keeps its id and the mark of having been discarded, and once
started it stays so, under handlers that leave these alone (`Loyal`). A discarded run that is taken
up comes back at once (`takeUp_drains`).
-/
namespace Dialogue

open Run (Told Follows Lasting)

namespace Leg

/-- What a leg leaves alone, and whose effects it waits for. -/
structure Follows (origin : Run) (leg : Leg) : Prop where
  run : Run.Follows origin leg.run
  seeks : ∀ node request, leg.stop = .awaiting node request → node.SeeksEffect

/-- What the leg on which a discarded run comes back comes to. -/
structure Drains (origin : Run) (leg : Leg) : Prop where
  run : Run.Follows origin leg.run
  stop : leg.stop = .returned
  events : leg.events ≠ []

variable {origin run : Run} {leg : Leg}

/-- What a leg leaves as it was, up to what lasts, and whose effects it waits for. -/
structure Keeps (R : Run → Run → Prop) (origin : Run) (leg : Leg) : Prop where
  run : R origin leg.run
  seeks : ∀ node request, leg.stop = .awaiting node request → node.SeeksEffect

variable {R : Run → Run → Prop}

theorem Keeps.follows (h : leg.Keeps Run.Follows origin) : leg.Follows origin := ⟨h.run, h.seeks⟩

theorem Keeps.of_returned (hR : Lasting R) (h : R origin run) (events : List Event) :
    Keeps R origin (.returned run events) :=
  ⟨hR.trans h (hR.process run false), by simp [Leg.returned]⟩

theorem Keeps.after (h : leg.Keeps R origin) (events : List Event) :
    (leg.after events).Keeps R origin := ⟨h.run, h.seeks⟩

theorem Keeps.of_run (h : leg.Keeps R run) (hR : Lasting R) (hr : R origin run) :
    leg.Keeps R origin := ⟨hR.trans hr h.run, h.seeks⟩

end Leg

/-- The run as an answer leaves it. -/
def Session.Taken.run : Session.Taken → Run
  | .walkOn run _ => run
  | .waitMore run => run
  | .failed run _ => run

namespace Engine

variable {e : Engine} {node : Node} {run r : Run} {events : List Event} {step : Step}

/-- Handlers that leave a run its id and its mark and do not put it back to its beginning. -/
def Loyal (e : Engine) : Prop :=
  ∀ type handler, Bindings.get? type e.handlers = some handler →
    ∀ node run, Follows run (handler e.flow node run).1

theorem loyal_of_nil (hh : e.handlers = []) : e.Loyal := by simp [Loyal, hh, Bindings.get?]

/-- Handlers that do not break what lasts. -/
def Keeping (e : Engine) (R : Run → Run → Prop) : Prop :=
  ∀ type handler, Bindings.get? type e.handlers = some handler →
    ∀ node run, R run (handler e.flow node run).1

theorem keeping_of_nil (hh : e.handlers = []) (R : Run → Run → Prop) : e.Keeping R := by
  simp [Keeping, hh, Bindings.get?]

variable {R : Run → Run → Prop}

theorem Concluded.keeps (h : Concluded e node run r events step) (hR : Lasting R) : R run r := by
  cases h with
  | onward h => exact hR.told h
  | halts h => exact hR.trans (hR.told h) (hR.fail _ _)
  | breaks f h => exact hR.trans (hR.told h) (hR.fail _ _)

theorem Settled.keeps (h : Settled e node run r events step) (hR : Lasting R) : R run r := by
  cases h with
  | concluded h => exact h.keeps hR
  | waits h => exact hR.told h
  | completes h => exact hR.trans (hR.told h) (hR.complete _)

private theorem failAt_keeps (hR : Lasting R) (run : Run) (node : Node) (f : Failure) :
    R run (run.failAt node f) :=
  hR.trans (hR.told (((Told.refl node run).note _ _ _ _).say (by decide) _ _)) (hR.fail _ _)

theorem visit_keeps (hR : Lasting R) (hk : e.Keeping R) (node : Node) (run : Run) :
    match e.visit node run with
    | .done r _ _ => R run r
    | .asking r _ => R run r ∧ node.SeeksEffect := by
  have hentered := hR.enter run node.id
  cases hh : Bindings.get? node.type e.handlers with
  | none =>
      have hvisit := visit_visited hh run
      generalize e.visit node run = visit at hvisit ⊢
      cases hvisit with
      | settled h => exact hR.trans hentered (h.keeps hR)
      | asking h hs => exact ⟨hR.trans hentered (hR.told h), hs⟩
  | some handler =>
      have hhandled := hR.trans hentered (hk _ _ hh node (run.enter node.id))
      simp only [visit, attempt, hh, visitHandled]
      generalize handler e.flow node (run.enter node.id) = handled at hhandled ⊢
      obtain ⟨r, reply⟩ := handled
      cases reply with
      | nothing => exact hhandled
      | step s => exact hhandled
      | value kind => exact hR.trans hhandled (failAt_keeps hR r node _)
      | raised f => exact hR.trans hhandled (failAt_keeps hR r node f)

theorem endOfFlow_keeps (hR : Lasting R) (run : Run) : (endOfFlow run).Keeps R run := by
  unfold endOfFlow
  split
  · exact .of_returned hR (hR.trans (hR.say run _ _ _) (hR.complete _)) _
  · exact .of_returned hR (hR.refl run) _

theorem proceed_keeps (hR : Lasting R) {walk : Option Node → Run → Leg}
    (hw : ∀ next r, (walk next r).Keeps R r) (node : Node) (run : Run) (events : List Event)
    (step : Step) : (proceed walk node run events step).Keeps R run := by
  unfold proceed
  split
  · exact .of_returned hR (hR.suspend run) _
  · split
    · exact .of_returned hR (hR.refl run) _
    · exact (hw step.next run).after events

theorem walk_keeps (hR : Lasting R) (hk : e.Keeping R) (steps : Nat) (next : Option Node)
    (run : Run) : (e.walk steps next run).Keeps R run := by
  induction steps generalizing next run with
  | zero =>
      cases next with
      | none => exact endOfFlow_keeps hR run
      | some node => exact ⟨hR.refl run, by simp [walk]⟩
  | succ steps ih =>
      cases next with
      | none => exact endOfFlow_keeps hR run
      | some node =>
          have hvisit := visit_keeps hR hk node run
          simp only [walk]
          split
          · exact .of_returned hR (hR.refl run) []
          · generalize e.visit node run = visit at hvisit ⊢
            cases visit with
            | done r events step => exact (proceed_keeps hR ih node r events step).of_run hR hvisit
            | asking r request =>
                refine ⟨hvisit.1, ?_⟩
                intro node' request' heq
                injection heq with hnode
                exact hnode ▸ hvisit.2

theorem continueFrom_keeps (hR : Lasting R) (hk : e.Keeping R) (next : Option Node) (run : Run) :
    (e.continueFrom next run).Keeps R run := by
  unfold continueFrom
  split
  · exact ⟨hR.refl run, by simp⟩
  · exact (walk_keeps hR hk e.bound next _).of_run hR (hR.process run true)

theorem takeUp_keeps (hR : Lasting R) (hk : e.Keeping R) (hs : node.SeeksEffect)
    (request : EffectRequest) (outcome : EffectOutcome) (run : Run) :
    (e.takeUp node request outcome run).Keeps R run :=
  (proceed_keeps hR (walk_keeps hR hk e.bound) node _ _ _).of_run hR
    ((conclude_concluded e hs request outcome run).keeps hR)

theorem walk_cancelled (hc : run.cancelled = true) (next : Option Node) :
    e.walk e.bound next run = .returned run [] := by
  cases next with
  | none => simp [bound, walk, endOfFlow, hc]
  | some node => simp [bound, walk, hc]

/-- A discarded run that is taken up goes no further: its step is concluded, it is recorded what
came of it, and the operation returns. -/
theorem takeUp_drains (hs : node.SeeksEffect) (hc : run.cancelled = true)
    (request : EffectRequest) (outcome : EffectOutcome) :
    (e.takeUp node request outcome run).Drains run := by
  have h := conclude_concluded e hs request outcome run
  simp only [takeUp]
  generalize e.conclude node request outcome run = concluded at h ⊢
  obtain ⟨r, events, step⟩ := concluded
  have hfollows := h.keeps Follows.lasting
  have hreleased : Follows run r.released := hfollows.trans ⟨rfl, rfl, fun hr => hr⟩
  cases h with
  | onward h =>
      simp only [proceed, onward, Bool.false_eq_true, if_false,
        walk_cancelled (hfollows.cancelled.trans hc)]
      split
      · exact ⟨hreleased, rfl, by simp [Leg.returned]⟩
      · exact ⟨hreleased, rfl, by simp [Leg.after]⟩
  | halts =>
      refine ⟨hreleased, rfl, ?_⟩
      simp [proceed, Leg.returned, Run.isTerminal, Status.isTerminal]
  | breaks =>
      refine ⟨hreleased, rfl, ?_⟩
      simp [proceed, Leg.returned, Run.isTerminal, Status.isTerminal, Run.terminalEvents]

theorem take_keeps (hR : Lasting R) (e : Engine) (node : Node) (run : Run) (text : String) :
    R run (Session.take e node run text).run := by
  by_cases ha : node.Asks
  · have htaken := take_answered e ha run text
    generalize Session.take e node run text = taken at htaken ⊢
    cases htaken with
    | walkOn h => exact hR.told h
    | waitMore h => exact hR.told h
    | failed f h => exact hR.trans (hR.told h) (hR.fail _ _)
  · have hinput : node.kind? ≠ some .input := fun h => ha (.inl h)
    have hcondition : node.kind? ≠ some .condition := fun h => ha (.inr h)
    unfold Session.take
    split
    · exact absurd ‹_› hinput
    · exact absurd ‹_› hcondition
    · exact hR.trans (hR.say run _ _ _) (hR.fail _ _)

end Engine
end Dialogue
