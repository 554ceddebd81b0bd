import Dialogue.Proofs.Run.Identity

/-!
# What the events of a leg tell

Under handlers of the host that only add to the transcript and to the log, a leg of a walk tells the
status that it leaves the run in, or the run is still running (`walk_reports`).
-/
namespace Dialogue

open Run (Told)

/-- The status that an event tells of. -/
def Event.status? : Event → Option Status
  | .runStarted .. => some .running
  | .runResumed .. => some .running
  | .runSuspended .. => some .waiting
  | .runCompleted .. => some .completed
  | .runFailed .. => some .failed
  | .nodeProcessed .. => none
  | .effectMeasured .. => none

namespace Run

/-- A run with more in its transcript and its log. -/
def extended (r : Run) (ms : List Message) (es : List LogEntry) : Run :=
  { r with messages := r.messages ++ ms, log := r.log ++ es }

theorem statuses_terminalEvents {r : Run} (h : r.isTerminal = true) :
    r.terminalEvents.filterMap Event.status? = [r.status] := by
  unfold isTerminal at h
  unfold terminalEvents
  cases hs : r.status with
  | completed => rfl
  | failed => rfl
  | idle => simp [hs, Status.isTerminal] at h
  | running => simp [hs, Status.isTerminal] at h
  | waiting => simp [hs, Status.isTerminal] at h

theorem status_ne_of_terminal {r : Run} (h : r.isTerminal = true) : r.status ≠ .running := by
  intro hs
  simp [isTerminal, hs, Status.isTerminal] at h

end Run

namespace Leg

/-- The statuses that the events of a leg tell of. -/
def statuses (leg : Leg) : List Status := leg.events.filterMap Event.status?

/-- The events of a leg tell the status that the run came to, if it is no longer running. -/
structure Reports (leg : Leg) : Prop where
  statuses : leg.statuses = if leg.run.status = .running then [] else [leg.run.status]
  awaiting : ∀ node request, leg.stop = .awaiting node request → leg.run.status = .running
  returned : leg.stop = .returned → leg.run.cancelled = false → leg.run.status ≠ .running

variable {run : Run} {events : List Event} {leg : Leg}

theorem Reports.of_returned (hs : run.status ≠ .running)
    (he : events.filterMap Event.status? = [run.status]) : Reports (.returned run events) where
  statuses := by
    show events.filterMap Event.status? = if run.status = .running then [] else [run.status]
    rw [if_neg hs, he]
  awaiting := by simp [Leg.returned]
  returned _ _ := hs

theorem Reports.after (h : leg.Reports) (he : events.filterMap Event.status? = []) :
    (leg.after events).Reports where
  statuses := by
    show (events ++ leg.events).filterMap Event.status? = _
    rw [List.filterMap_append, he, List.nil_append]
    exact h.statuses
  awaiting := h.awaiting
  returned := h.returned

end Leg

namespace Engine

variable {e : Engine} {node : Node} {run r : Run} {events : List Event} {step : Step}

/-- Handlers that only add to the transcript and to the log. -/
def Additive (e : Engine) : Prop :=
  ∀ type handler, Bindings.get? type e.handlers = some handler → ∀ node run,
    ∃ ms es, (handler e.flow node run).1 = run.extended ms es

theorem additive_of_nil (hh : e.handlers = []) : e.Additive := by
  simp [Additive, hh, Bindings.get?]

theorem Additive.loyal (ha : e.Additive) : e.Loyal := by
  intro type handler hh node run
  obtain ⟨ms, es, hadds⟩ := ha type handler hh node run
  rw [hadds]
  exact ⟨rfl, rfl, fun hr => hr⟩

/-- How a step that is done with leaves a run that was running: running, or ended. -/
structure Passed (r : Run) (events : List Event) (step : Step) : Prop where
  silent : events.filterMap Event.status? = []
  status : r.status = .running ∨ r.isTerminal = true ∧ step.wait = false

theorem Concluded.passed (h : Concluded e node run r events step) (hr : run.status = .running) :
    Passed r events step := by
  cases h with
  | onward h => exact ⟨rfl, .inl (h.status.trans hr)⟩
  | halts h => exact ⟨rfl, .inr ⟨rfl, rfl⟩⟩
  | breaks f h => exact ⟨rfl, .inr ⟨rfl, rfl⟩⟩

theorem visit_passed (ha : e.Additive) (node : Node) (hr : run.status = .running) :
    match e.visit node run with
    | .done r events step => Passed r events step
    | .asking r _ => r.status = .running := by
  have hentered : (run.enter node.id).status = .running := hr
  cases hh : Bindings.get? node.type e.handlers with
  | none =>
      have hvisit := visit_visited hh run
      generalize e.visit node run = visit at hvisit ⊢
      cases hvisit with
      | asking h => exact h.status.trans hentered
      | settled h =>
          cases h with
          | concluded h => exact h.passed hentered
          | waits h => exact ⟨rfl, .inl (h.status.trans hentered)⟩
          | completes h => exact ⟨rfl, .inr ⟨Run.isTerminal_complete _, rfl⟩⟩
  | some handler =>
      obtain ⟨ms, es, hadds⟩ := ha _ _ hh node (run.enter node.id)
      simp only [visit, attempt, hh, visitHandled]
      generalize handler e.flow node (run.enter node.id) = handled at hadds ⊢
      obtain ⟨r, reply⟩ := handled
      have hextended : r.status = .running := by
        rw [show r = _ from hadds]
        exact hentered
      cases reply with
      | nothing => exact ⟨rfl, .inl hextended⟩
      | step s => exact ⟨rfl, .inl hextended⟩
      | value kind => exact ⟨rfl, .inr ⟨rfl, rfl⟩⟩
      | raised f => exact ⟨rfl, .inr ⟨rfl, rfl⟩⟩

theorem endOfFlow_reports (hr : run.status = .running) : (endOfFlow run).Reports := by
  unfold endOfFlow
  split
  · have hterminal :=
      Run.isTerminal_complete (run.say .system "Fluxo concluído (sem mais nós)" none)
    exact .of_returned (Run.status_ne_of_terminal hterminal) (Run.statuses_terminalEvents hterminal)
  · rename_i hcancelled
    refine ⟨by simp [Leg.statuses, Leg.returned, Run.released, hr], by simp [Leg.returned], ?_⟩
    intro _ hlive
    exact absurd ⟨hr, hlive⟩ hcancelled

/-- What follows a step, if the walk from the next step reports. -/
theorem proceed_reports {walk : Option Node → Run → Leg}
    (hw : ∀ next r, r.status = .running → (walk next r).Reports) (h : Passed r events step) :
    (proceed walk node r events step).Reports := by
  unfold proceed
  split
  · rename_i hwait
    have hrunning : r.status = .running := by
      rcases h.status with hs | ⟨-, hnot⟩
      · exact hs
      · rw [hnot] at hwait
        cases hwait
    have hsuspend : r.suspend.status = .waiting := by
      rw [Run.suspend, if_pos hrunning]
    refine .of_returned (by simp [hsuspend]) ?_
    rw [List.filterMap_append, h.silent, hsuspend]
    rfl
  · split
    · rename_i hterminal
      refine .of_returned (Run.status_ne_of_terminal hterminal) ?_
      rw [List.filterMap_append, h.silent, Run.statuses_terminalEvents hterminal]
      rfl
    · rename_i hopen
      rcases h.status with hs | ⟨hterminal, -⟩
      · exact (hw step.next r hs).after h.silent
      · exact absurd hterminal hopen

theorem walk_reports (ha : e.Additive) (steps : Nat) (next : Option Node) (run : Run)
    (hr : run.status = .running) : (e.walk steps next run).Reports := by
  induction steps generalizing next run with
  | zero =>
      cases next with
      | none => exact endOfFlow_reports hr
      | some node => exact ⟨by simp [walk, Leg.statuses, hr], by simp [walk], by simp [walk]⟩
  | succ steps ih =>
      cases next with
      | none => exact endOfFlow_reports hr
      | some node =>
          have hvisit := visit_passed ha node hr
          simp only [walk]
          split
          · rename_i hcancelled
            refine ⟨by simp [Leg.statuses, Leg.returned, Run.released, hr],
              by simp [Leg.returned], ?_⟩
            intro _ hlive
            have hlive' : run.cancelled = false := hlive
            simp [hcancelled] at hlive'
          · generalize e.visit node run = visit at hvisit ⊢
            cases visit with
            | done r events step => exact proceed_reports ih hvisit
            | asking r request =>
                have hrunning : r.status = .running := hvisit
                exact ⟨by simp [Leg.statuses, hrunning], fun _ _ _ => hrunning, by simp⟩

theorem continueFrom_reports (ha : e.Additive) (next : Option Node) (hr : run.status = .running)
    (hp : run.processing = false) : (e.continueFrom next run).Reports := by
  simp only [continueFrom, hp, Bool.false_eq_true, if_false]
  exact walk_reports ha e.bound next _ hr

theorem takeUp_reports (ha : e.Additive) (hs : node.SeeksEffect) (hr : run.status = .running)
    (request : EffectRequest) (outcome : EffectOutcome) :
    (e.takeUp node request outcome run).Reports :=
  proceed_reports (walk_reports ha e.bound)
    ((conclude_concluded e hs request outcome run).passed hr)

end Engine
end Dialogue
