import Dialogue.Proofs.Run.Demand

/-!
# What the log tells of effects

A leg of a walk emits no metric, and it leaves no entry for a step that demands an effect: it stops
there (`walk_tells`). The entry comes when the walk is taken up with the outcome, one for each
effect, and says whether the effect succeeded and could be told (`takeUp_tells`). Only a step that
has no words for what it is to ask leaves a failed entry without an effect, and the run is over.
-/
namespace Dialogue

open Run (Told Remarked)

/-- The event tells of an effect that was served. -/
def Event.isMetric : Event → Bool
  | .effectMeasured .. => true
  | _ => false

/-- The gateway had a result, it was a success, and nothing keeps the step from telling it. -/
def Engine.succeeds (e : Engine) (node : Node) : EffectOutcome → Bool
  | .ok result => result.success && (e.obstacle? node (.ok result)).isNone
  | .error _ => false

/-- The entry that an outcome leaves at a step. -/
structure LogEntry.Tells (e : Engine) (node : Node) (outcome : EffectOutcome) (x : LogEntry) :
    Prop where
  id : x.nodeId = node.id
  type : x.nodeType = node.type
  success : x.success = e.succeeds node outcome

theorem LogEntry.callsOut_eq {flow : Flow} (ha : flow.Accepted) {node : Node}
    (hn : node ∈ flow.nodes) {x : LogEntry} (hid : x.nodeId = node.id) :
    x.callsOut flow = node.callsOut := by
  unfold callsOut
  rw [hid, Bool.eq_iff_iff, List.any_eq_true]
  constructor
  · rintro ⟨other, hother, hboth⟩
    obtain ⟨hsame, hcalls⟩ := (Bool.and_eq_true ..).mp hboth
    have heq : other = node :=
      List.inj_on_of_nodup_map ha.nodup_ids hother hn (of_decide_eq_true hsame)
    exact heq ▸ hcalls
  · intro hcalls
    exact ⟨node, hn, by simp [hcalls]⟩

namespace Run

variable {flow : Flow} {node : Node} {n : Nat} {success : Bool} {r s : Run}
  {entries : List LogEntry}

/-- What the log tells of effects. -/
def effects (flow : Flow) (r : Run) : List LogEntry := r.log.filter (·.callsOut flow)

theorem effects_congr (h : s.log = r.log) : s.effects flow = r.effects flow := by
  rw [effects, effects, h]

@[simp] theorem log_suspend (r : Run) : r.suspend.log = r.log := by
  unfold suspend
  split <;> rfl

@[simp] theorem log_complete (r : Run) : r.complete.log = r.log := by
  unfold complete
  split <;> rfl

theorem Told.effects (h : Told node n r s) (ha : flow.Accepted) (hn : node ∈ flow.nodes)
    (hquiet : node.callsOut = false) : s.effects flow = r.effects flow := by
  obtain ⟨es, hes, -, hall⟩ := h.noted
  have hnone : es.filter (·.callsOut flow) = [] := by
    rw [List.filter_eq_nil_iff]
    intro x hx
    rw [LogEntry.callsOut_eq ha hn (hall x hx), hquiet]
    exact Bool.false_ne_true
  rw [Run.effects, hes, List.filter_append, hnone, List.append_nil, Run.effects]

theorem Remarked.effects (h : Remarked node success r s) (ha : flow.Accepted)
    (hn : node ∈ flow.nodes) (hcalls : node.callsOut = true) :
    ∃ x : LogEntry, (x.nodeId = node.id ∧ x.nodeType = node.type ∧ x.success = success) ∧
      s.effects flow = r.effects flow ++ [x] := by
  obtain ⟨x, hx, hid, htype, -, hsuccess⟩ := h.noted
  refine ⟨x, ⟨hid, htype, hsuccess⟩, ?_⟩
  have hkept : [x].filter (·.callsOut flow) = [x] := by
    rw [List.filter_eq_self]
    intro y hy
    rw [List.mem_singleton.mp hy, LogEntry.callsOut_eq ha hn hid, hcalls]
  rw [Run.effects, hx, List.filter_append, hkept, Run.effects]

theorem Told.log_of_zero (h : Told node 0 r s) : s.log = r.log := by
  obtain ⟨es, hes, hlen, -⟩ := h.noted
  rw [hes, List.length_eq_zero_iff.mp hlen, List.append_nil]

/-- The log tells of effects by these entries. Where the run failed for want of a text, one more may
be the last: that of a step that could not put into words what it was to ask. -/
inductive Accounts (flow : Flow) (entries : List LogEntry) (r : Run) : Prop where
  | full (h : r.effects flow = entries)
  | foiled {x : LogEntry} (h : r.effects flow = entries ++ [x]) (hx : x.success = false)
      (hs : r.status = .failed) (hf : ∃ t, r.failure = some (Failure.unsayable t).report)

namespace Accounts

theorem congr (h : r.Accounts flow entries) (hl : s.log = r.log) (hs : s.status = r.status)
    (hf : s.failure = r.failure) : s.Accounts flow entries := by
  cases h with
  | full h => exact .full ((effects_congr hl).trans h)
  | foiled h hx hstatus hfailure =>
      exact .foiled ((effects_congr hl).trans h) hx (hs.trans hstatus) (hf ▸ hfailure)

theorem effects_eq (h : r.Accounts flow entries) (hs : r.status ≠ .failed) :
    r.effects flow = entries := by
  cases h with
  | full h => exact h
  | foiled _ _ hstatus => exact absurd hstatus hs

theorem suspend (h : r.Accounts flow entries) : r.suspend.Accounts flow entries := by
  by_cases hs : r.status = .running
  · have hrunning : r.status ≠ .failed := by simp [hs]
    exact .full ((effects_congr (log_suspend r)).trans (h.effects_eq hrunning))
  · rwa [Run.suspend, if_neg hs]

end Accounts

end Run

/-- A leg that tells of no effect and leaves these entries, and asks only for what a step
demands. -/
structure Leg.Tells (e : Engine) (entries : List LogEntry) (leg : Leg) : Prop where
  silent : ∀ x ∈ leg.events, x.isMetric = false
  accounts : leg.run.Accounts e.flow entries
  demanded : ∀ node request, leg.stop = .awaiting node request →
    node ∈ e.flow.nodes ∧ ∃ r, e.demand? node r = some request

namespace Leg.Tells

variable {e : Engine} {r : Run} {entries : List LogEntry} {leg : Leg}

theorem of_returned (h : r.Accounts e.flow entries) {events : List Event}
    (hsilent : ∀ x ∈ events, x.isMetric = false) : Leg.Tells e entries (.returned r events) :=
  ⟨hsilent, h.congr rfl rfl rfl, by simp [Leg.returned]⟩

theorem after (h : leg.Tells e entries) {events : List Event}
    (hsilent : ∀ x ∈ events, x.isMetric = false) : (leg.after events).Tells e entries := by
  refine ⟨fun x hx => ?_, h.accounts, h.demanded⟩
  rcases List.mem_append.mp hx with hx | hx
  · exact hsilent x hx
  · exact h.silent x hx

end Leg.Tells

namespace Engine

variable {e : Engine} {node : Node} {run r : Run} {entries : List LogEntry} {leg : Leg}

theorem Concluded.silent {events : List Event} {step : Step}
    (h : Concluded e node run r events step) : ∀ x ∈ events, x.isMetric = false := by
  cases h <;> simp [Node.processed, Event.isMetric]

theorem Concluded.next_mem {events : List Event} {step : Step}
    (h : Concluded e node run r events step) : ∀ n ∈ step.next, n ∈ e.flow.nodes := by
  cases h with
  | onward => exact fun n hn => Flow.mem_of_next? hn
  | halts => simp
  | breaks => simp

theorem Settled.silent {events : List Event} {step : Step}
    (h : Settled e node run r events step) : ∀ x ∈ events, x.isMetric = false := by
  cases h with
  | concluded h => exact h.silent
  | waits => simp [Node.processed, Event.isMetric]
  | completes => simp [Node.processed, Event.isMetric]

theorem Settled.effects {events : List Event} {step : Step}
    (h : Settled e node run r events step) (ha : e.flow.Accepted) (hn : node ∈ e.flow.nodes)
    (hquiet : node.callsOut = false) : r.effects e.flow = run.effects e.flow := by
  cases h with
  | concluded h =>
      cases h with
      | onward h => exact h.effects ha hn hquiet
      | halts h => exact h.effects ha hn hquiet
      | breaks f h => exact h.effects ha hn hquiet
  | waits h => exact h.effects ha hn hquiet
  | completes h => exact (Run.effects_congr (Run.log_complete _)).trans (h.effects ha hn hquiet)

theorem visit_asks (hh : e.handlers = []) {request : EffectRequest}
    (h : e.visit node run = .asking r request) :
    ∃ s, e.demand? node s = some request ∧ r.log = run.log := by
  have hunhandled := unhandled hh node
  have hvisited := visit_visited hunhandled run
  rw [h] at hvisited
  cases hvisited with
  | asking htold =>
      unfold visit at h
      cases hattempt : e.attempt node (run.enter node.id) with
      | error raised =>
          rw [hattempt] at h
          cases h
      | ok visit =>
          rw [hattempt] at h
          have hasks : visit = .asking r request := h
          subst hasks
          exact ⟨_, ((attempt_eq_asking_iff hunhandled).mp ⟨r, hattempt⟩).1, htold.log_of_zero⟩

theorem visit_of_wordless? (ha : e.flow.Accepted) (hh : e.handlers = []) (hn : node ∈ e.flow.nodes)
    (hcalls : node.callsOut = true) {raised : Raised}
    (hw : e.wordless? node (run.enter node.id) = some raised) :
    ∃ r, e.visit node run = .done r [] {} ∧ r.Accounts e.flow (run.effects e.flow) := by
  have hunhandled := unhandled hh node
  have hattempt := attempt_of_wordless? hunhandled hw
  have hattempted := attempt_attempted hunhandled (run.enter node.id)
  rw [hattempt] at hattempted
  obtain ⟨-, t, hfailure⟩ := of_wordless? hw
  refine ⟨raised.run.failAt node raised.failure, by rw [visit, hattempt]; rfl, ?_⟩
  cases hattempted with
  | @raised s f h =>
      obtain ⟨s', hs', hfail⟩ := Remarked.failAt s node f
      obtain ⟨x, ⟨-, -, hx⟩, heffects⟩ := hs'.effects ha hn hcalls
      have hlog : s.effects e.flow = run.effects e.flow := Run.effects_congr h.told.log_of_zero
      rw [hlog] at heffects
      cases hfailure
      show Run.Accounts e.flow _ (s.failAt node (.unsayable t))
      rw [hfail]
      exact .foiled heffects hx rfl ⟨t, rfl⟩

/-- A visit that is over was to a step that demands no effect or could not ask for it. -/
theorem visit_tells (ha : e.flow.Accepted) (hh : e.handlers = []) (hn : node ∈ e.flow.nodes)
    {events : List Event} {step : Step} (h : e.visit node run = .done r events step) :
    (∀ x ∈ events, x.isMetric = false) ∧ r.Accounts e.flow (run.effects e.flow) := by
  have hunhandled := unhandled hh node
  cases hcalls : node.callsOut with
  | false =>
      have hvisited := visit_visited hunhandled run
      rw [h] at hvisited
      cases hvisited with
      | settled hsettled => exact ⟨hsettled.silent, .full (hsettled.effects ha hn hcalls)⟩
  | true =>
      cases hw : e.wordless? node (run.enter node.id) with
      | none =>
          obtain ⟨s, request, hattempt⟩ :=
            (callsOut_iff hunhandled (run.enter node.id)).mpr ⟨hcalls, hw⟩
          rw [visit, hattempt] at h
          cases h
      | some raised =>
          obtain ⟨s, hdone, haccounts⟩ := visit_of_wordless? ha hh hn hcalls hw
          rw [h] at hdone
          cases hdone
          exact ⟨by simp, haccounts⟩

theorem terminalEvents_silent (run : Run) : ∀ x ∈ run.terminalEvents, x.isMetric = false := by
  unfold Run.terminalEvents
  split <;> simp [Event.isMetric]

theorem endOfFlow_tells (h : run.effects e.flow = entries) : (endOfFlow run).Tells e entries := by
  unfold endOfFlow
  split
  · refine .of_returned (.full ?_) (terminalEvents_silent _)
    exact (Run.effects_congr (Run.log_complete _)).trans h
  · exact .of_returned (.full h) (by simp)

theorem proceed_tells {walk : Option Node → Run → Leg} {events : List Event} {step : Step}
    (hw : ∀ r : Run, r.effects e.flow = entries → (walk step.next r).Tells e entries)
    (h : r.Accounts e.flow entries) (hsilent : ∀ x ∈ events, x.isMetric = false) (node : Node) :
    (proceed walk node r events step).Tells e entries := by
  unfold proceed
  split
  · refine .of_returned h.suspend fun x hx => ?_
    rcases List.mem_append.mp hx with hx | hx
    · exact hsilent x hx
    · rw [List.mem_singleton.mp hx]
      rfl
  · split
    · refine .of_returned h fun x hx => ?_
      rcases List.mem_append.mp hx with hx | hx
      · exact hsilent x hx
      · exact terminalEvents_silent r x hx
    · rename_i hterminal
      have hrunning : r.status ≠ .failed := fun hs =>
        hterminal (by simp [Run.isTerminal, hs, Status.isTerminal])
      exact (hw r (h.effects_eq hrunning)).after hsilent

theorem walk_tells (ha : e.flow.Accepted) (hh : e.handlers = []) (steps : Nat)
    {next : Option Node} (hn : ∀ n ∈ next, n ∈ e.flow.nodes) (h : run.effects e.flow = entries) :
    (e.walk steps next run).Tells e entries := by
  -- on the bound; a step that demands an effect stops the leg before its entry
  induction steps generalizing next run with
  | zero =>
      cases next with
      | none => exact endOfFlow_tells h
      | some node => exact ⟨by simp [walk], .full h, by simp [walk]⟩
  | succ steps ih =>
      cases next with
      | none => exact endOfFlow_tells h
      | some node =>
          simp only [walk]
          split
          · exact .of_returned (.full h) (by simp)
          · have hmem := hn node rfl
            cases hvisit : e.visit node run with
            | asking r request =>
                obtain ⟨s, hdemand, hlog⟩ := visit_asks hh hvisit
                refine ⟨by simp, .full ((Run.effects_congr hlog).trans h), ?_⟩
                rintro _ _ ⟨⟩
                exact ⟨hmem, s, hdemand⟩
            | done r events step =>
                obtain ⟨hsilent, haccounts⟩ := visit_tells ha hh hmem hvisit
                have hnext := mem_of_visit hh node run r events step hvisit
                exact proceed_tells (fun _ => ih hnext) (h ▸ haccounts) hsilent node

theorem continueFrom_tells (ha : e.flow.Accepted) (hh : e.handlers = []) {next : Option Node}
    (hn : ∀ n ∈ next, n ∈ e.flow.nodes) (h : run.effects e.flow = entries) :
    (e.continueFrom next run).Tells e entries := by
  unfold continueFrom
  split
  · exact ⟨by simp, .full h, by simp⟩
  · exact walk_tells ha hh e.bound hn h

theorem conclude_tells (ha : e.flow.Accepted) (hn : node ∈ e.flow.nodes)
    (hcalls : node.callsOut = true) (request : EffectRequest) (outcome : EffectOutcome)
    (run : Run) : ∃ x : LogEntry, x.Tells e node outcome ∧
      (e.conclude node request outcome run).1.effects e.flow = run.effects e.flow ++ [x] := by
  have htells {success : Bool} {r : Run} (h : Remarked node success run r)
      (hs : success = e.succeeds node outcome) : ∃ x : LogEntry, x.Tells e node outcome ∧
        r.effects e.flow = run.effects e.flow ++ [x] := by
    obtain ⟨x, ⟨hid, htype, hx⟩, heffects⟩ := h.effects ha hn hcalls
    exact ⟨x, ⟨hid, htype, hx.trans hs⟩, heffects⟩
  have hserved := conclude_served e (Node.seeksEffect_of_callsOut hcalls) request outcome run
  generalize e.conclude node request outcome run = left at hserved ⊢
  cases hserved with
  | onward h ho => exact htells h (by simp [succeeds, ho])
  | halts h hf =>
      have hentry := htells h (by simp [succeeds, hf])
      exact hentry
  | @breaks outcome f ho =>
      obtain ⟨s, hs, hfail⟩ := Remarked.failAt run node f
      have hfailed : false = e.succeeds node outcome := by
        cases outcome with
        | error f => rfl
        | ok result => simp [succeeds, ho]
      have hentry := htells hs hfailed
      rw [hfail]
      exact hentry

theorem takeUp_tells (ha : e.flow.Accepted) (hh : e.handlers = []) (hn : node ∈ e.flow.nodes)
    (hcalls : node.callsOut = true) (request : EffectRequest) (outcome : EffectOutcome)
    (run : Run) : ∃ x : LogEntry, x.Tells e node outcome ∧
      (e.takeUp node request outcome run).Tells e (run.effects e.flow ++ [x]) := by
  obtain ⟨x, hx, heffects⟩ := conclude_tells ha hn hcalls request outcome run
  have hconcluded :=
    conclude_concluded e (Node.seeksEffect_of_callsOut hcalls) request outcome run
  exact ⟨x, hx, proceed_tells (fun _ => walk_tells ha hh e.bound hconcluded.next_mem)
    (.full heffects) hconcluded.silent node⟩

end Engine
end Dialogue
