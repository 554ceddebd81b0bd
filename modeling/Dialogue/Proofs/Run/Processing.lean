import Dialogue.Proofs.Run.Conclusion
import Dialogue.Proofs.Yields
import Dialogue.Run.Resumption
import Dialogue.Session

/-!
# What the processing of a step comes to

A step that no handler of the host is for is attempted in one of five ways, whatever its
configuration (`Attempted`), and leaves the run in one of five ways when it is done with, whatever
an effect answered (`Concluded`, `Settled`). An answer to a suspended step takes the run on to a
step of the flow, leaves it waiting, or fails it (`Answered`).
-/
namespace Dialogue

open Run (Told)

/-- The binding that a value makes under a name, without the blanks around it; a blank name makes
none. -/
def Variables.binding? (name : String) (value : Json) : Option (String × Json) :=
  if Text.trim name = "" then none else some (Text.trim name, value)

theorem Variables.set?_eq (name : String) (value : Json) (vars : Variables) :
    vars.set? name value = (binding? name value).map fun b => Bindings.put b.1 b.2 vars := by
  unfold set? binding?
  by_cases h : Text.trim name = "" <;> simp [h]

theorem Run.vars_of_setVariable? {run r : Run} {name : String} {value : Json}
    (h : run.setVariable? name value = .ok r) :
    r.vars = Bindings.merge run.vars (Variables.binding? name value).toList := by
  unfold setVariable? at h
  rw [Variables.set?_eq] at h
  cases hb : Variables.binding? name value with
  | none =>
      rw [hb] at h
      cases h
  | some b =>
      rw [hb] at h
      cases h
      rfl

theorem Run.binding?_of_setVariable? {run : Run} {name : String} {value : Json} {f : Failure}
    (h : run.setVariable? name value = .error f) : Variables.binding? name value = none := by
  unfold setVariable? at h
  rw [Variables.set?_eq] at h
  cases hb : Variables.binding? name value with
  | none => rfl
  | some b =>
      rw [hb] at h
      cases h

namespace Node

/-- A step that waits for an answer. -/
def Asks (node : Node) : Prop := node.kind? = some .input ∨ node.kind? = some .condition

theorem Asks.type {node : Node} (h : node.Asks) :
    node.type = NodeKind.input.name ∨ node.type = NodeKind.condition.name :=
  h.imp (fun h => (NodeKind.name_of_ofName? h).symm) fun h => (NodeKind.name_of_ofName? h).symm

/-- A step that a walk does not go beyond of itself: it waits for an answer or ends the run. -/
def Stops (node : Node) : Prop := node.Asks ∨ node.kind? = some .finish

/-- What an action is to assign, if there is a name to assign to. -/
def assignment? (node : Node) : Option (String × Json) :=
  match node.kind?, node.config with
  | some .action, .action c =>
    if c.actionType = Engine.assignment then
      Variables.binding? (Engine.assignedName c) c.variableValue.toJson
    else none
  | _, _ => none

/-- The variables once an action has assigned what it is to assign. -/
def assigned (node : Node) (vars : Variables) : Variables :=
  Bindings.merge vars node.assignment?.toList

theorem not_stops {node : Node} {kind : NodeKind} (hk : node.kind? = some kind)
    (hi : kind ≠ .input) (hc : kind ≠ .condition) (hf : kind ≠ .finish) : ¬ node.Stops := by
  simp [Stops, Asks, hk, hi, hc, hf]

theorem assigned_of_none {node : Node} (h : node.assignment? = none) (vars : Variables) :
    node.assigned vars = vars := by
  rw [assigned, h]
  rfl

theorem assignment?_of_ne {node : Node} (hk : node.kind? ≠ some .action) :
    node.assignment? = none := by
  unfold assignment?
  split
  · exact absurd ‹_› hk
  · rfl

theorem assigned_of_ne {node : Node} (hk : node.kind? ≠ some .action) (vars : Variables) :
    node.assigned vars = vars := assigned_of_none (assignment?_of_ne hk) vars

end Node

namespace Engine

/-- What a step whose effect was served leaves: the run, the events and the way on. -/
inductive Concluded (e : Engine) (node : Node) (run : Run) : Run → List Event → Step → Prop where
  | onward {r : Run} (h : Told node 1 run r) :
      Concluded e node run r [node.processed (e.onward node)] (e.onward node)
  /-- A failed effect under the halting policy. -/
  | halts {r : Run} {reason : String} (h : Told node 1 run r) (hr : reason ≠ "") :
      Concluded e node run (r.fail reason) [node.processed {}] {}
  /-- The step could not be carried out. -/
  | breaks {r : Run} (f : Failure) (h : Told node 1 run r) :
      Concluded e node run (r.fail f.report) [] {}

/-- What any step that is done with leaves. -/
inductive Settled (e : Engine) (node : Node) (run : Run) : Run → List Event → Step → Prop where
  | concluded {r : Run} {events : List Event} {step : Step}
      (h : Concluded e node run r events step) : Settled e node run r events step
  | waits {r : Run} (h : Told node 1 run r) (ha : node.Asks) :
      Settled e node run r [node.processed ⟨none, true⟩] ⟨none, true⟩
  | completes {r : Run} (h : Told node 1 run r) :
      Settled e node run r.complete [node.processed {}] {}

inductive Visited (e : Engine) (node : Node) (run : Run) : Visit → Prop where
  | settled {r : Run} {events : List Event} {step : Step}
      (h : Settled e node run r events step) : Visited e node run (.done r events step)
  | asking {r : Run} {request : EffectRequest} (h : Told node 0 run r) (hs : node.SeeksEffect) :
      Visited e node run (.asking r request)

/-- How far a step got that cannot be carried out. It has said nothing yet, unless it is a value
without a text that stops it. -/
inductive Foiled (node : Node) (run : Run) : Run → Failure → Prop where
  | silent (f : Failure) : Foiled node run run f
  | said {speaker : Speaker} (hs : speaker ≠ .user) (text : String) (t : TextFault) :
      Foiled node run (run.say speaker text node.id) (.unsayable t)

/-- What the attempt at a step that no handler is for comes to. -/
inductive Attempted (e : Engine) (node : Node) (run : Run) : Except Raised Visit → Prop where
  | onward {r : Run} (h : Told node 1 run r) (hv : r.vars = node.assigned run.vars)
      (hn : ¬ node.Stops) : Attempted e node run (.ok (.finished r node (e.onward node)))
  | waits {r : Run} (h : Told node 1 run r) (hv : r.vars = run.vars) (ha : node.Asks) :
      Attempted e node run (.ok (.finished r node { wait := true }))
  | completes {r : Run} (h : Told node 1 run r) (hv : r.vars = run.vars)
      (hk : node.kind? = some .finish) : Attempted e node run (.ok (.finished r.complete node {}))
  | asking {r : Run} {request : EffectRequest} (h : Told node 0 run r)
      (hv : r.vars = node.assigned run.vars) (hs : node.SeeksEffect) (hn : ¬ node.Stops) :
      Attempted e node run (.ok (.asking r request))
  | raised {r : Run} {f : Failure} (h : Foiled node run r f)
      (hv : node.assigned run.vars = run.vars) : Attempted e node run (.error ⟨r, f⟩)

variable {e : Engine} {node : Node} {run r : Run}

theorem unhandled (hh : e.handlers = []) (node : Node) :
    Bindings.get? node.type e.handlers = none := by
  rw [hh]
  rfl

theorem Foiled.told {f : Failure} (h : Foiled node run r f) : Told node 0 run r := by
  cases h with
  | silent => exact .refl node run
  | said hs text => exact (Told.refl node run).say hs _ _

theorem Foiled.vars {f : Failure} (h : Foiled node run r f) : r.vars = run.vars := by
  cases h <;> rfl

theorem eq_or_said_of_prompt {prompt : Json} (h : e.prompt node run prompt = .ok r) :
    r = run ∨ ∃ text, r = run.say .bot text node.id := by
  unfold Engine.prompt at h
  split at h
  · obtain ⟨text, -, hsaid⟩ := exists_of_bind h
    obtain ⟨content, -, rfl⟩ := map_eq_ok_iff.mp hsaid
    exact .inr ⟨content, rfl⟩
  · exact .inl (Except.ok.inj h).symm

theorem prompt_told {prompt : Json} (h : e.prompt node run prompt = .ok r) :
    Told node 0 run r ∧ r.vars = run.vars := by
  obtain rfl | ⟨text, rfl⟩ := eq_or_said_of_prompt h
  · exact ⟨.refl node r, rfl⟩
  · exact ⟨(Told.refl node run).say (by decide) _ _, rfl⟩

private theorem visitMessage_attempted (e : Engine) {node : Node}
    (hk : node.kind? = some .message) (config : MessageConfig) (run : Run) :
    Attempted e node run (e.visitMessage node config run) := by
  have hnot : ¬ node.Stops := Node.not_stops hk (by decide) (by decide) (by decide)
  have hunbound := Node.assigned_of_ne (by simp [hk] : node.kind? ≠ some .action) run.vars
  unfold visitMessage
  split
  · exact .raised (.silent _) hunbound
  · rename_i text _
    have hsaid := ((Told.refl node run).say (by decide : Speaker.bot ≠ .user) text node.id).note
      "Mensagem enviada" true .null (.object [("text", .str text)])
    refine .onward ?_ ?_ hnot
    · split
      · exact hsaid.say (by decide) _ _
      · exact hsaid
    · rw [hunbound]
      split <;> rfl

private theorem visitInput_attempted (e : Engine) {node : Node} (hk : node.kind? = some .input)
    (fields : InputFields) (run : Run) :
    Attempted e node run (e.visitInput node fields run) := by
  have hunbound := Node.assigned_of_ne (by simp [hk] : node.kind? ≠ some .action) run.vars
  unfold visitInput
  split
  · exact .raised (.silent _) hunbound
  · rename_i hprompt
    obtain ⟨htold, hvars⟩ := prompt_told hprompt
    split
    · rename_i f hname
      obtain ⟨t, rfl⟩ := Json.failure_of_said hname
      obtain rfl | ⟨text, rfl⟩ := eq_or_said_of_prompt hprompt
      · exact .raised (.silent _) hunbound
      · exact .raised (.said (by decide) text t) hunbound
    · exact .waits ((htold.say (by decide) _ _).note _ _ _ _) hvars (.inl hk)

/-- A step that seeks an effect asks for it, or its payload cannot be made. -/
theorem ask_attempted (hv : node.assigned run.vars = run.vars) (hs : node.SeeksEffect)
    (hn : ¬ node.Stops) (text : String) (fault : Option TextFault) (request : EffectRequest) :
    Attempted e node run (ask fault (run.say .system text node.id) request) := by
  cases fault with
  | some t => exact .raised (.said (by decide) text t) hv
  | none => exact .asking ((Told.refl node run).say (by decide) _ _) hv.symm hs hn

private theorem visitAction_attempted (e : Engine) {node : Node} (hk : node.kind? = some .action)
    {config : ActionConfig} (hc : node.config = .action config) (run : Run) :
    Attempted e node run (e.visitAction node config run) := by
  have hnot : ¬ node.Stops := Node.not_stops hk (by decide) (by decide) (by decide)
  have hassignment : node.assignment? = if config.actionType = assignment then
      Variables.binding? (assignedName config) config.variableValue.toJson else none := by
    simp only [Node.assignment?, hk, hc]
  unfold visitAction
  split
  · rename_i hupdates
    have hnone : node.assignment? = none := by
      rw [hassignment, hupdates]
      exact if_neg (by decide)
    exact ask_attempted (Node.assigned_of_none hnone run.vars) (.inl ⟨config, hc⟩) hnot _ _ _
  · split
    · rename_i hassigns
      rw [if_pos hassigns] at hassignment
      simp only [visitAssignment]
      split
      · rename_i hfails
        have hnone := Run.binding?_of_setVariable? hfails
        exact .raised (.silent _) (Node.assigned_of_none (hassignment.trans hnone) run.vars)
      · rename_i hbound
        have hset := Run.vars_of_setVariable? hbound
        rw [← hassignment] at hset
        exact .onward (((Told.refl node run).bind hbound).note _ _ _ _) hset hnot
    · rename_i hother
      rw [if_neg hother] at hassignment
      exact .onward ((Told.refl node run).note _ _ _ _)
        (Node.assigned_of_none hassignment run.vars).symm hnot

private theorem visitEnd_attempted (e : Engine) {node : Node} (hk : node.kind? = some .finish)
    (config : EndConfig) (run : Run) : Attempted e node run (e.visitEnd node config run) := by
  unfold visitEnd
  split
  · exact .raised (.silent _) (Node.assigned_of_ne (by simp [hk]) _)
  · obtain ⟨htold, hvars⟩ := prompt_told ‹_›
    exact .completes ((htold.say (by decide) _ _).note _ _ _ _) hvars hk

private theorem visitBuiltin_attempted (e : Engine) {node : Node} {kind : NodeKind}
    (hk : node.kind? = some kind) (run : Run) :
    Attempted e node run (e.visitBuiltin node kind run) := by
  have honward {r : Run} (h : Told node 1 run r) (hv : r.vars = run.vars)
      (hi : kind ≠ .input) (hc : kind ≠ .condition) (hf : kind ≠ .finish) (ha : kind ≠ .action) :
      Attempted e node run (.ok (.finished r node (e.onward node))) := by
    refine .onward h (hv.trans (Node.assigned_of_ne ?_ _).symm) (Node.not_stops hk hi hc hf)
    rw [hk]
    exact fun heq => ha (Option.some.inj heq)
  unfold visitBuiltin
  split
  · exact honward (((Told.refl node run).note _ _ _ _).say (by decide) _ _) rfl (by decide)
      (by decide) (by decide) (by decide)
  · exact visitMessage_attempted e hk _ run
  · exact visitInput_attempted e hk _ run
  · exact visitInput_attempted e hk _ run
  · exact .waits (((Told.refl node run).note _ _ _ _).say (by decide) _ _) rfl (.inr hk)
  · exact visitAction_attempted e hk ‹_› run
  · exact honward (((Told.refl node run).say (by decide) _ _).note _ _ _ _) rfl (by decide)
      (by decide) (by decide) (by decide)
  · exact ask_attempted (Node.assigned_of_ne (by simp [hk]) _) (.inr ⟨_, ‹_›⟩)
      (Node.not_stops hk (by decide) (by decide) (by decide)) _ _ _
  · exact honward (((Told.refl node run).say (by decide) _ _).note _ _ _ _) rfl (by decide)
      (by decide) (by decide) (by decide)
  · exact visitEnd_attempted e hk _ run
  · rename_i hother _ _ _ _
    refine .raised (.silent _) (Node.assigned_of_none ?_ _)
    unfold Node.assignment?
    split
    · rename_i c hkind hconfig
      exact absurd hconfig (hother c (Option.some.inj (hk.symm.trans hkind)))
    · rfl

theorem attempt_attempted (hh : Bindings.get? node.type e.handlers = none) (run : Run) :
    Attempted e node run (e.attempt node run) := by
  unfold attempt
  simp only [hh]
  split
  · exact visitBuiltin_attempted e ‹_› run
  · rename_i hnone
    have hnot : ¬ node.Stops := by simp [Node.Stops, Node.Asks, hnone]
    exact .onward ((Told.refl node run).note _ _ _ _)
      (Node.assigned_of_ne (by simp [hnone]) _).symm hnot

theorem Attempted.visited {attempt : Except Raised Visit} (h : Attempted e node run attempt) :
    Visited e node run (.caught node attempt) := by
  cases h with
  | onward h => exact .settled (.concluded (.onward h))
  | waits h hv ha => exact .settled (.waits h ha)
  | completes h => exact .settled (.completes h)
  | asking h hv hs => exact .asking h hs
  | @raised r f h =>
      obtain ⟨s, hs, hfailed⟩ := h.told.failAt f
      show Visited e node run (.done (r.failAt node f) [] {})
      rw [hfailed]
      exact .settled (.concluded (.breaks f hs))

theorem visit_visited (hh : Bindings.get? node.type e.handlers = none) (run : Run) :
    Visited e node (run.enter node.id) (e.visit node run) :=
  (attempt_attempted hh (run.enter node.id)).visited

theorem Served.concluded {outcome : EffectOutcome} {left : Run × List Event × Step}
    (h : Served e node run outcome left) : Concluded e node run left.1 left.2.1 left.2.2 := by
  cases h with
  | onward h => exact .onward h.told
  | halts h hf hr => exact .halts h.told (haltsOn_ne_empty hr)
  | @breaks outcome f =>
      obtain ⟨r, hr, hfailed⟩ := Run.Remarked.failAt run node f
      rw [hfailed]
      exact .breaks f hr.told

theorem conclude_concluded (e : Engine) {node : Node} (hs : node.SeeksEffect)
    (request : EffectRequest) (outcome : EffectOutcome) (run : Run) :
    Concluded e node run (e.conclude node request outcome run).1
      (e.conclude node request outcome run).2.1 (e.conclude node request outcome run).2.2 :=
  (conclude_served e hs request outcome run).concluded

/-- What an answer to a suspended step does to the run. -/
inductive Answered (e : Engine) (node : Node) (run : Run) : Session.Taken → Prop where
  | walkOn {r : Run} {next : Option Node} (h : Told node 1 run r)
      (hn : ∀ n ∈ next, e.flow.Leads node n) : Answered e node run (.walkOn r next)
  | waitMore {r : Run} (h : Told node 1 run r) : Answered e node run (.waitMore r)
  | failed {r : Run} (f : Failure) (h : Told node 1 run r) :
      Answered e node run (.failed (r.fail f.report) [.runFailed (r.fail f.report).failure])

private theorem Answered.failedAt (f : Failure) : Answered e node run
    (.failed (run.failAt node f) [.runFailed (run.failAt node f).failure]) :=
  .failed f (((Told.refl node run).note _ _ _ _).say (by decide) _ _)

private theorem leaveBy_answered (h : Told node 1 run r) {next : Option Node}
    (hn : ∀ n ∈ next, e.flow.Leads node n) :
    Answered e node run (if (leaveBy node r next).2.wait then .waitMore (leaveBy node r next).1
      else .walkOn (leaveBy node r next).1 (leaveBy node r next).2.next) := by
  cases next with
  | none => exact .waitMore (h.say (by decide) _ _)
  | some n => exact .walkOn h hn

private theorem firstWayOut_answered (e : Engine) (node : Node) (run : Run) (text : String) :
    Answered e node run (if (e.firstWayOut node run text).2.wait then
      .waitMore (e.firstWayOut node run text).1
      else .walkOn (e.firstWayOut node run text).1 (e.firstWayOut node run text).2.next) :=
  leaveBy_answered (((Told.refl node run).say (by decide) _ _).note _ _ _ _)
    fun _ hn => Flow.leads_of_next? hn

private theorem branchTaken_answered (e : Engine) (node : Node) (run : Run) (text : String)
    (index : Nat) (branch : Branch) :
    Answered e node run (if (e.branchTaken node run text index branch).2.wait then
      .waitMore (e.branchTaken node run text index branch).1
      else .walkOn (e.branchTaken node run text index branch).1
        (e.branchTaken node run text index branch).2.next) := by
  apply leaveBy_answered (((Told.refl node run).say (by decide) _ _).note _ _ _ _)
  intro n hn
  split at hn
  · exact Flow.leads_of_branchEdge? ‹_› hn
  · exact Flow.leads_of_firstTarget? hn

private theorem bindInput_told {text : String} {next : Option Node}
    (h : e.bindInput node run text = .ok (r, next)) :
    Told node 1 run r ∧ next = e.flow.next? node := by
  unfold bindInput at h
  split at h
  · obtain ⟨name, -, hbind⟩ := exists_of_bind h
    obtain ⟨s, hbound, hdone⟩ := exists_of_bind hbind
    cases hdone
    exact ⟨((Told.refl node run).bind hbound).note _ _ _ _, rfl⟩
  · cases h

private theorem routeCondition_answered {text : String} {step : Step}
    (h : e.routeCondition node run text = .ok (r, step)) :
    Answered e node run (if step.wait then .waitMore r else .walkOn r step.next) := by
  unfold routeCondition at h
  split at h
  · split at h
    · split at h
      · have := branchTaken_answered e node run text ‹_› ‹_›
        simpa [Except.ok.inj h] using this
      · have := firstWayOut_answered e node run text
        simpa [Except.ok.inj h] using this
    · split at h
      · have := Except.ok.inj h
        obtain ⟨rfl, rfl⟩ := Prod.mk.inj this
        exact .waitMore (((Told.refl node run).say (by decide) _ _).note _ _ _ _)
      · have := firstWayOut_answered e node run text
        simpa [Except.ok.inj h] using this
  · cases h

theorem take_answered (e : Engine) {node : Node} (ha : node.Asks) (run : Run) (text : String) :
    Answered e node run (Session.take e node run text) := by
  rcases ha with hk | hk
  · simp only [Session.take, hk]
    split
    · obtain ⟨h, rfl⟩ := bindInput_told ‹_›
      exact .walkOn h fun _ hn => Flow.leads_of_next? hn
    · exact .failedAt _
  · simp only [Session.take, hk]
    split
    · exact routeCondition_answered ‹_›
    · exact .failedAt _

end Engine
end Dialogue
