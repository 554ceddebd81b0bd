import Dialogue.Proofs.Flow.Checked
import Dialogue.Proofs.Run.Replay
import Dialogue.Proofs.Session.Invariant
import Dialogue.Proofs.Session.Request

/-!
# Runs of checked flows

Where the flow was checked, failed effects are passed over and the gateway answers every request, a
run fails at no step but an action that is to assign to a blank name or a step that has no words for
what it is to say. Where the flow and what the effects come to have texts, it is the former
(`play_faultless`).
-/
namespace Dialogue

open Run (Told)

namespace Run

/-- The values of a run have texts, if those do that it is given. If it has failed, it has at an
action that has no name to assign to or, unless they do, for want of a text. -/
structure Faultless (flow : Flow) (worded : Prop) (r : Run) : Prop where
  vars : worded → r.vars.Worded
  fails : r.status = .failed → ∃ node ∈ flow.nodes, ∃ f : Failure,
    (node.Nameless ∧ f = .blankVariable ∨ ¬ worded ∧ ∃ t, f = .unsayable t ∨ f = .unwritable t) ∧
      r.failure = some f.report ∧
      ∃ x, r.log.getLast? = some x ∧ x.nodeId = node.id ∧ x.success = false

/-- A run on its way, whose values have texts if those do that it is given. -/
structure Going (worded : Prop) (r : Run) : Prop where
  status : r.status = .running
  vars : worded → r.vars.Worded

variable {flow : Flow} {worded : Prop} {node : Node} {r s : Run}

theorem faultless_of_ne (hv : worded → r.vars.Worded) (h : r.status ≠ .failed) :
    r.Faultless flow worded := ⟨hv, fun hs => absurd hs h⟩

theorem Faultless.congr (h : r.Faultless flow worded) (hv : s.vars = r.vars)
    (hs : s.status = r.status) (hf : s.failure = r.failure) (hl : s.log = r.log) :
    s.Faultless flow worded := by
  refine ⟨hv ▸ h.vars, ?_⟩
  rw [hs, hf, hl]
  exact h.fails

theorem faultless_failAt (hn : node ∈ flow.nodes) (hv : worded → r.vars.Worded) {f : Failure}
    (hf : node.Nameless ∧ f = .blankVariable ∨
      ¬ worded ∧ ∃ t, f = .unsayable t ∨ f = .unwritable t) :
    (r.failAt node f).Faultless flow worded :=
  ⟨hv, fun _ => ⟨node, hn, f, hf, rfl, _, List.getLast?_concat .., rfl, rfl⟩⟩

theorem Going.told (h : r.Going worded) {n : Nat} (ht : Told node n r s)
    (hv : worded → s.vars.Worded) : s.Going worded := ⟨ht.status.trans h.status, hv⟩

end Run

namespace Engine

/-- An engine for a checked flow, without handlers of the host, that passes over failed effects. -/
structure Validated (e : Engine) (worded : Prop) : Prop where
  fit : ∀ node ∈ e.flow.nodes, node.Fit
  builtin : e.handlers = []
  proceeds : e.settings.failurePolicy = .proceed
  words : worded → ∀ node ∈ e.flow.nodes, node.Worded

variable {e : Engine} {worded : Prop} {node : Node} {run r : Run}

theorem validated_of_check {v : Json} (hv : Flow.check v = .ok e.flow) (hh : e.handlers = [])
    (hp : e.settings.failurePolicy = .proceed) (hw : worded → v.hasText = true) :
    e.Validated worded where
  fit := fun _ hn => Flow.fit_of_check hv hn
  builtin := hh
  proceeds := hp
  words := fun h _ hn => Flow.worded_of_check (hw h) hv hn

private theorem visitAction_eq_error_iff {c : ActionConfig} (hk : node.kind? = some .action)
    (hc : node.config = .action c) {raised : Raised} :
    e.visitAction node c run = .error raised ↔
      node.Nameless ∧ raised = ⟨run, .blankVariable⟩ ∨ e.wordless? node run = some raised := by
  have hnameless : node.Nameless ↔
      c.actionType = assignment ∧ Text.trim (assignedName c) = "" := by
    simp [Node.Nameless, hk, hc]
  simp only [visitAction, wordless?, hk, hc, hnameless]
  by_cases hupdates : c.actionType = updateVista
  · have hother : updateVista ≠ assignment := by decide
    simp [hupdates, hother, ask_eq_error]
  · by_cases hassigns : c.actionType = assignment
    · have hother : assignment ≠ updateVista := by decide
      simp [hassigns, hother, visitAssignment_eq_error_iff]
    · simp [hupdates, hassigns]

/-- A step with a fitting configuration cannot be carried out just when it is nameless or has no
words for what it is to say. -/
theorem attempt_eq_error_iff (hf : node.Fit) (hh : Bindings.get? node.type e.handlers = none)
    {raised : Raised} : e.attempt node run = .error raised ↔
      node.Nameless ∧ raised = ⟨run, .blankVariable⟩ ∨ e.wordless? node run = some raised := by
  simp only [attempt, hh]
  cases hk : node.kind? with
  | none => simp [Node.Nameless, wordless?, hk]
  | some k =>
      have hkind := hf.kind k hk
      cases hc : node.config with
      | raw v =>
          rw [hc] at hkind
          cases hkind
      | unchecked fields => exact absurd hc (hf.checked fields)
      | action c =>
          rw [hc] at hkind
          cases hkind
          simp only [visitBuiltin, hc]
          exact visitAction_eq_error_iff hk hc
      | _ =>
          rw [hc] at hkind
          cases hkind
          simp [Node.Nameless, hk, hc, visitBuiltin, wordless?, visitMessage_eq_error_iff,
            visitInput_eq_error_iff, visitEnd_eq_error_iff, visitIntegration, ask_eq_error]

theorem endOfFlow_faultless (flow : Flow) (hr : run.Going worded) :
    (endOfFlow run).run.Faultless flow worded := by
  refine Run.faultless_of_ne (fun hw => endOfFlow_vars run ▸ hr.vars hw) ?_
  unfold endOfFlow
  split
  · simp [Leg.returned, Run.released, Run.complete, Run.isTerminal, Run.say, hr.status,
      Status.isTerminal]
  · simp [Leg.returned, Run.released, hr.status]

theorem proceed_faultless {flow : Flow} {walk : Option Node → Run → Leg}
    (hw : ∀ next r, (∀ n ∈ next, n ∈ flow.nodes) → r.Going worded →
      (walk next r).run.Faultless flow worded)
    (hv : worded → r.vars.Worded) (hr : r.status = .running ∨ r.status = .completed) {step : Step}
    (hn : ∀ n ∈ step.next, n ∈ flow.nodes) (events : List Event) :
    (proceed walk node r events step).run.Faultless flow worded := by
  unfold proceed
  split
  · refine Run.faultless_of_ne (fun hw => ?_) ?_
    · show r.suspend.vars.Worded
      rw [Run.vars_suspend]
      exact hv hw
    · rcases hr with hr | hr <;> simp [Leg.returned, Run.released, Run.suspend, hr]
  · split
    · refine Run.faultless_of_ne hv ?_
      rcases hr with hr | hr <;> simp [Leg.returned, Run.released, hr]
    · rename_i hopen
      rcases hr with hr | hr
      · exact hw _ r hn ⟨hr, hv⟩
      · exact absurd (by simp [Run.isTerminal, hr, Status.isTerminal]) hopen

theorem proceed_failAt {flow : Flow} {f : Failure}
    (h : (r.failAt node f).Faultless flow worded) (walk : Option Node → Run → Leg)
    (events : List Event) :
    (proceed walk node (r.failAt node f) events {}).run.Faultless flow worded :=
  h.congr rfl rfl rfl rfl

theorem attempt_faultless (hv : e.Validated worded) (hn : node ∈ e.flow.nodes)
    (hr : run.Going worded) {raised : Raised} (h : e.attempt node run = .error raised) :
    (raised.run.failAt node raised.failure).Faultless e.flow worded := by
  have hreason := (attempt_eq_error_iff (hv.fit node hn) (unhandled hv.builtin node)).mp h
  rcases hreason with ⟨hnameless, rfl⟩ | hwordless
  · apply Run.faultless_failAt hn hr.vars
    exact .inl ⟨hnameless, rfl⟩
  · obtain ⟨hvars, t, ht⟩ := of_wordless? hwordless
    apply Run.faultless_failAt hn fun hw => hvars ▸ hr.vars hw
    refine .inr ⟨fun hw => ?_, t, .inl ht⟩
    rw [wordless?_of_worded e (hr.vars hw) (hv.words hw node hn)] at hwordless
    cases hwordless

/-- A walk from a step is faultless, if the walks from the next step on are. -/
theorem visit_faultless (hv : e.Validated worded) (hn : node ∈ e.flow.nodes)
    (hr : run.Going worded) {steps : Nat}
    (hw : ∀ next r, (∀ n ∈ next, n ∈ e.flow.nodes) → r.Going worded →
      (e.walk steps next r).run.Faultless e.flow worded) :
    (e.walk (steps + 1) (some node) run).run.Faultless e.flow worded := by
  have hentered : (run.enter node.id).Going worded := ⟨hr.status, hr.vars⟩
  have hassigned : worded → (node.assigned run.vars).Worded := by
    intro h
    exact (hr.vars h).assigned (hv.words h node hn)
  have hattempt := attempt_attempted (unhandled hv.builtin node) (run.enter node.id)
  simp only [walk, visit]
  split
  · exact Run.faultless_of_ne hr.vars (by simp [Leg.returned, Run.released, hr.status])
  · cases hcase : e.attempt node (run.enter node.id) with
    | error raised =>
        apply proceed_failAt
        exact attempt_faultless hv hn hentered hcase
    | ok visit =>
        rw [hcase] at hattempt
        cases hattempt with
        | onward h hvars hpass =>
            apply proceed_faultless hw fun h => hvars ▸ hassigned h
            · exact .inl (h.status.trans hr.status)
            · intro n hnext
              exact Flow.mem_of_next? hnext
        | waits h hvars ha =>
            apply proceed_faultless hw fun h => hvars ▸ hr.vars h
            · exact .inl (h.status.trans hr.status)
            · simp
        | @completes r h hvars hk =>
            have hcompleted : r.complete.status = .completed := by
              simp [Run.complete, Run.isTerminal, h.status, hentered.status, Status.isTerminal]
            have hkept : r.complete.vars = run.vars := (Run.vars_complete r).trans hvars
            apply proceed_faultless hw fun h => hkept ▸ hr.vars h
            · exact .inr hcompleted
            · simp
        | asking h hvars hs hpass =>
            apply Run.faultless_of_ne fun h => hvars ▸ hassigned h
            simp [Visit.caught, h.status, hentered.status]

theorem walk_faultless (hv : e.Validated worded) (steps : Nat) (next : Option Node) (run : Run)
    (hn : ∀ n ∈ next, n ∈ e.flow.nodes) (hr : run.Going worded) :
    (e.walk steps next run).run.Faultless e.flow worded := by
  -- on the steps that are left; each visit takes one of them
  induction steps generalizing next run with
  | zero =>
      cases next with
      | none => exact endOfFlow_faultless e.flow hr
      | some node => exact Run.faultless_of_ne hr.vars (by simp [walk, hr.status])
  | succ steps ih =>
      cases next with
      | none => exact endOfFlow_faultless e.flow hr
      | some node => exact visit_faultless hv (hn node rfl) hr ih

theorem continueFrom_faultless (hv : e.Validated worded) {next : Option Node}
    (hn : ∀ n ∈ next, n ∈ e.flow.nodes) (hr : run.Going worded) :
    (e.continueFrom next run).run.Faultless e.flow worded := by
  unfold continueFrom
  split
  · exact Run.faultless_of_ne hr.vars (by simp [hr.status])
  · exact walk_faultless hv e.bound next _ hn ⟨hr.status, hr.vars⟩

theorem takeUp_faultless (hv : e.Validated worded) (hs : node.SeeksEffect)
    (hn : node ∈ e.flow.nodes) (hr : run.Going worded) (request : EffectRequest)
    {result : EffectResult} (htell : worded → e.obstacle? node (.ok result) = none) :
    (e.takeUp node request (.ok result) run).run.Faultless e.flow worded := by
  have hserved := conclude_served e hs request (.ok result) run
  unfold takeUp
  generalize e.conclude node request (.ok result) run = left at hserved ⊢
  cases hserved with
  | onward h =>
      exact proceed_faultless (walk_faultless hv e.bound) (fun hw => h.vars ▸ hr.vars hw)
        (.inl (h.status.trans hr.status)) (fun n hnext => Flow.mem_of_next? hnext) _
  | halts h hf hreason => simp [haltsOn, hv.proceeds] at hreason
  | breaks ho =>
      apply proceed_failAt
      refine Run.faultless_failAt hn hr.vars (.inr ⟨fun hw => ?_, failure_of_obstacle? ho⟩)
      rw [htell hw] at ho
      cases ho

theorem routeCondition_ok (e : Engine) {c : ConditionConfig} (hc : node.config = .condition c)
    (run : Run) (text : String) : ∃ routed, e.routeCondition node run text = .ok routed := by
  simp only [routeCondition, hc]
  split
  · split
    · exact ⟨_, rfl⟩
    · exact ⟨_, rfl⟩
  · exact ⟨_, rfl⟩

theorem take_ne_failed (hf : node.Fit) (ha : node.Asks) (text : String) (events : List Event) :
    Session.take e node run text ≠ .failed r events := by
  unfold Session.take
  rcases ha with hk | hk
  · simp only [hk]
    have hconfig := hf.kind _ hk
    cases hc : node.config with
    | input c =>
        have hname : Text.trim c.variableName ≠ "" := hf.named c hc
        simp [bindInput, hc, NodeConfig.input?, InputConfig.fields, Run.setVariable?,
          Variables.set?, hname, bind, Except.bind, pure, Except.pure]
    | unchecked fields => exact absurd hc (hf.checked fields)
    | _ => simp [hc, NodeConfig.kind?] at hconfig
  · simp only [hk]
    have hconfig := hf.kind _ hk
    cases hc : node.config with
    | condition c =>
        obtain ⟨routed, hrouted⟩ := routeCondition_ok e hc run text
        rw [hrouted]
        dsimp only
        split <;> simp
    | _ => simp [hc, NodeConfig.kind?] at hconfig

end Engine

namespace Session

variable {e : Engine} {worded : Prop} {run : Run}

theorem opening_faultless (hv : e.Validated worded) (hr : worded → run.vars.Worded) {start : Node}
    (hstart : e.flow.startNode? = some start) :
    (opening e run).run.Faultless e.flow worded := by
  simp only [opening, hstart]
  refine Engine.continueFrom_faultless hv ?_ ⟨rfl, fun hw => ?_⟩
  · rintro _ ⟨⟩
    exact Flow.mem_of_startNode? hstart
  · exact (hr hw).seed _ _

theorem reply_faultless (hv : e.Validated worded) {node : Node} (hn : node ∈ e.flow.nodes)
    (ha : node.Asks) (hnode : run.current.bind e.flow.node? = some node)
    (hr : worded → run.vars.Worded) (text : String) :
    (reply e run text).run.Faultless e.flow worded := by
  have htaken := Engine.take_answered e ha (answered run text) text
  have hvars := Engine.take_vars e ha (answered run text) text
  simp only [reply, hnode]
  cases htake : take e node (answered run text) text with
  | failed r events => exact absurd htake (Engine.take_ne_failed (hv.fit node hn) ha text events)
  | walkOn r next =>
      rw [htake] at htaken hvars
      have hworded : worded → r.vars.Worded := fun hw => hvars ▸ (hr hw).answered node text
      cases htaken with
      | walkOn h hnext =>
          exact Engine.continueFrom_faultless hv (fun n hn => (hnext n hn).mem)
            ⟨h.status, hworded⟩
  | waitMore r =>
      rw [htake] at htaken hvars
      have hworded : worded → r.vars.Worded := fun hw => hvars ▸ (hr hw).answered node text
      cases htaken with
      | waitMore h =>
          have hrunning : r.status = .running := h.status
          refine Run.faultless_of_ne (fun hw => ?_) (by simp [Leg.after, Run.suspend, hrunning])
          show r.suspend.vars.Worded
          rw [Run.vars_suspend]
          exact hworded hw

end Session

namespace Scene

variable {serve : Serving} {e : Engine} {worded : Prop} {h h' : Scene} {cue : Cue} {s : Session}
  {held : List Held} {leg : Leg}

theorem Sound.opens_faultless (hs : h.Sound e) (hq : h.Requests e) (ha : e.flow.Accepted)
    (hv : e.Validated worded) {start : Node} (hstart : e.flow.startNode? = some start)
    (hserve : ∀ n request, ∃ result, serve n request = .ok result) (htell : worded → serve.Tells e)
    (hf : h.session.current.Faultless e.flow worded) (ho : h.Opens serve cue s held leg) :
    leg.run.Faultless e.flow worded := by
  cases ho with
  | start hidle =>
      rw [hs.engine]
      exact Session.opening_faultless hv hf.vars hstart
  | @send text hsend =>
      obtain ⟨node, hmem, hasks, hcur, -⟩ := hs.asks_of_waiting hsend.1
      have hnode := ha.bind_node? hmem hcur
      rw [hs.engine]
      exact Session.reply_faultless hv hmem hasks hnode hf.vars text
  | @settle place w hw hown =>
      have hmem := List.mem_of_getElem? hw
      have hat := hs.atStep hmem List.mem_cons_self hown.symm
      obtain ⟨result, hresult⟩ := hserve w.number w.pending.request
      have htold (hw : worded) : e.obstacle? w.pending.node (.ok result) = none :=
        hq.obstacle? (htell hw) hmem hat.mem hresult
      rw [hs.engine, Held.leg, Held.outcome, hresult]
      exact Engine.takeUp_faultless hv (hs.held w hmem).1 hat.mem ⟨hat.status, hf.vars⟩ _ htold

theorem Moves.faultless (hm : h.Moves serve cue h') (hs : h.Sound e) (hq : h.Requests e)
    (ha : e.flow.Accepted) (hv : e.Validated worded) {start : Node}
    (hstart : e.flow.startNode? = some start)
    (hserve : ∀ n request, ∃ result, serve n request = .ok result) (htell : worded → serve.Tells e)
    (hf : h.session.current.Faultless e.flow worded) :
    h'.session.current.Faultless e.flow worded := by
  cases hm with
  | refused => exact hf
  | reset =>
      exact Run.faultless_of_ne (by simp [Session.reset, Variables.Worded])
        (by simp [Session.reset])
  | returned ho hr =>
      rw [Session.persist_current]
      exact hs.opens_faultless hq ha hv hstart hserve htell hf ho
  | asks ho hr => exact hs.opens_faultless hq ha hv hstart hserve htell hf ho
  | drained hw hrun hid hne => exact hf

/-- A run of a checked flow with a start fails at nothing but an action without a name to assign to,
where the flow as it was given and what is told of its updates have texts, and else only for want of
one. A step cannot be carried out just when it is such an action or its own texts cannot be made. -/
theorem play_faultless {v : Json} (hc : Flow.check v = .ok e.flow)
    (hstart : e.flow.startNode?.isSome = true) (hh : e.handlers = [])
    (hp : e.settings.failurePolicy = .proceed) (store : Option RunStore) (serve : Serving)
    (hserve : ∀ n request, ∃ result, serve n request = .ok result) (cues : List Cue)
    (hplay : (make e store).play serve cues = some h) :
    h.session.current.Faultless e.flow (v.hasText = true ∧ serve.Tells e) ∧
      ∀ node ∈ e.flow.nodes, ∀ run raised, e.attempt node run = .error raised ↔
        node.Nameless ∧ raised = ⟨run, .blankVariable⟩ ∨ e.wordless? node run = some raised := by
  have hv : e.Validated (v.hasText = true ∧ serve.Tells e) :=
    Engine.validated_of_check hc hh hp And.left
  have ha := Flow.accepted_of_check hc
  obtain ⟨start, hnode⟩ := Option.isSome_iff_exists.mp hstart
  constructor
  · have hall : h.Sound e ∧ h.Requests e ∧
        h.session.current.Faultless e.flow (v.hasText = true ∧ serve.Tells e) := by
      refine play_induction
        (P := fun h => h.Sound e ∧ h.Requests e ∧ h.session.current.Faultless e.flow _) ?_
        ⟨.make e store, .make e store, Run.faultless_of_ne
          (by simp [make, Session.make, Variables.Worded]) (by simp [make, Session.make])⟩ hplay
      rintro h cue h' ⟨hs, hq, hf⟩ hstep
      have hl := Engine.loyal_of_nil hh
      have hmoves := hs.moves hl hstep
      exact ⟨hs.kept ha hh hmoves, hq.kept hl hmoves,
        hmoves.faultless hs hq ha hv hnode hserve And.right hf⟩
    exact hall.2.2
  · intro node hn run raised
    exact Engine.attempt_eq_error_iff (hv.fit node hn) (Engine.unhandled hh node)

/-- A flow with an action whose name to assign to is a blank. -/
def jotting : Json :=
  .object [("nodes", .list [
      .object [("id", .str "entry"), ("type", .str "start")],
      .object [("id", .str "jot"), ("type", .str "action"),
        ("config", .object [("variableName", .str " ")])]]),
    ("edges", .list [.object [("source", .str "entry"), ("target", .str "jot")]])]

/-- An engine for that flow as the check reads it. -/
def jotter : Engine where
  flow := {
    id := "", name := "", description := "", department := none
    nodes := [
      ⟨"entry", "start", "start", .start ⟨"first_message", [], none⟩⟩,
      ⟨"jot", "action", "action", .action ⟨"set_variable", some " ", .null, [], none, []⟩⟩]
    edges := [⟨none, "entry", "jot", none, none⟩] }
  settings := default

theorem check_jotting : Flow.check jotting = .ok jotter.flow := by rfl

/-- A run of a checked flow may fail. -/
theorem jotter_fails : ∃ v e, Flow.check v = .ok e.flow ∧ e.flow.startNode?.isSome = true ∧
    e.handlers = [] ∧ e.settings.failurePolicy = .proceed ∧
    ((make e none).play (fun _ => granting) [.call .start]).map (·.session.current.status) =
      some .failed := ⟨jotting, jotter, check_jotting, rfl, rfl, rfl, by decide⟩

theorem jotter_faultless : ∃ h, (make jotter none).play (fun _ => granting) [.call .start] =
      some h ∧ h.session.current.status = .failed ∧
    ∃ node ∈ jotter.flow.nodes, node.Nameless ∧
      h.session.current.failure = some "Variable name must not be empty" := by
  obtain ⟨h, hplay, hfailed⟩ := Option.map_eq_some_iff.mp (show ((make jotter none).play
    (fun _ => granting) [.call .start]).map (·.session.current.status) = some .failed by decide)
  obtain ⟨hfaultless, -⟩ := play_faultless check_jotting rfl rfl rfl none (fun _ => granting)
    (fun _ _ => ⟨_, rfl⟩) _ hplay
  obtain ⟨node, hmem, f, hnameless | ⟨hwordless, -⟩, hfailure, -⟩ := hfaultless.fails hfailed
  · obtain ⟨hnameless, rfl⟩ := hnameless
    exact ⟨h, hplay, hfailed, node, hmem, hnameless, hfailure⟩
  · refine absurd ⟨rfl, ?_⟩ hwordless
    rintro n node - run request - - result ⟨⟩ -
    rfl

end Scene
end Dialogue
