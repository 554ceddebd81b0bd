import Dialogue.Proofs.Run.Identity
import Mathlib.Data.List.Chain

/-!
# The log as a trail

A trail begins at the start of a flow and goes on along its edges; at a step that waits for an
answer it stays for as many answers as are given there. A walk leaves one entry in the log for each
step it carries out (`walk_charted`), so the log reads as the trail of the run.
-/
namespace Dialogue

/-- What a run does at a step: it carries the step out, or takes an answer there. -/
inductive Stage where
  | visit (node : Node)
  | answer (node : Node) (text : String)
  deriving DecidableEq

namespace Stage

def node : Stage → Node
  | visit node => node
  | answer node _ => node

def id (stage : Stage) : String := stage.node.id

def text? : Stage → Option String
  | visit _ => none
  | answer _ text => some text

end Stage

namespace Flow

inductive Trail (flow : Flow) : List Stage → Prop where
  | nil : Trail flow []
  | start {node : Node} (hn : flow.startNode? = some node) : Trail flow [.visit node]
  | onward {trail : List Stage} {last : Stage} {node : Node} (ht : Trail flow trail)
      (hl : trail.getLast? = some last) (hn : flow.Leads last.node node) :
      Trail flow (trail ++ [.visit node])
  | answer {trail : List Stage} {last : Stage} (text : String) (ht : Trail flow trail)
      (hl : trail.getLast? = some last) (ha : last.node.Asks) :
      Trail flow (trail ++ [.answer last.node text])

/-- Two steps that may come one after the other: an answer stays where it was asked for, and all
else goes along an edge. -/
def Adjoins (flow : Flow) (a b : String) : Prop :=
  (a = b ∧ ∃ node ∈ flow.nodes, node.id = a ∧
      (node.type = NodeKind.input.name ∨ node.type = NodeKind.condition.name)) ∨
    ∃ edge ∈ flow.edges, edge.source = a ∧ edge.target = b

variable {flow : Flow} {trail : List Stage} {start : Node}

theorem Leads.adjoins {node next : Node} (h : flow.Leads node next) :
    flow.Adjoins node.id next.id := by
  obtain ⟨edge, hout, hnext⟩ := h
  obtain ⟨hmem, hsource⟩ := edge_mem_of_outgoing hout
  exact .inr ⟨edge, hmem, hsource, (id_of_node? hnext).symm⟩

theorem Accepted.not_adjoins_start (h : flow.Accepted) (hs : flow.startNode? = some start)
    (a : String) : ¬ flow.Adjoins a start.id := by
  rintro (⟨rfl, node, hmem, hid, htype⟩ | ⟨edge, hmem, -, htarget⟩)
  · have hsame : node = start :=
      List.inj_on_of_nodup_map h.nodup_ids hmem (mem_of_startNode? hs) hid
    have hstart : start.type = NodeKind.start.name := by simpa using List.find?_some hs
    rw [hsame, hstart] at htype
    revert htype
    decide
  · exact h.rules.2.2 start hs edge hmem htarget

namespace Trail

theorem mem (h : flow.Trail trail) : ∀ stage ∈ trail, stage.node ∈ flow.nodes := by
  have hsnoc {trail : List Stage} {next : Stage} (ih : ∀ stage ∈ trail, stage.node ∈ flow.nodes)
      (hn : next.node ∈ flow.nodes) : ∀ stage ∈ trail ++ [next], stage.node ∈ flow.nodes := by
    intro stage hmem
    rcases List.mem_append.mp hmem with hmem | hmem
    · exact ih stage hmem
    · rw [List.mem_singleton.mp hmem]
      exact hn
  induction h with
  | nil => simp
  | start hn => simpa [Stage.node] using mem_of_startNode? hn
  | onward _ _ hn ih => exact hsnoc ih hn.mem
  | @answer trail last _ _ hl _ ih => exact hsnoc ih (ih last (List.mem_of_getLast? hl))

theorem head (h : flow.Trail trail) {stage : Stage} (hs : trail.head? = some stage) :
    ∃ start, flow.startNode? = some start ∧ stage = .visit start := by
  induction h with
  | nil => cases hs
  | start hn =>
      cases hs
      exact ⟨_, hn, rfl⟩
  | @onward trail last _ _ hl _ ih =>
      have hne : trail ≠ [] := fun hnil => by simp [hnil] at hl
      exact ih (by rwa [List.head?_append_of_ne_nil _ hne] at hs)
  | @answer trail last _ _ hl _ ih =>
      have hne : trail ≠ [] := fun hnil => by simp [hnil] at hl
      exact ih (by rwa [List.head?_append_of_ne_nil _ hne] at hs)

theorem adjoins (h : flow.Trail trail) : (trail.map Stage.id).IsChain flow.Adjoins := by
  have hsnoc {trail : List Stage} {last next : Stage}
      (ih : (trail.map Stage.id).IsChain flow.Adjoins) (hl : trail.getLast? = some last)
      (hn : flow.Adjoins last.id next.id) :
      ((trail ++ [next]).map Stage.id).IsChain flow.Adjoins := by
    rw [List.map_append, List.isChain_append]
    refine ⟨ih, .singleton _, ?_⟩
    rw [List.getLast?_map, hl]
    rintro _ ⟨⟩ _ ⟨⟩
    exact hn
  induction h with
  | nil => exact .nil
  | start => exact .singleton _
  | onward _ hl hn ih => exact hsnoc ih hl hn.adjoins
  | answer _ ht hl ha ih =>
      exact hsnoc ih hl (.inl ⟨rfl, _, ht.mem _ (List.mem_of_getLast? hl), rfl, ha.type⟩)

end Trail

private theorem exists_before {α : Type} {R : α → α → Prop} {l : List α} (h : l.IsChain R) {b : α}
    (hb : b ∈ l.tail) : ∃ a, R a b := by
  induction h with
  | nil => cases hb
  | singleton => cases hb
  | cons_cons hr _ ih =>
      rcases List.mem_cons.mp hb with rfl | hb
      · exact ⟨_, hr⟩
      · exact ih hb

/-- The step that a trail ends at is known by its id. -/
theorem Trail.last_eq (h : flow.Trail trail) (ha : flow.Accepted) {node : Node}
    (hn : node ∈ flow.nodes) (hl : (trail.map Stage.id).getLast? = some node.id) :
    trail.getLast?.map Stage.node = some node := by
  rw [List.getLast?_map] at hl
  obtain ⟨last, hlast, hid⟩ := Option.map_eq_some_iff.mp hl
  rw [hlast, Option.map_some]
  exact congrArg some (List.inj_on_of_nodup_map ha.nodup_ids
    (h.mem last (List.mem_of_getLast? hlast)) hn hid)

theorem Trail.start_not_mem_tail (h : flow.Trail trail) (ha : flow.Accepted)
    (hs : flow.startNode? = some start) : start.id ∉ (trail.map Stage.id).tail := by
  intro hmem
  obtain ⟨a, hadjoins⟩ := exists_before h.adjoins hmem
  exact ha.not_adjoins_start hs a hadjoins

end Flow

namespace Run

/-- The steps that the log tells of. -/
def logged (r : Run) : List String := r.log.map (·.nodeId)

theorem Told.logged {node : Node} {n : Nat} {r s : Run} (h : Told node n r s) :
    s.logged = r.logged ++ List.replicate n node.id := by
  obtain ⟨es, hes, hlen, hall⟩ := h.noted
  have hids : es.map (·.nodeId) = List.replicate n node.id := by
    rw [List.eq_replicate_iff]
    simpa [hlen] using hall
  rw [Run.logged, hes, List.map_append, hids, Run.logged]

@[simp] theorem logged_suspend (r : Run) : r.suspend.logged = r.logged := by
  unfold suspend
  split <;> rfl

@[simp] theorem logged_complete (r : Run) : r.complete.logged = r.logged := by
  unfold complete
  split <;> rfl

/-- The place of a run and the steps it entered are those of a trail. -/
structure Charted (flow : Flow) (trail : List Stage) (r : Run) : Prop where
  valid : flow.Trail trail
  visited : r.visited = (trail.map Stage.id).eraseDups
  current : ∀ id, r.current = some id → (trail.map Stage.id).getLast? = some id

namespace Charted

variable {flow : Flow} {trail : List Stage} {node : Node} {n : Nat} {r s : Run}

theorem congr (h : r.Charted flow trail) (hv : s.visited = r.visited)
    (hc : s.current = none ∨ s.current = r.current) : s.Charted flow trail where
  valid := h.valid
  visited := hv.trans h.visited
  current := by
    intro id hid
    rcases hc with hc | hc
    · simp [hc] at hid
    · exact h.current id (hc ▸ hid)

theorem told (h : r.Charted flow trail) (ht : Told node n r s) : s.Charted flow trail :=
  h.congr ht.visited (.inr ht.current)

theorem suspend (h : r.Charted flow trail) : r.suspend.Charted flow trail := by
  apply h.congr
  · unfold Run.suspend
    split <;> rfl
  · unfold Run.suspend
    split <;> exact .inr rfl

theorem complete (h : r.Charted flow trail) : r.complete.Charted flow trail := by
  apply h.congr
  · unfold Run.complete
    split <;> rfl
  · unfold Run.complete
    split
    · exact .inr rfl
    · exact .inl rfl

theorem enter (h : r.Charted flow trail) (ht : flow.Trail (trail ++ [.visit node])) :
    (r.enter node.id).Charted flow (trail ++ [.visit node]) := by
  have hids : (trail ++ [Stage.visit node]).map Stage.id = trail.map Stage.id ++ [node.id] := by
    rw [List.map_append]
    rfl
  refine ⟨ht, ?_, ?_⟩
  · rw [hids, Bindings.eraseDups_concat, ← h.visited]
    rfl
  · rintro _ ⟨⟩
    rw [hids, List.getLast?_concat]

theorem answer (h : r.Charted flow trail) {last : Stage} (hl : trail.getLast? = some last)
    (ha : last.node.Asks) (text : String) :
    r.Charted flow (trail ++ [.answer last.node text]) := by
  have hids : (trail ++ [Stage.answer last.node text]).map Stage.id =
      trail.map Stage.id ++ [last.id] := by
    rw [List.map_append]
    rfl
  have hmem : last.id ∈ trail.map Stage.id :=
    List.mem_map_of_mem (List.mem_of_getLast? hl)
  refine ⟨.answer text h.valid hl ha, ?_, ?_⟩
  · rw [hids, Bindings.eraseDups_concat, h.visited, if_pos (by simpa using hmem)]
  · intro id hid
    have hlast := h.current id hid
    rw [List.getLast?_map, hl] at hlast
    rw [hids, List.getLast?_concat]
    exact hlast

end Charted

end Run
namespace Leg

/-- What a leg leaves of a trail. The entry of a step that waits for its effect is still to come. -/
structure Charted (flow : Flow) (trail : List Stage) (leg : Leg) : Prop where
  run : leg.run.Charted flow trail
  returned : leg.stop = .returned → leg.run.logged = trail.map Stage.id
  awaiting : ∀ node request, leg.stop = .awaiting node request →
    trail.map Stage.id = leg.run.logged ++ [node.id]

variable {flow : Flow} {trail : List Stage} {run : Run} {leg : Leg}

theorem Charted.of_returned (h : run.Charted flow trail) (hl : run.logged = trail.map Stage.id)
    (events : List Event) : Charted flow trail (.returned run events) :=
  ⟨h.congr rfl (.inr rfl), fun _ => hl, by simp [Leg.returned]⟩

theorem Charted.after (h : leg.Charted flow trail) (events : List Event) :
    (leg.after events).Charted flow trail := ⟨h.run, h.returned, h.awaiting⟩

end Leg

namespace Engine

/-- The stages of the walk that follows a visit. -/
def beyond (stages : Option Node → Run → List Stage) (run : Run) (step : Step) : List Stage :=
  if step.wait then [] else if run.isTerminal then [] else stages step.next run

/-- The steps that a walk visits. -/
def stages (e : Engine) : Nat → Option Node → Run → List Stage
  | _, none, _ => []
  | 0, some _, _ => []
  | steps + 1, some node, run =>
    if run.cancelled then []
    else match e.visit node run with
      | .asking _ _ => [.visit node]
      | .done run _ step => .visit node :: beyond (e.stages steps) run step

def stagesFrom (e : Engine) (node : Option Node) (run : Run) : List Stage :=
  if run.processing then [] else e.stages e.bound node { run with processing := true }

/-- The steps that are visited once the effect of one has been served. -/
def stagesUpon (e : Engine) (node : Node) (request : EffectRequest) (outcome : EffectOutcome)
    (run : Run) : List Stage :=
  beyond (e.stages e.bound) (e.conclude node request outcome run).1
    (e.conclude node request outcome run).2.2

variable {e : Engine} {node : Node} {run r : Run} {trail : List Stage} {events : List Event}
  {step : Step}

/-! A walk takes no answers. -/

theorem text_beyond {stages : Option Node → Run → List Stage}
    (h : ∀ next r, (stages next r).filterMap Stage.text? = []) (run : Run) (step : Step) :
    (beyond stages run step).filterMap Stage.text? = [] := by
  unfold beyond
  split
  · rfl
  · split
    · rfl
    · exact h _ _

theorem text_stages (e : Engine) (steps : Nat) (next : Option Node) (run : Run) :
    (e.stages steps next run).filterMap Stage.text? = [] := by
  induction steps generalizing next run with
  | zero => cases next <;> rfl
  | succ steps ih =>
      cases next with
      | none => rfl
      | some node =>
          simp only [stages]
          split
          · rfl
          · cases e.visit node run with
            | asking => rfl
            | done run events step =>
                rw [List.filterMap_cons_none rfl]
                exact text_beyond ih run step

theorem text_stagesFrom (e : Engine) (next : Option Node) (run : Run) :
    (e.stagesFrom next run).filterMap Stage.text? = [] := by
  unfold stagesFrom
  split
  · rfl
  · exact e.text_stages _ _ _

theorem Settled.charted (h : Settled e node run r events step) (hc : run.Charted e.flow trail) :
    r.Charted e.flow trail := by
  cases h with
  | concluded h =>
      cases h with
      | onward h => exact hc.told h
      | halts h => exact (hc.told h).congr rfl (.inl rfl)
      | breaks f h => exact (hc.told h).congr rfl (.inl rfl)
  | waits h => exact hc.told h
  | completes h => exact (hc.told h).complete

theorem Settled.logged (h : Settled e node run r events step) :
    r.logged = run.logged ++ [node.id] := by
  cases h with
  | concluded h =>
      cases h with
      | onward h => exact h.logged
      | halts h => exact h.logged
      | breaks f h => exact h.logged
  | waits h => exact h.logged
  | completes h => exact (Run.logged_complete _).trans h.logged

theorem Settled.leads (h : Settled e node run r events step) :
    ∀ n ∈ step.next, e.flow.Leads node n := by
  cases h with
  | concluded h =>
      cases h with
      | onward => exact fun _ hn => Flow.leads_of_next? hn
      | halts => simp
      | breaks => simp
  | waits => simp
  | completes => simp

theorem endOfFlow_charted {flow : Flow} (h : run.Charted flow trail)
    (hl : run.logged = trail.map Stage.id) : (endOfFlow run).Charted flow trail := by
  unfold endOfFlow
  split
  · have hsaid : Run.Charted flow trail (run.say .system "Fluxo concluído (sem mais nós)" none) :=
      h.congr rfl (.inr rfl)
    exact .of_returned hsaid.complete ((Run.logged_complete _).trans hl) _
  · exact .of_returned h hl _

theorem proceed_charted {walk : Option Node → Run → Leg}
    {stages : Option Node → Run → List Stage} (h : Settled e node run r events step)
    (hc : run.Charted e.flow trail) (hl : run.logged ++ [node.id] = trail.map Stage.id)
    (hlast : trail.getLast?.map Stage.node = some node)
    (hw : ∀ next r, r.Charted e.flow trail → r.logged = trail.map Stage.id →
      (∀ n ∈ next, e.flow.Trail (trail ++ [.visit n])) →
        (walk next r).Charted e.flow (trail ++ stages next r)) :
    (proceed walk node r events step).Charted e.flow (trail ++ beyond stages r step) := by
  have hcharted := h.charted hc
  have hlogged := h.logged.trans hl
  obtain ⟨last, hlast', rfl⟩ := Option.map_eq_some_iff.mp hlast
  unfold proceed beyond
  split
  · rw [List.append_nil]
    exact .of_returned hcharted.suspend ((Run.logged_suspend r).trans hlogged) _
  · split
    · rw [List.append_nil]
      exact .of_returned hcharted hlogged _
    · refine (hw step.next r hcharted hlogged fun n hn => ?_).after _
      exact .onward hc.valid hlast' (h.leads n hn)

theorem walk_charted (hh : e.handlers = []) (steps : Nat) (next : Option Node) (run : Run)
    (hc : run.Charted e.flow trail) (hl : run.logged = trail.map Stage.id)
    (hn : ∀ n ∈ next, e.flow.Trail (trail ++ [.visit n])) :
    (e.walk steps next run).Charted e.flow (trail ++ e.stages steps next run) := by
  -- on the bound; between two steps the log and the trail are level
  induction steps generalizing trail next run with
  | zero =>
      cases next with
      | none => simpa [walk, stages] using endOfFlow_charted hc hl
      | some node => exact ⟨by simpa [walk, stages] using hc, by simp [walk], by simp [walk]⟩
  | succ steps ih =>
      cases next with
      | none => simpa [walk, stages] using endOfFlow_charted hc hl
      | some node =>
          have hvisit := visit_visited (unhandled hh node) run
          have hentered := hc.enter (hn node rfl)
          have hids : (trail ++ [Stage.visit node]).map Stage.id = run.logged ++ [node.id] := by
            rw [List.map_append, hl]
            rfl
          simp only [walk, stages]
          split
          · rw [List.append_nil]
            exact .of_returned hc hl _
          · generalize e.visit node run = visit at hvisit ⊢
            cases hvisit with
            | asking h hs =>
                refine ⟨hentered.told h, by simp, ?_⟩
                rintro node' request' heq
                injection heq with hnode
                have hlogged := h.logged
                rw [List.replicate_zero, List.append_nil] at hlogged
                rw [hids, ← hnode, hlogged]
                rfl
            | settled h =>
                rw [List.append_cons]
                exact proceed_charted h hentered hids.symm (by simp [Stage.node])
                  fun next r => ih next r

theorem continueFrom_charted (hh : e.handlers = []) {next : Option Node}
    (hc : run.Charted e.flow trail) (hl : run.logged = trail.map Stage.id)
    (hp : run.processing = false) (hn : ∀ n ∈ next, e.flow.Trail (trail ++ [.visit n])) :
    (e.continueFrom next run).Charted e.flow (trail ++ e.stagesFrom next run) := by
  simp only [continueFrom, stagesFrom, hp, Bool.false_eq_true, if_false]
  exact walk_charted hh e.bound next _ (hc.congr rfl (.inr rfl)) hl hn

/-- The entry of a step whose effect has been served is the one that was still to come. -/
theorem takeUp_charted (hh : e.handlers = []) (hs : node.SeeksEffect)
    (hc : run.Charted e.flow trail) (hl : trail.map Stage.id = run.logged ++ [node.id])
    (hlast : trail.getLast?.map Stage.node = some node) (request : EffectRequest)
    (outcome : EffectOutcome) :
    (e.takeUp node request outcome run).Charted e.flow
      (trail ++ e.stagesUpon node request outcome run) :=
  proceed_charted (.concluded (conclude_concluded e hs request outcome run)) hc hl.symm hlast
    (walk_charted hh e.bound)

end Engine
end Dialogue
