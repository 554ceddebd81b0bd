import Dialogue.Proofs.Run.Arrival
import Dialogue.Proofs.Session.Conversation
import Dialogue.Proofs.Session.Simulation

/-!
# Conversations that come to their end

Where the steps of a flow can be carried out and no effect stops a run, a conversation stands after
each call where the ways of the flow come to rest, and the answers that the graph allows for are
enough to end it (`Within.sendAll`). With a gateway that simulates effects the built-in flows never
fail, wait for answers at questions only, and end after one answer or two (`find?_ends`).
-/
namespace Dialogue

open Run (Follows)

/-- Gateways of a sort that let the runs of an engine go on: each request of a step has a result
that the step is passed with. -/
structure Gateway.Obliging (e : Engine) (sort : Gateway → Prop) : Prop where
  result : ∀ {g node run request}, sort g → node ∈ e.flow.nodes → e.Asking node run request →
    ∃ result, (g.invoke request).1 = .ok result ∧ e.Passes node result
  kept : ∀ {g node run request}, sort g → node ∈ e.flow.nodes → e.Asking node run request →
    sort (g.invoke request).2

namespace Session

/-- An operation that ends at a place, or waits for an effect from which fewer steps lead there. -/
def Heads (place : Option Node) (steps : Nat) (done : Session × Outcome) : Prop :=
  match done.2 with
  | .returned _ => done.1.current.Arrived place
  | .waiting p => done.1.current.Fluent ∧ p.node ∈ done.1.engine.flow.nodes ∧
      (∃ run, done.1.engine.Asking p.node run p.request) ∧ ∃ rest < steps,
        done.1.engine.flow.rest? rest (done.1.engine.flow.next? p.node) = some place
  | .endless => False

variable {s : Session} {e : Engine} {run : Run} {leg : Leg} {start node : Node}
  {place : Option Node} {steps : Nat} {text : String}

theorem absorb_heads (hid : leg.run.id = s.current.id) (h : s.engine.Heads place steps leg) :
    Heads place steps (s.absorb leg) := by
  cases h with
  | arrived hstop ha =>
      rw [absorb_returned hid hstop]
      show ((s.moved leg).persist leg.run.id).current.Arrived place
      rw [persist_current]
      exact ha
  | asks hstop hn ha hl hlt hrest =>
      rw [absorb_awaiting hid hstop]
      exact ⟨hl, hn, ⟨_, ha⟩, _, hlt, hrest⟩

theorem opening_id (hh : e.handlers = []) (run : Run) : (opening e run).run.id = run.id :=
  (opening_keeps Follows.lasting (Engine.loyal_of_nil hh) run).run.id

theorem reply_id (hh : e.handlers = []) (run : Run) (text : String) :
    (reply e run text).run.id = run.id :=
  have hrunning : Status.running ≠ .idle := by decide
  have hanswered : Follows run (answered run text) := ⟨rfl, rfl, fun _ => hrunning⟩
  (reply_keeps Follows.lasting (Engine.loyal_of_nil hh) hanswered).run.id

theorem continueFrom_heads {next : Option Node} (hs : e.Sturdy) (hp : run.processing = false)
    (hl : run.Fluent) (hn : ∀ n ∈ next, n ∈ e.flow.nodes)
    (hrest : e.flow.rest? e.flow.nodes.length next = some place) :
    e.Heads place e.flow.nodes.length (e.continueFrom next run) := by
  rw [Engine.continueFrom, hp]
  exact Engine.walk_heads hs (by unfold Engine.bound; omega) hn
    ⟨⟨hl.status, hl.cancelled⟩, hl.vars⟩ hrest

theorem start_heads (hs : s.engine.Sturdy) (hidle : s.current.status = .idle)
    (hp : s.current.processing = false) (hc : s.current.cancelled = false)
    (hv : s.current.vars.Worded) (hstart : s.engine.flow.startNode? = some start)
    (hrest : s.engine.flow.rest? s.engine.flow.nodes.length (some start) = some place) :
    Heads place s.engine.flow.nodes.length s.start := by
  rw [start_of_idle hidle]
  refine absorb_heads (s := { s with observed := s.current.id })
    (opening_id hs.builtin s.current) ?_
  have hbegun : (begun s.engine s.current).Fluent := ⟨⟨rfl, hc⟩, hv.seed _ _⟩
  have hmem : ∀ n ∈ some start, n ∈ s.engine.flow.nodes := by
    rintro _ ⟨⟩
    exact Flow.mem_of_startNode? hstart
  have hfree : (begun s.engine s.current).processing = false := hp
  simp only [opening, hstart]
  exact (continueFrom_heads hs hfree hbegun hmem hrest).after _

/-- An answer takes a run from a step that every answer leads on from to one of its exits, and on to
where the ways come to rest from there. -/
theorem send_heads (hs : s.engine.Sturdy) (hacc : s.engine.flow.Accepted)
    (hpolicy : s.engine.settings.unmatchedPolicy = .firstEdge)
    (harr : s.current.Arrived (some node)) (hn : node ∈ s.engine.flow.nodes) (ha : node.Asks)
    (ho : s.engine.flow.Open node) (text : String) :
    ∃ exit ∈ s.engine.flow.exits node, ∀ place,
      s.engine.flow.rest? s.engine.flow.nodes.length exit = some place →
      Heads place s.engine.flow.nodes.length (s.send text) := by
  obtain ⟨hwaiting, hcurrent⟩ := harr.stands
  have hnode := hacc.bind_node? hn hcurrent
  have hanswered : (answered s.current text).Fluent := ⟨⟨rfl, harr.cancelled⟩, harr.vars⟩
  obtain ⟨r, exit, hexit, htake, htold, hlive⟩ :=
    Engine.take_exits hs hpolicy hn ha ho hanswered text
  have hprocessing : r.processing = false := htold.processing.trans harr.processing
  refine ⟨exit, hexit, fun place hrest => ?_⟩
  rw [send_of_waiting ⟨hwaiting, harr.processing⟩]
  refine absorb_heads (reply_id hs.builtin _ _) ?_
  simp only [reply, hnode, htake]
  exact (continueFrom_heads hs hprocessing hlive (Flow.mem_of_mem_exits hexit) hrest).after _

theorem answer_heads {p : Pending} (hs : s.engine.Sturdy) (hrun : p.run = s.current.id)
    (hseeks : p.node.SeeksEffect) (hle : steps ≤ s.engine.flow.nodes.length)
    (h : Heads place steps (s, .waiting p)) {result : EffectResult}
    (hpass : s.engine.Passes p.node result) :
    ∃ fewer < steps, Heads place fewer (s.answer p (.ok result)) := by
  obtain ⟨hl, -, -, rest, hlt, hrest⟩ := h
  have hfound : s.run? p.run = some s.current := by rw [run?, if_pos hrun.symm]
  have hid := (Engine.takeUp_keeps Follows.lasting (Engine.loyal_of_nil hs.builtin) hseeks p.request
    (.ok result) s.current).run.id
  have hbound : rest ≤ s.engine.bound := by
    unfold Engine.bound
    omega
  refine ⟨rest, hlt, ?_⟩
  simp only [answer, hfound]
  exact absorb_heads
    (s := s.emitFor p.observed [Engine.measured p.node p.request (.ok result)]) hid
    (Engine.takeUp_heads hs hseeks hl hpass hbound hrest p.request)

end Session

namespace Conversation

variable {sort : Gateway → Prop} {s : Session} {done : Session × Outcome} {g : Gateway}
  {place : Option Node} {steps effects : Nat}

theorem serve_arrives (ho : Gateway.Obliging s.engine sort) (hs : s.engine.Sturdy)
    (hle : steps ≤ s.engine.flow.nodes.length) (heffects : steps ≤ effects) (hg : sort g)
    (hc : s.Continues done) (h : Session.Heads place steps done) :
    sort (serve effects g done).1 ∧ (serve effects g done).2.1.current.Arrived place := by
  -- on the effects that may be served; after each fewer steps are left
  induction effects generalizing steps g done with
  | zero =>
      obtain ⟨s', outcome⟩ := done
      cases outcome with
      | returned snapshot => exact ⟨hg, h⟩
      | endless => exact h.elim
      | waiting p =>
          obtain ⟨-, -, -, rest, hlt, -⟩ := h
          omega
  | succ effects ih =>
      obtain ⟨s', outcome⟩ := done
      cases outcome with
      | returned snapshot => exact ⟨hg, h⟩
      | endless => exact h.elim
      | waiting p =>
          obtain ⟨hrun, hseeks⟩ := hc.waiting p rfl
          have hengine : s'.engine = s.engine := hc.engine
          have hnode := h.2.1
          obtain ⟨run, hasking⟩ := h.2.2.1
          rw [hengine] at hnode hasking
          obtain ⟨result, hresult, hpass⟩ := ho.result hg hnode hasking
          have hkept := ho.kept hg hnode hasking
          have hown : p.run = s'.current.id := hrun.trans hc.id.symm
          obtain ⟨fewer, hfewer, hheads⟩ := Session.answer_heads (s := s') (hengine ▸ hs) hown
            hseeks (hengine ▸ hle) h (hengine ▸ hpass)
          have hanswer := Session.answer_continues (s := s') (hengine ▸ hs.builtin) hown hseeks
            (.ok result)
          simp only [serve, hresult]
          exact ih (by omega) (by omega) hkept (hc.trans hanswer) hheads

theorem carry_arrives {c : Conversation} (ho : Gateway.Obliging c.session.engine sort)
    (hs : c.session.engine.Sturdy) (hg : sort c.gateway) (call : Call)
    (h : Session.Heads place c.session.engine.flow.nodes.length (call.on c.session)) :
    sort (c.carry call.on).1.gateway ∧ (c.carry call.on).1.session.current.Arrived place := by
  have hbound : c.session.engine.flow.nodes.length ≤ c.bound :=
    (Nat.le_succ _).trans (Nat.le_mul_of_pos_right _ (by omega))
  exact serve_arrives ho hs (Nat.le_refl _) hbound hg (Session.call_continues hs.builtin call) h

/-- A conversation that so many answers are enough to end, whatever they are. -/
structure Within (e : Engine) (sort : Gateway → Prop) (answers : Nat) (c : Conversation) :
    Prop where
  engine : c.session.engine = e
  gateway : sort c.gateway
  arrived : ∃ next place, (∀ n ∈ next, n ∈ e.flow.nodes) ∧
    e.flow.finishes answers next = true ∧
    e.flow.rest? e.flow.nodes.length next = some place ∧ c.session.current.Arrived place

variable {e : Engine} {c : Conversation} {answers : Nat}

/-- Such a conversation is over, or it waits at a question that every answer leads on from. -/
theorem Within.cases (h : Within e sort answers c) :
    c.session.current.Arrived none ∨ ∃ node ∈ e.flow.nodes, ∃ fewer,
      c.session.current.Arrived (some node) ∧ node.Asks ∧ answers = fewer + 1 ∧
      e.flow.Open node ∧ ∀ exit ∈ e.flow.exits node, e.flow.finishes fewer exit = true := by
  obtain ⟨next, place, hn, hfinishes, hrest, harr⟩ := h.arrived
  rcases Flow.finishes_cases hfinishes with hend | ⟨node, fewer, hfewer, hasks, hopen, hall⟩
  · cases hrest.symm.trans hend
    exact .inl harr
  · cases hrest.symm.trans hasks
    obtain ⟨hmem, ha⟩ := Flow.asks_of_rest? hn hasks
    exact .inr ⟨node, hmem, fewer, harr, ha, hfewer, hopen, hall⟩

theorem Within.stands (h : Within e sort answers c) :
    (c.session.current.status = .completed ∨ c.session.current.status = .waiting ∧
      ∃ node ∈ e.flow.nodes, node.Asks ∧ c.session.current.current = some node.id) ∧
    (answers = 0 → c.session.current.status = .completed) := by
  obtain hend | ⟨node, hn, fewer, hasked, ha, hfewer, -⟩ := h.cases
  · exact ⟨.inl hend.stands, fun _ => hend.stands⟩
  · exact ⟨.inr ⟨hasked.stands.1, node, hn, ha, hasked.stands.2⟩, fun hnone => by omega⟩

theorem carry_of_returned {op : Session → Session × Outcome}
    (h : op c.session = c.session.unchanged) : (c.carry op).1 = c := by
  unfold carry
  rw [h]
  cases c.bound <;> rfl

theorem within_of_heads (ho : Gateway.Obliging e sort) (hs : e.Sturdy)
    (hengine : c.session.engine = e) (hg : sort c.gateway) (call : Call) {next : Option Node}
    (hn : ∀ n ∈ next, n ∈ e.flow.nodes) (hfinishes : e.flow.finishes answers next = true)
    (h : ∀ place, e.flow.rest? e.flow.nodes.length next = some place →
      Session.Heads place e.flow.nodes.length (call.on c.session)) :
    Within e sort answers (c.carry call.on).1 ∧
      ∃ place, e.flow.rest? e.flow.nodes.length next = some place ∧
        (c.carry call.on).1.session.current.Arrived place := by
  subst hengine
  have hrests : ∃ place, c.session.engine.flow.rest? c.session.engine.flow.nodes.length next =
      some place := by
    rcases Flow.finishes_cases hfinishes with hend | ⟨node, -, -, hasks, -⟩
    · exact ⟨_, hend⟩
    · exact ⟨_, hasks⟩
  obtain ⟨place, hrest⟩ := hrests
  obtain ⟨hsort, harr⟩ := carry_arrives ho hs hg call (h place hrest)
  have hengine := (carry_continues c hs.builtin call).engine
  exact ⟨⟨hengine, hsort, next, place, hn, hfinishes, hrest, harr⟩, place, hrest, harr⟩

theorem start_within (ho : Gateway.Obliging e sort) (hs : e.Sturdy) {entry : Node}
    (hstart : e.flow.startNode? = some entry)
    (hfinishes : e.flow.finishes answers (some entry) = true) (store : Option RunStore)
    {g : Gateway} (hg : sort g) :
    let c := (start { session := .make e store, gateway := g }).1
    Within e sort answers c ∧ ∃ place,
      e.flow.rest? e.flow.nodes.length (some entry) = some place ∧
        c.session.current.Arrived place := by
  refine within_of_heads ho hs rfl hg .start ?_ hfinishes fun place hrest => ?_
  · rintro _ ⟨⟩
    exact Flow.mem_of_startNode? hstart
  · have hworded : Variables.Worded [] := by simp [Variables.Worded]
    exact Session.start_heads (s := .make e store) hs rfl rfl rfl hworded hstart hrest

theorem Within.send (h : Within e sort answers c) (ho : Gateway.Obliging e sort) (hs : e.Sturdy)
    (hacc : e.flow.Accepted) (hpolicy : e.settings.unmatchedPolicy = .firstEdge) (text : String) :
    Within e sort (answers - 1) (c.send text).1 := by
  have hengine := h.engine
  obtain harr | ⟨node, hn, fewer, harr, ha, rfl, hopen, hall⟩ := h.cases
  · -- a run that is over takes no answer
    have hstatus : c.session.current.status = .completed := harr.stands
    have hover : ¬ (Call.send text).FitsRun c.session.current := by
      simp [Call.FitsRun, hstatus]
    rw [Conversation.send, carry_of_returned (Session.send_of_not_waiting hover)]
    have hends : e.flow.finishes (answers - 1) none = true := by
      cases answers - 1 <;> simp [Flow.finishes, Flow.rest?]
    exact ⟨h.engine, h.gateway, none, none, by simp, hends, by simp [Flow.rest?], harr⟩
  · subst hengine
    obtain ⟨exit, hexit, hheads⟩ := Session.send_heads hs hacc hpolicy harr hn ha hopen text
    exact (within_of_heads ho hs rfl h.gateway (.send text) (Flow.mem_of_mem_exits hexit)
      (hall exit hexit) hheads).1

def sendAll (c : Conversation) (texts : List String) : Conversation :=
  texts.foldl (fun c text => (c.send text).1) c

theorem Within.sendAll (h : Within e sort answers c) (ho : Gateway.Obliging e sort) (hs : e.Sturdy)
    (hacc : e.flow.Accepted) (hpolicy : e.settings.unmatchedPolicy = .firstEdge)
    (texts : List String) : Within e sort (answers - texts.length) (c.sendAll texts) := by
  induction texts generalizing answers c with
  | nil => exact h
  | cons text texts ih =>
      have hrest := ih (h.send ho hs hacc hpolicy text)
      rw [List.length_cons, Nat.add_comm, ← Nat.sub_sub]
      exact hrest

end Conversation

/-- A gateway that simulates the effects of steps in a mode and is left as it is. -/
def Gateway.Mocks (g : Gateway) (mode : Mode) : Prop :=
  ∀ r : EffectRequest, r.Regular mode → g.invoke r = (.ok r.simulated, g)

theorem Engine.exists_str_of_vistaPayload (e : Engine) (run : Run) {c : ActionConfig}
    (h : ∀ f ∈ c.vistaFields, ∃ text, f.2 = .str text) :
    ∀ f ∈ e.vistaPayload run c, ∃ text, f.2 = .str text := by
  intro f hf
  rcases Bindings.mem_of_merge hf with hf | hf
  · rw [List.mem_singleton.mp hf]
    exact ⟨_, rfl⟩
  · obtain ⟨g, hg, rfl⟩ := List.mem_map.mp (List.mem_of_mem_filter hf)
    obtain ⟨text, htext⟩ := h g hg
    exact ⟨e.fill run text, by rw [htext]; rfl⟩

theorem hasText_mockVista {payload : Payload} (h : ∀ f ∈ payload, ∃ text, f.2 = .str text) :
    (mockVista payload).data.hasText = true := by
  have htexts : ∀ f ∈ payload, ∀ depth, f.2.faultWithin? false depth = none := by
    intro f hf depth
    obtain ⟨text, htext⟩ := h f hf
    rw [htext]
    rfl
  rw [Json.hasText_eq_true]
  refine Json.faultWithin?_object.mpr fun f hf => ?_
  rcases List.mem_cons.mp hf with rfl | hf
  · rfl
  rcases List.mem_pair.mp hf with rfl | rfl
  · unfold Payload.get
    cases hget : Bindings.get? "codigo" payload with
    | none => rfl
    | some v => exact htexts _ (Bindings.mem_of_get? hget) _
  · exact Json.faultWithin?_object.mpr fun f hf => htexts f (List.mem_of_mem_filter hf) _

/-- What is simulated of an update of texts can be told: its data are these texts. -/
theorem Engine.Asking.passes_simulated {e : Engine} {node : Node} {run : Run}
    {request : EffectRequest} (h : e.Asking node run request) (hn : node.sendsTexts = true) :
    e.Passes node request.simulated := by
  refine ⟨.inl request.simulated_success, ?_⟩
  cases h with
  | vista hc =>
      refine obstacle?_of_tellable node ?_
      rintro _ ⟨⟩ -
      have hdata := hasText_mockVista
        (exists_str_of_vistaPayload e run (Node.exists_str_of_sendsTexts hn hc))
      cases e.mode with
      | real => exact hdata
      | mock => rfl
  | integration hc => simp [obstacle?, hc]

theorem Gateway.Mocks.obliging {g : Gateway} {e : Engine} (h : g.Mocks e.mode)
    (hn : ∀ node ∈ e.flow.nodes, node.sendsTexts = true) : Obliging e (· = g) where
  result := by
    rintro _ node run request rfl hmem hasking
    exact ⟨request.simulated, by rw [h request hasking.regular],
      hasking.passes_simulated (hn node hmem)⟩
  kept := by
    rintro _ node run request rfl - hasking
    rw [h request hasking.regular]

namespace Template

variable {t : Template} {settings : Settings}

def engine (t : Template) (settings : Settings) : Engine := { flow := t.flow, settings := settings }

def conversation (t : Template) (settings : Settings) (store : Option RunStore) (g : Gateway) :
    Conversation := { session := .make (t.engine settings) store, gateway := g }

theorem engine_sturdy (h : t ∈ all) (settings : Settings) : (t.engine settings).Sturdy :=
  ⟨rfl, fun node hn => by
    obtain ⟨hsturdy, hsends⟩ := sturdy h node hn
    obtain ⟨hfit, hnamed⟩ := Node.fit_of_sturdy hsturdy
    exact ⟨hfit, hnamed, Node.worded_of_sturdy hsturdy hsends⟩⟩

theorem mocks_obliging (h : t ∈ all) {g : Gateway} (hg : g.Mocks settings.mode) :
    Gateway.Obliging (t.engine settings) (· = g) :=
  Gateway.Mocks.obliging hg fun node hn => (sturdy h node hn).2

theorem mem_of_find? {id : String} (h : find? id = some t) : t ∈ all ∧ t.flow.id = id :=
  ⟨List.mem_of_find?_eq_some h, by simpa using List.find?_some h⟩

/-- A run of a built-in flow starts with a question, and so many answers are enough to end it. -/
theorem start_waits (h : t ∈ all) (settings : Settings) (store : Option RunStore) {g : Gateway}
    (hg : g.Mocks settings.mode) :
    let c := (t.conversation settings store g).start.1
    Conversation.Within (t.engine settings) (· = g) t.answers c ∧
      c.session.current.status = .waiting := by
  obtain ⟨entry, hstart, hasks, hfinishes⟩ := finishes h
  obtain ⟨hwithin, place, hrest, harr⟩ :=
    Conversation.start_within (mocks_obliging h hg) (engine_sturdy h settings) hstart hfinishes
      store rfl
  have hnot : t.flow.rest? t.flow.nodes.length (some entry) ≠ some none := by
    simpa [Flow.finishes] using hasks
  refine ⟨hwithin, ?_⟩
  cases place with
  | none => exact absurd hrest hnot
  | some node => exact harr.stands.1

/-- With simulated effects, and where an answer that matches no branch takes the first way out, no
run of a built-in flow fails, whatever the answers are. It waits at questions only, for one answer
at least, and it is complete after two answers, or after one where there is one question. -/
theorem find?_ends {id : String} (h : find? id = some t)
    (hp : settings.unmatchedPolicy = .firstEdge) (store : Option RunStore) {g : Gateway}
    (hg : g.Mocks settings.mode) (texts : List String) :
    let run := ((t.conversation settings store g).start.1.sendAll texts).session.current
    run.status ≠ .failed ∧
      (run.status = .completed ∨ run.status = .waiting ∧
        ∃ node ∈ t.flow.nodes, node.Asks ∧ run.current = some node.id) ∧
      (texts = [] → run.status = .waiting) ∧
      (2 ≤ texts.length → run.status = .completed) ∧
      (id ∈ askingOnce → texts ≠ [] → run.status = .completed) := by
  obtain ⟨hmem, rfl⟩ := mem_of_find? h
  have ho := mocks_obliging hmem hg
  obtain ⟨hwithin, hwaits⟩ := start_waits hmem settings store hg
  have hlater := hwithin.sendAll ho (engine_sturdy hmem settings) (breach?_eq_none hmem) hp texts
  intro run
  obtain ⟨hstands, hover⟩ := hlater.stands
  refine ⟨?_, hstands, ?_, fun hle => hover ?_, fun hid hne => hover ?_⟩
  · rcases hstands with hstatus | ⟨hstatus, -⟩
    · rw [hstatus]
      decide
    · rw [hstatus]
      decide
  · rintro rfl
    exact hwaits
  · unfold answers
    split <;> omega
  · have hsome := List.length_pos_iff.mpr hne
    rw [answers, if_pos hid]
    omega

/-- The answer to a question about the way ends a run of the questions and answers. -/
theorem frequentQuestions_ends : find? "faq-automatico" = some frequentQuestions ∧
    (Gateway.builtin "" "" {}).Mocks .mock ∧
    ((frequentQuestions.conversation default none (Gateway.builtin "" "" {})).start.1.sendAll
      ["Onde fica?"]).session.current.status = .completed := by
  have hfind : find? "faq-automatico" = some frequentQuestions := by decide +kernel
  have hmocks : (Gateway.builtin "" "" {}).Mocks .mock := fun r hr => Gateway.invoke_builtin hr ..
  have hpolicy : (default : Settings).unmatchedPolicy = .firstEdge := rfl
  obtain ⟨-, -, -, -, hone⟩ := find?_ends hfind hpolicy none hmocks ["Onde fica?"]
  exact ⟨hfind, hmocks, hone (by decide) (List.cons_ne_nil _ _)⟩

end Template
end Dialogue
