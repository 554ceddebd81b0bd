import Dialogue.Proofs.Run.Metric
import Dialogue.Proofs.Run.Stretch
import Dialogue.Proofs.Session.Attribution
import Dialogue.Proofs.Session.Invariant

/-!
# What metrics tell of effects

Every effect that a session asked for is served once and then has one metric and one entry in the
log of its run, or it is still held (`Metered`). The entry says whether the effect succeeded and
could be told, the metric whether the gateway had a result: the two disagree on the failures that a
gateway returns and on the results that cannot be told, and on nothing else (`play_metered`).
-/
namespace Dialogue

open Run (Told)

/-- The metric of an effect says of its step and operation whether it succeeded. -/
structure Event.Reports (node : Node) (request : EffectRequest) (flag : Bool) (x : Event) :
    Prop where
  name : x.name = "execution_metric"
  operation : Bindings.get? "operation" x.fields = some (.str ("effect." ++ request.effect))
  node : Bindings.get? "node_id" x.fields = some (.str node.id)
  success : Bindings.get? "success" x.fields = some (.bool flag)
  level : x.level = if flag = true then .info else .warning

/-- A metric tells a result from an exception, not a success from a failure. -/
theorem Engine.measured_reports (node : Node) (request : EffectRequest) (outcome : EffectOutcome) :
    (measured node request outcome).Reports node request outcome.isOk := by
  cases outcome with
  | error f => exact ⟨rfl, rfl, rfl, rfl, rfl⟩
  | ok result => exact ⟨rfl, rfl, rfl, rfl, rfl⟩

/-- A result came back, and it was a failure or cannot be told. -/
def Engine.Misjudges (e : Engine) (node : Node) (outcome : EffectOutcome) : Prop :=
  ∃ result, outcome = .ok result ∧
    (result.success = false ∨ (e.obstacle? node (.ok result)).isSome = true)

theorem Engine.isOk_eq_succeeds_iff (e : Engine) (node : Node) (outcome : EffectOutcome) :
    Except.isOk outcome = e.succeeds node outcome ↔ ¬ e.Misjudges node outcome := by
  cases outcome with
  | error f => simp [Except.isOk, Except.toBool, succeeds, Misjudges]
  | ok result =>
      cases hs : result.success <;>
        cases ho : e.obstacle? node (.ok result) <;>
          simp [Except.isOk, Except.toBool, succeeds, Misjudges, hs, ho]

namespace Session

variable {e : Engine} {run : Run} {entries : List LogEntry}

theorem opening_tells (ha : e.flow.Accepted) (hh : e.handlers = [])
    (h : run.effects e.flow = entries) : (opening e run).Tells e entries := by
  refine Leg.Tells.after ?_ (by simp [Event.isMetric])
  split
  · exact ⟨by simp [Event.isMetric], .full h, by simp⟩
  · rename_i node hstart
    have hmem : ∀ n ∈ some node, n ∈ e.flow.nodes := by
      rintro n ⟨⟩
      exact Flow.mem_of_startNode? hstart
    have hbegun : (begun e run).effects e.flow = entries := (Run.effects_congr rfl).trans h
    exact Engine.continueFrom_tells ha hh hmem hbegun

theorem reply_tells (ha : e.flow.Accepted) (hh : e.handlers = []) {node : Node}
    (hn : node ∈ e.flow.nodes) (hasks : node.Asks) (hcur : run.current = some node.id)
    (h : run.effects e.flow = entries) (text : String) : (reply e run text).Tells e entries := by
  have hnode := ha.bind_node? hn hcur
  simp only [reply, hnode]
  refine Leg.Tells.after ?_ (by simp [Event.isMetric])
  have hquiet : node.callsOut = false := by
    rw [Bool.eq_false_iff]
    exact fun hcalls => Node.not_asks_of_callsOut hcalls hasks
  have htold {r : Run} (hr : Told node 1 (answered run text) r) : r.effects e.flow = entries :=
    (hr.effects ha hn hquiet).trans ((Run.effects_congr rfl).trans h)
  have htaken := Engine.take_answered e hasks (answered run text) text
  generalize take e node (answered run text) text = taken at htaken ⊢
  cases htaken with
  | walkOn hr hnext =>
      exact Engine.continueFrom_tells ha hh (fun n hn => (hnext n hn).mem) (htold hr)
  | waitMore hr =>
      exact ⟨by simp, .full ((Run.effects_congr (Run.log_suspend _)).trans (htold hr)), by simp⟩
  | failed f hr =>
      have heffects := htold hr
      exact ⟨by simp [Event.isMetric], .full heffects, by simp⟩

/-! ### Metrics -/

def metrics (s : Session) : List RunEvent := s.events.filter (·.event.isMetric)

variable {s : Session} {leg : Leg}

theorem metrics_emit {events : List Event} (h : ∀ x ∈ events, x.isMetric = false) :
    (s.emit events).metrics = s.metrics := by
  have hnone : (events.map (RunEvent.mk s.observed)).filter (·.event.isMetric) = [] := by
    rw [List.filter_eq_nil_iff]
    intro x hx
    obtain ⟨event, hevent, rfl⟩ := List.mem_map.mp hx
    simp [h event hevent]
  rw [metrics, emit, emitFor, List.filter_append, hnone, List.append_nil, metrics]

end Session

namespace Held

def metric (serve : Serving) (w : Held) : RunEvent :=
  ⟨w.pending.observed, Engine.measured w.pending.node w.pending.request (w.outcome serve)⟩

/-- The operation waits, or waited, for what its step demanded of a run of the session. -/
structure Issued (e : Engine) (s : Session) (w : Held) : Prop where
  request : s.requests[w.number]? = some w.pending.request
  node : w.pending.node ∈ e.flow.nodes
  demanded : ∃ r, e.demand? w.pending.node r = some w.pending.request
  run : w.pending.run ∈ s.runs.map (·.id)
  observed : w.pending.observed = w.pending.run

theorem Issued.mono {e : Engine} {s s' : Session} {w : Held} (h : w.Issued e s)
    (hrequests : s.requests <+: s'.requests) (hruns : s.runs.map (·.id) ⊆ s'.runs.map (·.id)) :
    w.Issued e s' where
  request := by
    obtain ⟨more, hmore⟩ := hrequests
    have hlt := (List.getElem?_eq_some_iff.mp h.request).1
    rw [← hmore, List.getElem?_append_left hlt, h.request]
  node := h.node
  demanded := h.demanded
  run := hruns h.run
  observed := h.observed

theorem Issued.callsOut {e : Engine} {s : Session} {w : Held} (h : w.Issued e s) :
    w.pending.node.callsOut = true := by
  obtain ⟨r, hr⟩ := h.demanded
  rw [← Engine.isSome_demand? e w.pending.node r, hr]
  rfl

/-- The entry tells what the operation came to. -/
def Noted (e : Engine) (serve : Serving) (w : Held) (x : LogEntry) : Prop :=
  x.Tells e w.pending.node (w.outcome serve)

end Held

namespace Session

theorem metrics_measure (s : Session) (serve : Serving) (w : Held) :
    (s.measure serve w).metrics = s.metrics ++ [w.metric serve] := by
  rw [metrics, measure, emitFor, List.filter_append, metrics]
  rfl

end Session

namespace Scene

/-- The operations that a cue brings the outcome for. -/
def settles (h : Scene) : Cue → List Held
  | .settle place => h.held[place]?.toList
  | _ => []

/-- The operations that have their outcomes by the end of a schedule, in the order of these. -/
def settled (serve : Serving) (h : Scene) : List Cue → List Held
  | [] => []
  | cue :: cues =>
    h.settles cue ++ ((h.step serve cue).map fun h' => h'.settled serve cues).getD []

/-- The served operations have their metrics and their entries, and all the others are held. -/
structure Metered (serve : Serving) (e : Engine) (h : Scene) (served : List Held) : Prop where
  metrics : h.session.metrics = served.map (·.metric serve)
  numbers : ((served ++ h.held).map (·.number)).Perm (List.range h.session.requests.length)
  issued : ∀ w ∈ served ++ h.held, w.Issued e h.session
  entries : ∀ r ∈ h.session.runs, ∃ xs,
    List.Forall₂ (Held.Noted e serve) (served.filter (·.pending.run = r.id)) xs ∧
      r.Accounts e.flow xs

variable {serve : Serving} {e : Engine} {h h' : Scene} {cue : Cue} {s : Session}
  {held served : List Held} {leg : Leg}

theorem settles_call (h : Scene) (c : Call) : h.settles (.call c) = [] := rfl

theorem settles_reset (h : Scene) : h.settles .reset = [] := rfl

theorem settles_place {place : Nat} {w : Held} (hw : h.held[place]? = some w) :
    h.settles (.settle place) = [w] := by simp [settles, hw]

theorem perm_of_place {place : Nat} {w : Held} (hw : h.held[place]? = some w) :
    ([w] ++ h.held.eraseIdx place).Perm h.held := by
  obtain ⟨hlt, rfl⟩ := List.getElem?_eq_some_iff.mp hw
  exact List.getElem_cons_eraseIdx_perm hlt

namespace Opens

theorem settles_perm (ho : h.Opens serve cue s held leg) :
    (h.settles cue ++ held).Perm h.held := by
  cases ho with
  | start => exact .refl _
  | send => exact .refl _
  | settle hw hown => exact settles_place hw ▸ perm_of_place hw

theorem settles_own (ho : h.Opens serve cue s held leg) :
    ∀ w ∈ h.settles cue, w.pending.run = h.session.current.id := by
  cases ho with
  | start => simp [settles]
  | send => simp [settles]
  | settle hw hown => simpa [settles_place hw] using hown

theorem metrics (ho : h.Opens serve cue s held leg) :
    s.metrics = h.session.metrics ++ (h.settles cue).map (·.metric serve) := by
  cases ho with
  | start => exact (List.append_nil _).symm
  | send => exact (List.append_nil _).symm
  | settle hw hown =>
      rw [settles_place hw]
      exact h.session.metrics_measure serve _

theorem current_ne_failed (ho : h.Opens serve cue s held leg) (hs : h.Sound e) :
    h.session.current.status ≠ .failed := by
  cases ho with
  | start hidle => simp [hidle]
  | send hf => simp [hf.1]
  | settle hw hown =>
      have hat := hs.atStep (List.mem_of_getElem? hw) List.mem_cons_self hown.symm
      simp [hat.status]

theorem tells (ho : h.Opens serve cue s held leg) (hs : h.Sound e) (ha : e.flow.Accepted)
    (hh : e.handlers = []) (hi : ∀ w ∈ h.held, w.Issued e h.session) :
    ∃ xs, List.Forall₂ (Held.Noted e serve) (h.settles cue) xs ∧
      leg.Tells e (h.session.current.effects e.flow ++ xs) := by
  cases ho with
  | start hidle =>
      refine ⟨[], .nil, ?_⟩
      rw [hs.engine, List.append_nil]
      exact Session.opening_tells ha hh rfl
  | @send text hf =>
      obtain ⟨node, hmem, hasks, hcur, -⟩ := hs.asks_of_waiting hf.1
      refine ⟨[], .nil, ?_⟩
      rw [hs.engine, List.append_nil]
      exact Session.reply_tells ha hh hmem hasks hcur rfl text
  | @settle place w hw hown =>
      have hissued := hi w (List.mem_of_getElem? hw)
      obtain ⟨x, hx, hleg⟩ := Engine.takeUp_tells ha hh hissued.node hissued.callsOut
        w.pending.request (w.outcome serve) h.session.current
      rw [settles_place hw, hs.engine]
      exact ⟨[x], .cons hx .nil, hleg⟩

end Opens

namespace Metered

theorem make (serve : Serving) (e : Engine) (store : Option RunStore) :
    (Scene.make e store).Metered serve e [] where
  metrics := rfl
  numbers := .refl _
  issued := by simp [Scene.make]
  entries := by
    intro r hr
    cases List.mem_singleton.mp hr
    exact ⟨[], .nil, .full rfl⟩

theorem filter_own {done : List Held} {id : String} (h : ∀ w ∈ done, w.pending.run = id) :
    (served ++ done).filter (·.pending.run = id) = served.filter (·.pending.run = id) ++ done := by
  have hall : done.filter (·.pending.run = id) = done := List.filter_eq_self.mpr (by simpa using h)
  rw [List.filter_append, hall]

theorem filter_other {done : List Held} {id : String} (h : ∀ w ∈ done, w.pending.run ≠ id) :
    (served ++ done).filter (·.pending.run = id) = served.filter (·.pending.run = id) := by
  have hnone : done.filter (·.pending.run = id) = [] :=
    List.filter_eq_nil_iff.mpr (by simpa using h)
  rw [List.filter_append, hnone, List.append_nil]

theorem regroup (served : List Held) {done rest : List Held} (hp : (done ++ rest).Perm h.held) :
    ((served ++ done) ++ rest).Perm (served ++ h.held) := by
  rw [List.append_assoc]
  exact hp.append_left served

/-- The run that a cue takes on has the entries of what the cue settles, and no other has. -/
theorem opened (hm : h.Metered serve e served) (hs : h.Sound e) (ha : e.flow.Accepted)
    (hh : e.handlers = []) (ho : h.Opens serve cue s held leg) :
    (Scene.mk (s.moved leg) held).Metered serve e (served ++ h.settles cue) := by
  have hid := hs.id_of_opens (Engine.loyal_of_nil hh) ho
  have hperm := regroup served ho.settles_perm
  obtain ⟨xs, hxs, hleg⟩ :=
    ho.tells hs ha hh fun w hw => hm.issued w (List.mem_append_right _ hw)
  have hruns : (s.moved leg).runs = leg.run :: h.session.discarded := by
    rw [ho.frame]
    rfl
  have hrequests : (s.moved leg).requests = h.session.requests := by
    rw [ho.frame]
    rfl
  refine ⟨?_, ?_, ?_, ?_⟩
  · rw [List.map_append, ← hm.metrics, ← ho.metrics]
    exact Session.metrics_emit hleg.silent
  · rw [hrequests]
    exact (hperm.map _).trans hm.numbers
  · intro w hw
    refine (hm.issued w (hperm.subset hw)).mono (hrequests ▸ List.prefix_rfl) ?_
    rw [hruns, List.map_cons, hid]
    exact List.Subset.refl _
  · intro r hr
    rcases List.mem_cons.mp (hruns ▸ hr) with rfl | hr
    · obtain ⟨ys, hys, haccounts⟩ := hm.entries _ List.mem_cons_self
      have hleft := hleg.accounts
      rw [haccounts.effects_eq (ho.current_ne_failed hs)] at hleft
      rw [hid, filter_own ho.settles_own]
      exact ⟨ys ++ xs, List.rel_append hys hxs, hleft⟩
    · have hne := hs.numbered.current_id_ne hr
      rw [filter_other fun w hw => (ho.settles_own w hw).trans_ne hne.symm]
      exact hm.entries r (List.mem_cons_of_mem _ hr)

theorem persist (hm : (Scene.mk s held).Metered serve e served) (id : String) :
    (Scene.mk (s.persist id) held).Metered serve e served := by
  obtain ⟨store, persisted, hpersist⟩ := s.persist_frame id
  rw [hpersist]
  refine ⟨hm.metrics, hm.numbers, fun w hw => ?_, hm.entries⟩
  exact (hm.issued w hw).mono List.prefix_rfl (List.Subset.refl _)

theorem asks (hm : (Scene.mk s held).Metered serve e served) {p : Pending}
    (hn : p.node ∈ e.flow.nodes) (hd : ∃ r, e.demand? p.node r = some p.request)
    (hr : p.run ∈ s.runs.map (·.id)) (ho : p.observed = p.run) :
    (Scene.mk { s with requests := s.requests ++ [p.request] }
      (held ++ [⟨s.requests.length, p⟩])).Metered serve e served := by
  refine ⟨hm.metrics, ?_, fun w hw => ?_, hm.entries⟩
  · rw [← List.append_assoc, List.map_append, List.length_append, List.length_singleton,
      List.range_succ]
    exact hm.numbers.append_right [s.requests.length]
  · rw [← List.append_assoc] at hw
    rcases List.mem_append.mp hw with hw | hw
    · exact (hm.issued w hw).mono (List.prefix_append _ _) (List.Subset.refl _)
    · rw [List.mem_singleton.mp hw]
      exact ⟨List.getElem?_concat_length, hn, hd, hr, ho⟩

theorem reset (hm : h.Metered serve e served) (hs : h.Sound e) :
    (Scene.mk h.session.reset h.held).Metered serve e served := by
  have hruns : h.session.reset.runs.map (·.id) =
      h.session.reset.current.id :: h.session.runs.map (·.id) := rfl
  have hissued : ∀ w ∈ served ++ h.held, w.Issued e h.session.reset := fun w hw =>
    (hm.issued w hw).mono List.prefix_rfl (hruns ▸ List.subset_cons_self _ _)
  refine ⟨hm.metrics, hm.numbers, hissued, fun r hr => ?_⟩
  rcases List.mem_cons.mp hr with rfl | hr
  · have hnone : served.filter (·.pending.run = h.session.reset.current.id) = [] := by
      refine List.filter_eq_nil_iff.mpr fun w hw => ?_
      have hold := (hm.issued w (List.mem_append_left _ hw)).run
      have hfresh := hs.numbered.reset_id_not_mem
      simp only [decide_eq_true_eq]
      exact fun heq => hfresh (heq ▸ hold)
    rw [hnone]
    exact ⟨[], .nil, .full rfl⟩
  · rcases List.mem_cons.mp hr with rfl | hr
    · obtain ⟨xs, hxs, haccounts⟩ := hm.entries h.session.current List.mem_cons_self
      exact ⟨xs, hxs, haccounts.congr rfl rfl rfl⟩
    · exact hm.entries r (List.mem_cons_of_mem _ hr)

/-- A discarded run that comes back has the entry of what it waited for. -/
theorem drained (hm : h.Metered serve e served) (hs : h.Sound e) (ha : e.flow.Accepted)
    (hh : e.handlers = []) {place : Nat} {w : Held} {run : Run} (hw : h.held[place]? = some w)
    (hrun : run ∈ h.session.discarded) (hid : run.id = w.pending.run)
    (hne : w.pending.run ≠ h.session.current.id) :
    (Scene.mk ((h.session.measure serve w).drained (w.leg serve h.session.engine run))
      (h.held.eraseIdx place)).Metered serve e (served ++ [w]) := by
  have hissued := hm.issued w (List.mem_append_right _ (List.mem_of_getElem? hw))
  have hruns : ((h.session.measure serve w).drained (w.leg serve h.session.engine run)).runs = _ :=
    Moves.runs_of_drained hs.toTracked hw hrun hid hne
  have hmoves : h.Moves serve (.settle place) _ := .drained hw hrun hid hne
  have hids := hmoves.ids hs.toTracked (Engine.loyal_of_nil hh) (by simp)
  have hput := (hs.drains serve hw hrun).run.id
  have hperm := regroup served (perm_of_place hw)
  obtain ⟨x, hx, hleg⟩ := Engine.takeUp_tells ha hh hissued.node hissued.callsOut
    w.pending.request (w.outcome serve) run
  rw [hs.engine] at hruns hids hput ⊢
  refine ⟨?_, (hperm.map _).trans hm.numbers, ?_, ?_⟩
  · rw [List.map_append, ← hm.metrics, List.map_singleton, ← Session.metrics_measure]
    exact Session.metrics_emit hleg.silent
  · intro v hv
    exact (hm.issued v (hperm.subset hv)).mono List.prefix_rfl fun id hr => hids ▸ hr
  · rw [hruns]
    intro r hr
    obtain ⟨r, hmem, rfl⟩ := List.mem_map.mp hr
    rw [Session.put_id]
    by_cases hsame : r.id = (w.leg serve e run).run.id
    · have heq : r = run :=
        hs.numbered.eq_of_id hmem (List.mem_cons_of_mem _ hrun) (hsame.trans hput)
      subst heq
      obtain ⟨xs, hxs, haccounts⟩ := hm.entries r hmem
      have hat := hs.atStep (List.mem_of_getElem? hw) hmem hid
      have hleft : (w.leg serve e r).run.Accounts e.flow (r.effects e.flow ++ [x]) := hleg.accounts
      rw [haccounts.effects_eq (by simp [hat.status])] at hleft
      rw [Session.put, if_pos hsame, filter_own (by simp [hid])]
      exact ⟨xs ++ [x], List.rel_append hxs (.cons hx .nil), hleft⟩
    · rw [Session.put_of_ne hsame, filter_other]
      · exact hm.entries r hmem
      · rw [hput, hid] at hsame
        simpa using Ne.symm hsame

end Metered

theorem Moves.metered (hmoves : h.Moves serve cue h') (hm : h.Metered serve e served)
    (hs : h.Sound e) (hv : h.Observes) (ha : e.flow.Accepted) (hh : e.handlers = []) :
    h'.Metered serve e (served ++ h.settles cue) := by
  cases hmoves with
  | @refused c hc =>
      rw [settles_call, List.append_nil]
      exact hm
  | reset =>
      rw [settles_reset, List.append_nil]
      exact hm.reset hs
  | returned ho hr => exact (hm.opened hs ha hh ho).persist _
  | @asks _ s _ leg node request ho hr =>
      have hl := Engine.loyal_of_nil hh
      obtain ⟨xs, -, hleg⟩ :=
        ho.tells hs ha hh fun w hw => hm.issued w (List.mem_append_right _ hw)
      obtain ⟨hn, hd⟩ := hleg.demanded node request hr
      have hobserved : s.observed = leg.run.id :=
        (hv.of_opens hs.toTracked ho).trans (hs.id_of_opens hl ho).symm
      exact (hm.opened hs ha hh ho).asks (p := ⟨leg.run.id, s.observed, node, request⟩) hn hd
        (List.mem_map_of_mem List.mem_cons_self) hobserved
  | drained hw hrun hid hne =>
      rw [settles_place hw]
      exact hm.drained hs ha hh hw hrun hid hne

theorem settled_cons {cues : List Cue} (hstep : h.step serve cue = some h') :
    h.settled serve (cue :: cues) = h.settles cue ++ h'.settled serve cues := by
  simp [settled, hstep]

theorem Metered.play (hm : h.Metered serve e served) (hs : h.Sound e) (hv : h.Observes)
    (ha : e.flow.Accepted) (hh : e.handlers = []) {cues : List Cue}
    (hplay : h.play serve cues = some h') :
    h'.Metered serve e (served ++ h.settled serve cues) := by
  -- on the schedule; what is served so far is carried along
  induction cues generalizing h served with
  | nil =>
      cases hplay
      rw [settled, List.append_nil]
      exact hm
  | cons cue cues ih =>
      rw [play_cons] at hplay
      obtain ⟨next, hnext, hrest⟩ := Option.bind_eq_some_iff.mp hplay
      have hl := Engine.loyal_of_nil hh
      have hmoves := hs.moves hl hnext
      rw [settled_cons hnext, ← List.append_assoc]
      exact ih (hmoves.metered hm hs hv ha hh) (hs.kept ha hh hmoves)
        (hmoves.observes hs.toTracked hl hv) hrest

/-- What is on record of the effects of a run once their outcomes were there. -/
structure Records (serve : Serving) (e : Engine) (h : Scene) (r : Run) (mine : List Held) :
    Prop where
  /-- Each has one metric, which says whether the gateway had a result. -/
  metrics : List.Forall₂ (fun w x => x.event.Reports w.pending.node w.pending.request
    (Except.isOk (w.outcome serve))) mine (h.session.metrics.filter (·.run = r.id))
  /-- Each has one entry, which says whether the effect succeeded and could be told. -/
  entries : ∃ xs, List.Forall₂ (Held.Noted e serve) mine xs ∧ r.Accounts e.flow xs
  /-- The metrics tell the successes of the log unless a result was a failure or could not be told,
  or a step could not ask. -/
  agree : (h.session.metrics.filter (·.run = r.id)).map
      (fun x => Bindings.get? "success" x.event.fields) =
        (r.effects e.flow).map (fun x => some (.bool x.success)) ↔
      (r.effects e.flow).length = mine.length ∧
        ∀ w ∈ mine, ¬ e.Misjudges w.pending.node (w.outcome serve)

namespace Metered

theorem metrics_of_run (hm : h.Metered serve e served) (id : String) :
    h.session.metrics.filter (·.run = id) =
      (served.filter (·.pending.run = id)).map (·.metric serve) := by
  rw [hm.metrics, List.filter_map]
  congr 1
  refine List.filter_congr fun w hw => ?_
  have hobserved := (hm.issued w (List.mem_append_left _ hw)).observed
  simp [Held.metric, hobserved]

/-- The flags of the entries that tell of served effects are those of their outcomes. -/
theorem flags_of_noted {mine : List Held} {xs : List LogEntry}
    (h : List.Forall₂ (Held.Noted e serve) mine xs) :
    xs.map (fun x => some (Json.bool x.success)) =
      mine.map fun w => some (.bool (e.succeeds w.pending.node (w.outcome serve))) := by
  induction h with
  | nil => rfl
  | cons hx _ ih => rw [List.map_cons, List.map_cons, hx.success, ih]

theorem records (hm : h.Metered serve e served) {r : Run} (hr : r ∈ h.session.runs) :
    h.Records serve e r (served.filter (·.pending.run = r.id)) := by
  obtain ⟨xs, hxs, haccounts⟩ := hm.entries r hr
  refine ⟨?_, ⟨xs, hxs, haccounts⟩, ?_⟩
  · rw [hm.metrics_of_run, List.forall₂_map_right_iff, List.forall₂_same]
    exact fun w _ => Engine.measured_reports ..
  · generalize hmine : served.filter (·.pending.run = r.id) = mine at hxs
    rw [hm.metrics_of_run, hmine, List.map_map]
    have hflags : mine.map ((fun x : RunEvent => Bindings.get? "success" x.event.fields) ∘
        Held.metric serve) = mine.map fun w => some (Json.bool (Except.isOk (w.outcome serve))) :=
      List.map_congr_left fun w _ =>
        (Engine.measured_reports w.pending.node w.pending.request (w.outcome serve)).success
    rw [hflags]
    cases haccounts with
    | full heffects =>
        rw [heffects, flags_of_noted hxs, List.map_inj_left]
        simp [hxs.length_eq, Engine.isOk_eq_succeeds_iff]
    | foiled heffects =>
        -- an entry without an effect is one too many
        have hlength := hxs.length_eq
        refine iff_of_false (fun heq => ?_) fun hboth => ?_
        · have hcount := congrArg List.length heq
          simp [heffects] at hcount
          omega
        · rw [heffects] at hboth
          simp at hboth
          omega

end Metered

/-- Each effect that a session asked for is held or was served. Those that were served have one
metric and one entry each, in the order in which their outcomes came; the metrics of a run tell the
successes of its log unless the gateway returned a failure or what has no text. -/
theorem play_metered (ha : e.flow.Accepted) (hh : e.handlers = []) (store : Option RunStore)
    (serve : Serving) (cues : List Cue) (hplay : (Scene.make e store).play serve cues = some h) :
    (((Scene.make e store).settled serve cues ++ h.held).map (·.number)).Perm
        (List.range h.session.requests.length) ∧
      (∀ w ∈ (Scene.make e store).settled serve cues ++ h.held, w.Issued e h.session) ∧
      ∀ r ∈ h.session.runs, h.Records serve e r
        (((Scene.make e store).settled serve cues).filter (·.pending.run = r.id)) := by
  have hm : h.Metered serve e ((Scene.make e store).settled serve cues) :=
    (Metered.make serve e store).play (.make e store) (.make e store) ha hh hplay
  exact ⟨hm.numbers, hm.issued, fun r hr => hm.records hr⟩

/-- A gateway that gives up on the first request and serves the second. -/
def recovering : Serving := fun n request =>
  if n = 0 then .error (.raised .runtime "down") else granting request

/-- The first effect has a warning and a failed entry, the second has neither. -/
theorem errand_metered : ∃ h, (Scene.make errand none).play recovering
      [.call .start, .settle 0, .reset, .call .start, .settle 0] = some h ∧
    ∀ r ∈ h.session.runs, (h.session.metrics.filter (·.run = r.id)).map
      (fun x => Bindings.get? "success" x.event.fields) =
        (r.effects errand.flow).map (fun x => some (.bool x.success)) := by
  obtain ⟨h, hplay, hcounts⟩ := Option.map_eq_some_iff.mp (show ((Scene.make errand none).play
    recovering [.call .start, .settle 0, .reset, .call .start, .settle 0]).map (fun h =>
      decide (∀ r ∈ h.session.runs, (r.effects errand.flow).length =
        (((Scene.make errand none).settled recovering
          [.call .start, .settle 0, .reset, .call .start, .settle 0]).filter
            (·.pending.run = r.id)).length)) = some true by decide +kernel)
  obtain ⟨-, -, hrecords⟩ := play_metered errand_accepted rfl none recovering _ hplay
  refine ⟨h, hplay, fun r hr =>
    (hrecords r hr).agree.mpr ⟨of_decide_eq_true hcounts r hr, fun w _ => ?_⟩⟩
  have htold : errand.obstacle? w.pending.node (granting w.pending.request) = none :=
    Engine.obstacle?_of_tellable _ (by rintro _ ⟨⟩ -; rfl)
  rintro ⟨result, hresult, hfails⟩
  rw [Held.outcome, recovering] at hresult
  split at hresult
  · cases hresult
  · rw [hresult] at htold
    cases hresult
    simp [htold] at hfails

/-- A gateway that returns a failure, as the one with the builtin effects does. -/
def rejecting : EffectRequest → EffectOutcome := fun _ => .ok (.failed "rejected")

/-- The entry of a rejected effect is a failure, its metric a success. -/
theorem errand_mismeasured : ((Scene.make errand none).play (fun _ => rejecting)
      [.call .start, .settle 0]).map (fun h =>
        ((h.session.current.effects errand.flow).map (·.success),
          h.session.metrics.map fun x =>
            (x.run, Bindings.get? "success" x.event.fields, x.event.level))) =
    some ([false], [("run-0", some (.bool true), .info)]) := by
  decide

end Scene
end Dialogue
