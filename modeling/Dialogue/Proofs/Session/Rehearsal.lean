import Dialogue.Proofs.Run.RealEffect
import Dialogue.Proofs.Run.Rehearsal
import Dialogue.Proofs.Session.Request
import Mathlib.Data.List.InsertIdx

/-!
# Rehearsing a session

Two sessions of a flow that are told the same and differ only in the mode and in what serves their
effects stay alike, as long as no handler of the host takes part and a failed effect does not halt
a run (`play_rehearsed`). A registry's gateway always answers, so this covers effects that succeed,
that fail, that give up and that nothing serves.
-/
namespace Dialogue

namespace Session

variable {e : Engine} {node : Node} {r s : Run} {real live : Bool}

/-! ### Answers -/

/-- What alike runs make of the same answer. -/
inductive Taken.Alike (flow : Flow) : Taken → Taken → Prop where
  | walkOn {r s : Run} (h : r.Alike flow s) (next : Option Node) :
      Taken.Alike flow (.walkOn r next) (.walkOn s next)
  | waitMore {r s : Run} (h : r.Alike flow s) : Taken.Alike flow (.waitMore r) (.waitMore s)
  | failed {r s : Run} (h : r.Alike flow s) (events more : List Event) :
      Taken.Alike flow (.failed r events) (.failed s more)

private theorem leaveBy_alike {flow : Flow} (h : r.Alike flow s) (next : Option Node) :
    Taken.Alike flow
      (if (Engine.leaveBy node r next).2.wait then .waitMore (Engine.leaveBy node r next).1
        else .walkOn (Engine.leaveBy node r next).1 (Engine.leaveBy node r next).2.next)
      (if (Engine.leaveBy node s next).2.wait then .waitMore (Engine.leaveBy node s next).1
        else .walkOn (Engine.leaveBy node s next).1 (Engine.leaveBy node s next).2.next) := by
  cases next with
  | none => exact .waitMore (h.say _ _ _)
  | some next => exact .walkOn h _

private theorem firstWayOut_alike {flow : Flow} (h : r.Alike flow s) (text : String) :
    Taken.Alike flow
      (if (e.firstWayOut node r text).2.wait then .waitMore (e.firstWayOut node r text).1
        else .walkOn (e.firstWayOut node r text).1 (e.firstWayOut node r text).2.next)
      (if (e.firstWayOut node s text).2.wait then .waitMore (e.firstWayOut node s text).1
        else .walkOn (e.firstWayOut node s text).1 (e.firstWayOut node s text).2.next) :=
  leaveBy_alike ((h.say _ _ _).note _ _ _ _ _) _

private theorem input_alike {flow : Flow} (h : r.Alike flow s) (hk : node.kind? = some .input)
    (text : String) : Taken.Alike flow (take e node r text) (take e node s text) := by
  simp only [take, hk, Engine.bindInput, Run.setVariable?, bind, Except.bind, pure, Except.pure,
    h.vars]
  cases node.config.input? with
  | none => exact .failed (h.failAt _ _) _ _
  | some fields =>
      dsimp only
      cases fields.variableName.said with
      | error f => exact .failed (h.failAt _ _) _ _
      | ok name =>
          dsimp only
          cases s.vars.set? name (Answer.coerce text (.ofValue fields.expected)) with
          | none => exact .failed (h.failAt _ _) _ _
          | some vars => exact .walkOn ((h.bind vars).note _ _ _ _ _) _

private theorem condition_alike {flow : Flow} (h : r.Alike flow s)
    (hk : node.kind? = some .condition) (text : String) :
    Taken.Alike flow (take e node r text) (take e node s text) := by
  simp only [take, hk, Engine.routeCondition]
  cases node.config with
  | condition c =>
      dsimp only
      cases resolveBranch text c.branches with
      | none =>
          cases e.settings.unmatchedPolicy with
          | wait => exact .waitMore ((h.say _ _ _).note _ _ _ _ _)
          | firstEdge => exact firstWayOut_alike h text
      | some i =>
          dsimp only
          cases c.branches[i]? with
          | none => exact firstWayOut_alike h text
          | some branch => exact leaveBy_alike ((h.say _ _ _).note _ _ _ _ _) _
  | _ => exact .failed (h.failAt _ _) _ _

theorem take_alike {flow : Flow} (e : Engine) (node : Node) (h : r.Alike flow s) (text : String) :
    Taken.Alike flow (take e node r text) (take e node s text) := by
  cases hk : node.kind? with
  | none =>
      simp only [take, hk]
      exact .failed ((h.say _ _ _).fail _) _ _
  | some kind =>
      cases kind with
      | input => exact input_alike h hk text
      | condition => exact condition_alike h hk text
      | _ =>
          simp only [take, hk]
          exact .failed ((h.say _ _ _).fail _) _ _

theorem take_inMode (e : Engine) (real : Bool) (node : Node) (run : Run) (text : String) :
    take (e.inMode real) node run text = take e node run text := by
  simp only [take, Engine.bindInput, Engine.routeCondition, Engine.branchTaken,
    Engine.firstWayOut, Engine.inMode]

theorem mem_of_take (e : Engine) (node : Node) (run : Run) (text : String) :
    ∀ r next, take e node run text = .walkOn r next → ∀ n ∈ next, n ∈ e.flow.nodes := by
  intro r next h
  by_cases ha : node.Asks
  · have htaken := Engine.take_answered e ha run text
    rw [h] at htaken
    cases htaken with
    | walkOn _ hn => exact fun n hmem => (hn n hmem).mem
  · have hinput : node.kind? ≠ some .input := fun h => ha (.inl h)
    have hcondition : node.kind? ≠ some .condition := fun h => ha (.inr h)
    unfold take at h
    split at h
    · exact absurd ‹_› hinput
    · exact absurd ‹_› hcondition
    · cases h

/-! ### Legs -/

theorem opening_alike (hh : e.handlers = []) (real live : Bool) (h : r.Alike e.flow s) :
    (opening (e.inMode real) r).Alike e.flow (opening (e.inMode live) s) := by
  apply Leg.Alike.after
  have hbegun : (begun (e.inMode real) r).Alike e.flow (begun (e.inMode live) s) := by
    have hseeded := h.map (f := begun e) fun _ => rfl
    exact hseeded
  cases hstart : (e.inMode real).flow.startNode? with
  | none =>
      have htwin : (e.inMode live).flow.startNode? = none := hstart
      rw [htwin]
      exact ⟨(hbegun.say _ _ _).fail _, .returned⟩
  | some node =>
      have htwin : (e.inMode live).flow.startNode? = some node := hstart
      rw [htwin]
      refine Engine.continueFrom_alike hh real live ?_ hbegun
      rintro _ ⟨⟩
      exact Flow.mem_of_startNode? hstart

theorem reply_alike (hh : e.handlers = []) (real live : Bool) (h : r.Alike e.flow s)
    (text : String) :
    (reply (e.inMode real) r text).Alike e.flow (reply (e.inMode live) s text) := by
  have hflow (real : Bool) : (e.inMode real).flow = e.flow := rfl
  simp only [reply, h.current, hflow]
  cases s.current.bind e.flow.node? with
  | none => exact ⟨h.fail _, .returned⟩
  | some node =>
      apply Leg.Alike.after
      have hanswered : (answered r text).Alike e.flow (answered s text) :=
        (h.say .user text none).map (f := fun r => { r with status := .running }) fun _ => rfl
      have hnext := mem_of_take e node (answered r text) text
      have htaken := take_alike e node hanswered text
      rw [take_inMode, take_inMode]
      generalize take e node (answered r text) text = taken at hnext htaken ⊢
      generalize take e node (answered s text) text = twin at htaken ⊢
      cases htaken with
      | walkOn h next => exact Engine.continueFrom_alike hh real live (hnext _ _ rfl) h
      | waitMore h => exact ⟨h.suspend, .returned⟩
      | failed h => exact ⟨h, .returned⟩

/-! ### Sessions -/

/-- Two sessions of a flow that only the modes and what came of effects may tell apart. -/
structure Alike (e : Engine) (real live : Bool) (s t : Session) : Prop where
  engine : s.engine = e.inMode real
  twin : t.engine = e.inMode live
  current : s.current.Alike e.flow t.current
  discarded : s.discarded.map (·.outline e.flow) = t.discarded.map (·.outline e.flow)

variable {s t : Session} {leg twin : Leg} {r r' : Run}

theorem outline_put (flow : Flow) (run r : Run) :
    (put run r).outline flow = put (run.outline flow) (r.outline flow) := by
  show (if r.id = run.id then run else r).outline flow = if r.id = run.id then _ else _
  split <;> rfl

namespace Alike

theorem congr (h : s.Alike e real live t) {s' t' : Session} (hs : s'.engine = s.engine)
    (ht : t'.engine = t.engine) (hc : s'.current = s.current) (hc' : t'.current = t.current)
    (hd : s'.discarded = s.discarded) (hd' : t'.discarded = t.discarded) :
    s'.Alike e real live t' :=
  ⟨hs.trans h.engine, ht.trans h.twin, by rw [hc, hc']; exact h.current, by
    rw [hd, hd']; exact h.discarded⟩

theorem persist (h : s.Alike e real live t) (id other : String) :
    (s.persist id).Alike e real live (t.persist other) := by
  apply h.congr <;> simp

theorem run? (h : s.Alike e real live t) (id : String) :
    (s.run? id).map (·.outline e.flow) = (t.run? id).map (·.outline e.flow) := by
  have hruns : s.runs.map (·.outline e.flow) = t.runs.map (·.outline e.flow) := by
    rw [runs, runs, List.map_cons, List.map_cons, h.discarded]
    exact congrArg (· :: _) h.current
  have hfind (s : Session) : (s.run? id).map (·.outline e.flow) =
      (s.runs.map (·.outline e.flow)).find? (·.id = id) := by
    rw [run?_eq_find?, List.find?_map]
    rfl
  rw [hfind, hfind, hruns]

theorem setRun (h : s.Alike e real live t) (hr : r.Alike e.flow r') :
    (s.setRun r).Alike e real live (t.setRun r') := by
  by_cases hid : r.id = s.current.id
  · have hid' : r'.id = t.current.id := hr.id.symm.trans (hid.trans h.current.id)
    rw [setRun_current hid, setRun_current hid']
    exact ⟨h.engine, h.twin, hr, h.discarded⟩
  · have hid' : r'.id ≠ t.current.id := by
      rw [← hr.id, ← h.current.id]
      exact hid
    rw [setRun_discarded hid, setRun_discarded hid']
    refine ⟨h.engine, h.twin, h.current, ?_⟩
    have hput (l : List Run) (r : Run) : (l.map (put r)).map (·.outline e.flow) =
        (l.map (·.outline e.flow)).map (put (r.outline e.flow)) := by
      simp [Function.comp_def, outline_put]
    show (s.discarded.map (put r)).map _ = (t.discarded.map (put r')).map _
    rw [hput, hput, h.discarded, hr]

theorem reset (h : s.Alike e real live t) : s.reset.Alike e real live t.reset := by
  have hlen : s.discarded.length = t.discarded.length := by
    simpa using congrArg List.length h.discarded
  refine ⟨h.engine, h.twin, ?_, ?_⟩
  · rw [Session.reset, Session.reset, hlen]
    exact .refl _
  · have hdead := h.current.map (f := fun r => { r with cancelled := true }) fun _ => rfl
    rw [Session.reset, Session.reset, List.map_cons, List.map_cons, h.discarded]
    exact congrArg (· :: _) hdead

end Alike

end Session

/-- Every effect is answered, and to the steps of an engine with what can be told. -/
structure Serving.Answers (serve : Serving) (e : Engine) : Prop where
  answered : ∀ n request, ∃ result, serve n request = .ok result
  tells : serve.Tells e

namespace Held

/-- The run and the step that an operation waits with. -/
def site (w : Held) : String × Node := (w.pending.run, w.pending.node)

end Held

namespace Scene

/-- Two scenes that only the modes and what came of effects may tell apart. -/
structure Alike (e : Engine) (real live : Bool) (h h' : Scene) : Prop where
  session : h.session.Alike e real live h'.session
  held : h.held.map Held.site = h'.held.map Held.site
  out : ∀ w ∈ h.held, w.pending.node ∈ e.flow.nodes ∧ w.pending.node.callsOut = true

variable {e : Engine} {real live : Bool} {h h' next : Scene} {cue : Cue}

theorem Alike.make (e : Engine) (real live : Bool) (store twin : Option RunStore) :
    (Scene.make (e.inMode real) store).Alike e real live (.make (e.inMode live) twin) :=
  ⟨⟨rfl, rfl, .refl _, rfl⟩, rfl, by simp [Scene.make]⟩

private theorem after_alike {s t : Session} {leg twin : Leg} {held others : List Held}
    (hs : s.Alike e real live t) (hl : leg.Alike e.flow twin)
    (hheld : held.map Held.site = others.map Held.site)
    (hout : ∀ w ∈ held, w.pending.node ∈ e.flow.nodes ∧ w.pending.node.callsOut = true)
    (n m : Nat) (hnext : after held n (s.absorb leg) = some next) :
    ∃ next', after others m (t.absorb twin) = some next' ∧ next.Alike e real live next' := by
  obtain ⟨r, events, stop⟩ := leg
  obtain ⟨r', more, stop'⟩ := twin
  obtain ⟨hrun, hstop⟩ := hl
  have hemit : (s.emit events).Alike e real live (t.emit more) :=
    hs.congr rfl rfl rfl rfl rfl rfl
  have hset := hemit.setRun hrun
  cases hstop with
  | returned =>
      cases hnext
      exact ⟨_, rfl, hset.persist _ _, hheld, hout⟩
  | endless => cases hnext
  | @awaiting node hn ho request request' =>
      cases hnext
      refine ⟨_, rfl, hset.congr rfl rfl rfl rfl rfl rfl, ?_, ?_⟩
      · have hid : r.id = r'.id := hrun.id
        simp [hheld, Held.site, hid]
      · intro w hw
        rcases List.mem_append.mp hw with hw | hw
        · exact hout w hw
        · rw [List.mem_singleton.mp hw]
          exact ⟨hn, ho⟩

theorem Alike.fits (h' : h.Alike e real live next) (c : Call) :
    c.FitsRun h.session.current ↔ c.FitsRun next.session.current := by
  cases c with
  | start => simp only [Call.FitsRun, h'.session.current.status]
  | send text =>
      simp only [Call.FitsRun, h'.session.current.status, h'.session.current.processing]

private theorem Alike.call (hh : e.handlers = []) (ha : h.Alike e real live h') {c : Call}
    (serve twin : Serving) (hnext : h.step serve (.call c) = some next) :
    ∃ next', h'.step twin (.call c) = some next' ∧ next.Alike e real live next' := by
  rw [step] at hnext ⊢
  by_cases hf : c.FitsRun h.session.current
  · have hf' := (ha.fits c).mp hf
    cases c with
    | start =>
        have hleg := Session.opening_alike hh real live ha.session.current
        rw [← ha.session.engine, ← ha.session.twin] at hleg
        rw [Call.on, Session.start_of_idle hf] at hnext
        rw [Call.on, Session.start_of_idle hf']
        refine after_alike ?_ hleg ha.held ha.out _ _ hnext
        exact ha.session.congr rfl rfl rfl rfl rfl rfl
    | send text =>
        have hleg := Session.reply_alike hh real live ha.session.current text
        rw [← ha.session.engine, ← ha.session.twin] at hleg
        rw [Call.on, Session.send_of_waiting hf] at hnext
        rw [Call.on, Session.send_of_waiting hf']
        exact after_alike ha.session hleg ha.held ha.out _ _ hnext
  · rw [Session.call_of_not_fitsRun hf] at hnext
    rw [Session.call_of_not_fitsRun (mt (ha.fits c).mpr hf)]
    cases hnext
    exact ⟨h', rfl, ha⟩

private theorem Alike.held_at (ha : h.Alike e real live h') {place : Nat} {w : Held}
    (hw : h.held[place]? = some w) : ∃ w', h'.held[place]? = some w' ∧ w'.site = w.site := by
  have hplace := congrArg (·[place]?) ha.held
  simpa [List.getElem?_map, hw, Option.map_eq_some_iff] using hplace.symm

/-- Whatever two effects of one step come to, alike runs go on alike. -/
private theorem Alike.leg (hh : e.handlers = []) (hp : e.settings.failurePolicy = .proceed)
    (ha : h.Alike e real live h') (hq : h.Requests (e.inMode real))
    (hq' : h'.Requests (e.inMode live)) {serve twin : Serving}
    (hserve : serve.Answers (e.inMode real)) (htwin : twin.Answers (e.inMode live)) {w w' : Held}
    (hw : w ∈ h.held) (hw' : w' ∈ h'.held) (hnode : w'.pending.node = w.pending.node) {r r' : Run}
    (hr : r.Alike e.flow r') :
    (w.leg serve h.session.engine r).Alike e.flow (w'.leg twin h'.session.engine r') := by
  obtain ⟨result, hresult⟩ := hserve.answered w.number w.pending.request
  obtain ⟨other, hother⟩ := htwin.answered w'.number w'.pending.request
  obtain ⟨hn, ho⟩ := ha.out w hw
  have hn' : w'.pending.node ∈ e.flow.nodes := hnode ▸ hn
  have hleft := hq.obstacle? hserve.tells hw hn hresult
  have hright := hq'.obstacle? htwin.tells hw' hn' hother
  rw [hnode] at hright
  rw [Held.leg, Held.leg, Held.outcome, Held.outcome, hresult, hother, hnode,
    ha.session.engine, ha.session.twin]
  exact Engine.takeUp_alike hh hp real live hn ho hr _ _ hleft hright

private theorem Alike.settle (hh : e.handlers = []) (hp : e.settings.failurePolicy = .proceed)
    (ha : h.Alike e real live h') (hq : h.Requests (e.inMode real))
    (hq' : h'.Requests (e.inMode live)) {serve twin : Serving}
    (hserve : serve.Answers (e.inMode real)) (htwin : twin.Answers (e.inMode live)) {place : Nat}
    (hnext : h.step serve (.settle place) = some next) :
    ∃ next', h'.step twin (.settle place) = some next' ∧ next.Alike e real live next' := by
  obtain ⟨w, hw, hstep⟩ := Option.bind_eq_some_iff.mp hnext
  obtain ⟨w', hw', hsite⟩ := ha.held_at hw
  obtain ⟨hrunId, hnode⟩ := Prod.mk.inj hsite
  have hheld : (h.held.eraseIdx place).map Held.site = (h'.held.eraseIdx place).map Held.site := by
    rw [← List.eraseIdx_map, ← List.eraseIdx_map, ha.held]
  have hout : ∀ v ∈ h.held.eraseIdx place,
      v.pending.node ∈ e.flow.nodes ∧ v.pending.node.callsOut = true :=
    fun v hv => ha.out v ((List.eraseIdx_sublist _ _).subset hv)
  have hrun := ha.session.run? w.pending.run
  rw [step, hw', Option.bind_some]
  cases hfound : h.session.run? w.pending.run with
  | none =>
      rw [hfound, Option.map_none, Eq.comm, Option.map_eq_none_iff, ← hrunId] at hrun
      rw [Session.answer, hfound] at hstep
      rw [Session.answer, hrun]
      cases hstep
      exact ⟨_, rfl, ha.session, hheld, hout⟩
  | some r =>
      rw [hfound, Option.map_some, Eq.comm, Option.map_eq_some_iff, ← hrunId] at hrun
      obtain ⟨r', hfound', halike⟩ := hrun
      rw [Session.answer_of_run? hfound] at hstep
      rw [Session.answer_of_run? hfound']
      have hleg := ha.leg hh hp hq hq' hserve htwin (List.mem_of_getElem? hw)
        (List.mem_of_getElem? hw') hnode (Run.Alike.symm halike)
      refine after_alike ?_ hleg hheld hout _ _ hstep
      exact ha.session.congr rfl rfl rfl rfl rfl rfl

/-- Every step keeps alike scenes alike, when every effect is answered. -/
theorem Alike.step (hh : e.handlers = []) (hp : e.settings.failurePolicy = .proceed)
    (ha : h.Alike e real live h') (hq : h.Requests (e.inMode real))
    (hq' : h'.Requests (e.inMode live)) {serve twin : Serving}
    (hserve : serve.Answers (e.inMode real)) (htwin : twin.Answers (e.inMode live))
    (hnext : h.step serve cue = some next) :
    ∃ next', h'.step twin cue = some next' ∧ next.Alike e real live next' := by
  cases cue with
  | call c => exact ha.call hh serve twin hnext
  | settle place => exact ha.settle hh hp hq hq' hserve htwin hnext
  | reset =>
      cases hnext
      exact ⟨_, rfl, ha.session.reset, ha.held, ha.out⟩

theorem Alike.play (hh : e.handlers = []) (hp : e.settings.failurePolicy = .proceed)
    (ha : h.Alike e real live h') (hq : h.Requests (e.inMode real))
    (hq' : h'.Requests (e.inMode live)) {serve twin : Serving}
    (hserve : serve.Answers (e.inMode real)) (htwin : twin.Answers (e.inMode live))
    {cues : List Cue} (hplay : h.play serve cues = some next) :
    ∃ next', h'.play twin cues = some next' ∧ next.Alike e real live next' := by
  induction cues generalizing h h' with
  | nil =>
      cases hplay
      exact ⟨h', rfl, ha⟩
  | cons cue cues ih =>
      rw [play_cons] at hplay
      obtain ⟨mid, hmid, hrest⟩ := Option.bind_eq_some_iff.mp hplay
      obtain ⟨mid', hmid', halike⟩ := ha.step hh hp hq hq' hserve htwin hmid
      have hmoves := hq.moves (Engine.loyal_of_nil (e := e.inMode real) hh) hmid
      have hmoves' := hq'.moves (Engine.loyal_of_nil (e := e.inMode live) hh) hmid'
      obtain ⟨next', hnext', hend⟩ := ih halike (hq.kept (Engine.loyal_of_nil hh) hmoves)
        (hq'.kept (Engine.loyal_of_nil hh) hmoves') hrest
      refine ⟨next', ?_, hend⟩
      rw [play_cons, hmid']
      exact hnext'

/-- Effects that are served by implementations from registries, by the number of the request. -/
def dispatching (given : Nat → Registry Implementation × Http.Transport) : Serving :=
  fun n request => ((Gateway.effects (given n).1 (given n).2).invoke request).1

/-- What the built-in gateway answers to updates can be told, whatever is sent to it. -/
theorem builtin_tells {given : Nat → Registry Implementation × Http.Transport} {e : Engine}
    (h : ∀ n, ∃ url token t, Gateway.effects (given n).1 (given n).2 = .builtin url token t ∧
      ∀ a ∈ t.responses, a.Worded) : (dispatching given).Tells e := by
  intro n node _ run request hasking hupdate
  obtain ⟨url, token, t, hbuiltin, hworded⟩ := h n
  show Tellable e.mode ((Gateway.effects (given n).1 (given n).2).invoke request).1
  rw [hbuiltin]
  exact Gateway.builtin_tellable hasking.regular hupdate url token hworded

end Scene
end Dialogue
