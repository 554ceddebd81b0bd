import Dialogue.Proofs.Run.Past
import Dialogue.Proofs.Session.Tracking

/-!
# Sessions whose runs have a past

A session does not look at what its runs have said and noted before. With a past put before each of
its runs a session can be told the same, says and notes the same, and asks for the same
(`Shows.play`).
-/
namespace Dialogue

namespace Session

variable {e : Engine} {node : Node} (p : Past) (run : Run) (text : String)

/-! ### Answers -/

/-- The leg on which a run goes on from an answer. -/
def Taken.leg (e : Engine) : Taken → Leg
  | .walkOn run next => e.continueFrom next run
  | .waitMore run => ⟨run.suspend, [], .returned⟩
  | .failed run events => ⟨run, events, .returned⟩

theorem reply_of_node (hnode : run.current.bind e.flow.node? = some node) (text : String) :
    reply e run text =
      ((take e node (answered run text) text).leg e).after [.runResumed node.id node.type] := by
  simp only [reply, hnode]
  cases take e node (answered run text) text <;> rfl

theorem leg_upon (hh : e.handlers = []) (p : Past) (taken : Taken) :
    (taken.upon p).leg e = (taken.leg e).upon p := by
  cases taken with
  | walkOn run next => exact Engine.continueFrom_upon hh p next run
  | waitMore run => simp [Taken.upon, Taken.leg, Leg.upon]
  | failed run events => rfl

private theorem leaveBy_upon (next : Option Node) :
    Engine.leaveBy node (run.upon p) next =
      ((Engine.leaveBy node run next).1.upon p, (Engine.leaveBy node run next).2) := by
  cases next with
  | none => simp [Engine.leaveBy]
  | some next => rfl

private theorem routeCondition_upon :
    e.routeCondition node (run.upon p) text =
      (e.routeCondition node run text).map fun left => (left.1.upon p, left.2) := by
  unfold Engine.routeCondition
  cases node.config with
  | condition c =>
      dsimp only
      cases resolveBranch text c.branches with
      | none =>
          cases e.settings.unmatchedPolicy with
          | wait => simp [Engine.askAgain, Except.map]
          | firstEdge => simp [Engine.firstWayOut, Except.map, leaveBy_upon]
      | some i =>
          dsimp only
          cases c.branches[i]? with
          | none => simp [Engine.firstWayOut, Except.map, leaveBy_upon]
          | some branch => simp [Engine.branchTaken, Except.map, leaveBy_upon]
  | _ => rfl

private theorem bindInput_upon :
    e.bindInput node (run.upon p) text =
      (e.bindInput node run text).map fun left => (left.1.upon p, left.2) := by
  unfold Engine.bindInput
  cases node.config.input? with
  | none => rfl
  | some fields =>
      simp only [Run.setVariable?, Run.vars_upon, bind, Except.bind, pure, Except.pure]
      cases fields.variableName.said with
      | error f => rfl
      | ok name =>
          dsimp only
          cases run.vars.set? name (Answer.coerce text (.ofValue fields.expected)) with
          | none => rfl
          | some vars =>
              have hnote := Run.note_upon p { run with vars := vars } node
                s!"Entrada capturada: {name}" true (.str text)
                (.object [("value", Answer.coerce text (.ofValue fields.expected)),
                  ("expected_type", fields.expected)])
              exact congrArg (fun r => Except.ok (r, e.flow.next? node)) hnote

theorem take_upon (e : Engine) (node : Node) (p : Past) (run : Run) (text : String) :
    take e node (run.upon p) text = (take e node run text).upon p := by
  unfold take
  split
  · rw [bindInput_upon]
    cases e.bindInput node run text with
    | error f => simp [Except.map, Taken.upon]
    | ok left => rfl
  · rw [routeCondition_upon]
    cases e.routeCondition node run text with
    | error f => simp [Except.map, Taken.upon]
    | ok left =>
        obtain ⟨r, step⟩ := left
        cases hw : step.wait <;> simp [Except.map, Taken.upon, hw]
  · simp [Taken.upon]

/-! ### Legs -/

theorem answered_upon : answered (run.upon p) text = (answered run text).upon p := by
  simp only [answered, Run.say_upon]
  rfl

theorem opening_upon (hh : e.handlers = []) (p : Past) (run : Run) :
    opening e (run.upon p) = (opening e run).upon p := by
  have hbegun : begun e (run.upon p) = (begun e run).upon p := rfl
  unfold opening
  rw [hbegun]
  cases e.flow.startNode? with
  | none => simp [Leg.upon, Leg.after]
  | some node =>
      dsimp only
      rw [Engine.continueFrom_upon hh, Leg.after_upon]

theorem reply_upon (hh : e.handlers = []) (p : Past) (run : Run) (text : String) :
    reply e (run.upon p) text = (reply e run text).upon p := by
  cases hnode : run.current.bind e.flow.node? with
  | none =>
      have hnode' : (run.upon p).current.bind e.flow.node? = none := hnode
      simp only [reply, hnode, hnode']
      rfl
  | some node =>
      rw [reply_of_node run hnode, reply_of_node (run.upon p) hnode, answered_upon, take_upon,
        leg_upon hh, Leg.after_upon]

end Session

/-- The run with what is behind the run of its id. -/
def Run.since (past : String → Past) (r : Run) : Run := r.upon (past r.id)

/-- Sessions that go the same way, where the runs of the second have the given pasts. Of the events
and the store nothing is said. -/
structure Session.Shows (e : Engine) (past : String → Past) (b s : Session) : Prop where
  engine : b.engine = e
  twin : s.engine = e
  requests : s.requests = b.requests
  observed : s.observed = b.observed
  current : s.current = b.current.since past
  discarded : s.discarded = b.discarded.map (·.since past)
  /-- A run that is still to come has no past. -/
  fresh : ∀ n, b.discarded.length < n → past (runId n) = {}

namespace Session.Shows

variable {e : Engine} {past : String → Past} {b s : Session} {r : Run}

theorem congr (h : b.Shows e past s) {b' s' : Session} (hb : b'.engine = b.engine)
    (hs : s'.engine = s.engine) (hrequests : s'.requests = b'.requests)
    (hobserved : s'.observed = b'.observed) (hcb : b'.current = b.current)
    (hcs : s'.current = s.current) (hdb : b'.discarded = b.discarded)
    (hds : s'.discarded = s.discarded) : b'.Shows e past s' :=
  ⟨hb.trans h.engine, hs.trans h.twin, hrequests, hobserved, by rw [hcs, hcb, h.current],
    by rw [hds, hdb, h.discarded], by rw [hdb]; exact h.fresh⟩

theorem persist (h : b.Shows e past s) (id other : String) :
    (b.persist id).Shows e past (s.persist other) := by
  apply h.congr <;> simp [h.requests, h.observed]

theorem current_id (h : b.Shows e past s) : s.current.id = b.current.id := by
  rw [h.current]
  rfl

theorem setRun (h : b.Shows e past s) (r : Run) :
    (b.setRun r).Shows e past (s.setRun (r.since past)) := by
  by_cases hid : r.id = b.current.id
  · have hsince : (r.since past).id = s.current.id := hid.trans h.current_id.symm
    rw [setRun_current hid, setRun_current hsince]
    exact ⟨h.engine, h.twin, h.requests, h.observed, rfl, h.discarded, h.fresh⟩
  · rw [setRun_discarded hid,
      setRun_discarded (show (r.since past).id ≠ _ from h.current_id ▸ hid)]
    refine ⟨h.engine, h.twin, h.requests, h.observed, h.current, ?_, ?_⟩
    · show s.discarded.map (put (r.since past)) = (b.discarded.map (put r)).map (·.since past)
      rw [h.discarded, List.map_map, List.map_map]
      refine List.map_congr_left fun x _ => ?_
      show put (r.since past) (x.since past) = (put r x).since past
      by_cases hx : x.id = r.id
      · rw [put, put, if_pos hx, if_pos (show (x.since past).id = (r.since past).id from hx)]
      · rw [put_of_ne hx, put_of_ne (show (x.since past).id ≠ (r.since past).id from hx)]
    · intro n hn
      exact h.fresh n (by simpa using hn)

theorem reset (h : b.Shows e past s) : b.reset.Shows e past s.reset := by
  have hlen : s.discarded.length = b.discarded.length := by rw [h.discarded, List.length_map]
  refine ⟨h.engine, h.twin, h.requests, h.observed, ?_, ?_, ?_⟩
  · show _ = Run.upon (past (runId (b.discarded.length + 1))) _
    rw [h.fresh _ (Nat.lt_succ_self _), Run.upon_none, Session.reset, hlen]
    rfl
  · rw [Session.reset, Session.reset, List.map_cons, h.discarded, h.current]
    rfl
  · intro n hn
    exact h.fresh n (Nat.lt_of_succ_lt hn)

theorem run? (h : b.Shows e past s) (id : String) :
    s.run? id = (b.run? id).map (·.since past) := by
  have hruns : s.runs = b.runs.map (·.since past) := by
    rw [runs, runs, List.map_cons, h.current, h.discarded]
  rw [run?_eq_find?, run?_eq_find?, hruns, List.find?_map]
  rfl

end Session.Shows

namespace Scene

/-- Scenes that go the same way, where the runs of the second have the given pasts. -/
structure Shows (e : Engine) (past : String → Past) (b h : Scene) : Prop where
  session : b.session.Shows e past h.session
  held : h.held = b.held
  seeks : ∀ w ∈ b.held, w.pending.node.SeeksEffect

variable {e : Engine} {past : String → Past} {serve : Serving} {b h : Scene} {s t : Session}
  {held : List Held} {leg : Leg}

theorem after_shows (hs : s.Shows e past t)
    (hseeks : ∀ w ∈ held, w.pending.node.SeeksEffect)
    (hleg : ∀ node request, leg.stop = .awaiting node request → node.SeeksEffect) (n : Nat) :
    Option.Rel (Shows e past) (after held n (s.absorb leg))
      (after held n (t.absorb (leg.upon (past leg.run.id)))) := by
  obtain ⟨run, events, stop⟩ := leg
  have hemit : (s.emit events).Shows e past (t.emit events) :=
    hs.congr rfl rfl hs.requests hs.observed rfl rfl rfl rfl
  have hset := hemit.setRun run
  cases stop with
  | returned => exact .some ⟨hset.persist _ _, rfl, hseeks⟩
  | endless => exact .none
  | awaiting node request =>
      have hrequests : t.requests ++ [request] = s.requests ++ [request] := by rw [hs.requests]
      refine .some ⟨hset.congr rfl rfl hrequests hset.observed rfl rfl rfl rfl, ?_, ?_⟩
      · have hobserved : t.observed = s.observed := hs.observed
        show held ++ [⟨n, run.id, t.observed, node, request⟩] =
          held ++ [⟨n, run.id, s.observed, _, _⟩]
        rw [hobserved]
      · intro w hw
        rcases List.mem_append.mp hw with hw | hw
        · exact hseeks w hw
        · rw [List.mem_singleton.mp hw]
          exact hleg node request rfl

theorem Shows.fits (hs : b.Shows e past h) (c : Call) :
    c.FitsRun b.session.current ↔ c.FitsRun h.session.current := by
  rw [hs.session.current]
  cases c <;> rfl

private theorem Shows.call (hh : e.handlers = []) (hs : b.Shows e past h) (c : Call) :
    Option.Rel (Shows e past) (b.step serve (.call c)) (h.step serve (.call c)) := by
  have hl := Engine.loyal_of_nil hh
  rw [step, step, hs.held, hs.session.requests]
  by_cases hf : c.FitsRun b.session.current
  · have hf' := (hs.fits c).mp hf
    cases c with
    | start =>
        have hleg := Session.opening_keeps Run.Follows.lasting hl b.session.current
        have hid : (Session.opening e b.session.current).run.id = b.session.current.id :=
          hleg.run.id
        have htwin : Session.opening h.session.engine h.session.current =
            (Session.opening b.session.engine b.session.current).upon
              (past (Session.opening b.session.engine b.session.current).run.id) := by
          rw [hs.session.engine, hs.session.twin, hs.session.current, Run.since, hid,
            Session.opening_upon hh]
        rw [Call.on, Call.on, Session.start_of_idle hf, Session.start_of_idle hf', htwin]
        refine after_shows ?_ hs.seeks (hs.session.engine ▸ hleg.seeks) _
        exact hs.session.congr rfl rfl hs.session.requests hs.session.current_id rfl rfl rfl rfl
    | send text =>
        have hanswered : Run.Follows b.session.current (Session.answered b.session.current text) :=
          ⟨rfl, rfl, fun _ => (by decide : Status.running ≠ .idle)⟩
        have hleg := Session.reply_keeps Run.Follows.lasting hl hanswered
        have hid : (Session.reply e b.session.current text).run.id = b.session.current.id :=
          hleg.run.id
        rw [Call.on, Call.on, Session.send_of_waiting hf, Session.send_of_waiting hf',
          hs.session.engine, hs.session.twin, hs.session.current, Run.since,
          Session.reply_upon hh, ← hid]
        exact after_shows hs.session hs.seeks hleg.seeks _
  · rw [Session.call_of_not_fitsRun hf, Session.call_of_not_fitsRun (mt (hs.fits c).mpr hf)]
    exact .some ⟨hs.session, rfl, hs.seeks⟩

private theorem Shows.settle (hh : e.handlers = []) (hs : b.Shows e past h) (place : Nat) :
    Option.Rel (Shows e past) (b.step serve (.settle place)) (h.step serve (.settle place)) := by
  rw [step, step, hs.held, hs.session.requests]
  cases hw : b.held[place]? with
  | none => exact .none
  | some w =>
      rw [Option.bind_some, Option.bind_some]
      have hseeks := hs.seeks w (List.mem_of_getElem? hw)
      have hrest : ∀ v ∈ b.held.eraseIdx place, v.pending.node.SeeksEffect := fun v hv =>
        hs.seeks v ((List.eraseIdx_sublist _ _).subset hv)
      have hrun := hs.session.run? w.pending.run
      cases hfound : b.session.run? w.pending.run with
      | none =>
          rw [hfound, Option.map_none] at hrun
          simp only [Session.answer, hfound, hrun]
          exact .some ⟨hs.session, rfl, hrest⟩
      | some run =>
          rw [hfound, Option.map_some] at hrun
          have hleg := Engine.takeUp_keeps Run.Follows.lasting (Engine.loyal_of_nil hh) hseeks
            w.pending.request (w.outcome serve) run
          have hid : (w.leg serve e run).run.id = run.id := hleg.run.id
          have htwin : w.leg serve e (run.since past) = (w.leg serve e run).upon (past run.id) :=
            Engine.takeUp_upon hh _ _ _ _ run
          rw [Session.answer_of_run? hfound, Session.answer_of_run? hrun, hs.session.engine,
            hs.session.twin, htwin, ← hid]
          refine after_shows ?_ hrest hleg.seeks _
          exact hs.session.congr rfl rfl hs.session.requests hs.session.observed rfl rfl rfl rfl

theorem Shows.step (hh : e.handlers = []) (hs : b.Shows e past h) (serve : Serving) (cue : Cue) :
    Option.Rel (Shows e past) (b.step serve cue) (h.step serve cue) := by
  cases cue with
  | call c => exact hs.call hh c
  | reset => exact .some ⟨hs.session.reset, hs.held, hs.seeks⟩
  | settle place => exact hs.settle hh place

/-- What is behind the runs of a session has no say in what comes of a schedule. -/
theorem Shows.play (hh : e.handlers = []) (serve : Serving) {b h : Scene} (hs : b.Shows e past h)
    (cues : List Cue) : Option.Rel (Shows e past) (b.play serve cues) (h.play serve cues) := by
  induction cues generalizing b h with
  | nil => exact .some hs
  | cons cue cues ih =>
      rw [play_cons, play_cons]
      have hstep := hs.step hh serve cue
      generalize b.step serve cue = next at hstep ⊢
      generalize h.step serve cue = twin at hstep ⊢
      cases hstep with
      | some hnext => exact ih hnext
      | none => exact .none

theorem Shows.bind (hh : e.handlers = []) (serve : Serving) {b h : Option Scene}
    (hs : Option.Rel (Shows e past) b h) (cues : List Cue) :
    Option.Rel (Shows e past) (b.bind fun b => b.play serve cues)
      (h.bind fun h => h.play serve cues) := by
  cases hs with
  | some hs => exact hs.play hh serve cues
  | none => exact .none

end Scene
end Dialogue
