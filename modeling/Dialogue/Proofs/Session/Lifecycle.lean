import Dialogue.Proofs.Run.Lifecycle
import Dialogue.Proofs.Session.Invariant

/-!
# What the events of a session tell

Under handlers of the host that only add to the transcript and to the log, the events of a run tell
every status it comes to but where an answer is asked for again or cannot be taken
(`play_chronicled`).
-/
namespace Dialogue

open Run (Told)
open Engine (additive_of_nil)

namespace Session

/-- An answer of which the events do not tell where it left the run: it is asked for again, or
there is no step that can take it. -/
def hushes (e : Engine) (run : Run) (text : String) : Bool :=
  match run.current.bind e.flow.node? with
  | none => true
  | some node =>
    match node.kind?, take e node (answered run text) text with
    | _, .waitMore _ => true
    | some .input, _ => false
    | some .condition, _ => false
    | _, _ => true

variable {e : Engine} {run : Run} {text : String}

theorem opening_reports (ha : e.Additive) (hp : run.processing = false) :
    ∃ inner : Leg, opening e run = inner.after [.runStarted e.flow.id e.mode] ∧
      inner.Reports := by
  refine ⟨_, rfl, ?_⟩
  split
  · exact ⟨rfl, by simp, by simp [Run.fail, Run.failBy]⟩
  · exact Engine.continueFrom_reports ha _ rfl hp

theorem reply_reports (ha : e.Additive) (hp : run.processing = false)
    (hh : hushes e run text = false) :
    ∃ (node : Node) (inner : Leg), run.current.bind e.flow.node? = some node ∧
      reply e run text = inner.after [.runResumed node.id node.type] ∧ inner.Reports := by
  unfold hushes at hh
  cases hnode : run.current.bind e.flow.node? with
  | none => simp [hnode] at hh
  | some node =>
      simp only [hnode] at hh
      have hasks : node.Asks := by
        split at hh
        · cases hh
        · exact .inl ‹_›
        · exact .inr ‹_›
        · cases hh
      have htaken := Engine.take_answered e hasks (answered run text) text
      simp only [reply, hnode]
      refine ⟨node, _, rfl, rfl, ?_⟩
      generalize take e node (answered run text) text = taken at htaken hh ⊢
      cases htaken with
      | walkOn h hn => exact Engine.continueFrom_reports ha _ h.status (h.processing.trans hp)
      | waitMore h => simp at hh
      | failed f h => exact ⟨rfl, by simp, by simp [Run.fail, Run.failBy]⟩

theorem reply_of_none (hn : run.current.bind e.flow.node? = none) :
    (reply e run text).run.status = .failed := by
  simp only [reply, hn]
  rfl

theorem reply_hushed (hh : hushes e run text = true) :
    (reply e run text).stop = .returned ∧
      ((reply e run text).run.status = .waiting ∨ (reply e run text).run.status = .failed) ∧
      (reply e run text).statuses =
        if (run.current.bind e.flow.node?).isSome then [.running] else [] := by
  unfold hushes at hh
  unfold reply
  cases hnode : run.current.bind e.flow.node? with
  | none => exact ⟨rfl, .inr rfl, rfl⟩
  | some node =>
      simp only [hnode] at hh
      rw [Option.isSome_some, if_pos rfl]
      dsimp only
      by_cases hasks : node.Asks
      · have htaken := Engine.take_answered e hasks (answered run text) text
        generalize take e node (answered run text) text = taken at htaken hh ⊢
        cases htaken with
        | walkOn h hn => rcases hasks with hk | hk <;> simp [hk] at hh
        | @waitMore r h =>
            have hrunning : r.status = .running := h.status
            refine ⟨rfl, .inl ?_, rfl⟩
            show r.suspend.status = .waiting
            rw [Run.suspend, if_pos hrunning]
        | failed f h => rcases hasks with hk | hk <;> simp [hk] at hh
      · obtain ⟨r, htaken, hfailed⟩ : ∃ r : Run,
            take e node (answered run text) text = .failed r [] ∧ r.status = .failed := by
          unfold take
          split
          · exact absurd (.inl ‹_›) hasks
          · exact absurd (.inr ‹_›) hasks
          · exact ⟨_, rfl, rfl⟩
        rw [htaken]
        exact ⟨rfl, .inr hfailed, rfl⟩

end Session

namespace Scene

/-- What holds of every scene under handlers that only add: a run is as new until it is started, and
of each run that is in the middle of a step the gateway holds one operation. -/
structure Steady (e : Engine) (h : Scene) : Prop extends Tracked e h where
  fresh : h.session.current.status = .idle → h.session.current = { id := h.session.current.id }
  busy : ∀ w ∈ h.held, ∀ r ∈ h.session.runs, r.id = w.pending.run → r.status = .running
  single : (h.held.map (·.pending.run)).Nodup

variable {serve : Serving} {e : Engine} {h h' : Scene} {cue : Cue} {s : Session}
  {held : List Held} {leg : Leg}

namespace Steady

theorem make (e : Engine) (store : Option RunStore) : (Scene.make e store).Steady e where
  toTracked := .make e store
  fresh _ := rfl
  busy := by simp [Scene.make]
  single := by simp [Scene.make]

theorem free (hs : h.Steady e) (ho : h.Opens serve cue s held leg) :
    ∀ w ∈ held, w.pending.run ≠ h.session.current.id := by
  intro w hw heq
  cases ho with
  | start hidle =>
      have hrunning := hs.busy w hw _ List.mem_cons_self heq.symm
      simp [hidle] at hrunning
  | send hf =>
      have hrunning := hs.busy w hw _ List.mem_cons_self heq.symm
      simp [hf.1] at hrunning
  | settle hw' hown => exact run_ne_of_nodup hs.single hw' hw (heq.trans hown.symm)

theorem running_of_awaiting (hs : h.Steady e) (ha : e.Additive)
    (ho : h.Opens serve cue s held leg) {node : Node} {request : EffectRequest}
    (hstop : leg.stop = .awaiting node request) : leg.run.status = .running := by
  cases ho with
  | start hidle =>
      have hp : h.session.current.processing = false := by rw [hs.fresh hidle]
      rw [hs.engine] at hstop ⊢
      obtain ⟨inner, hleg, hreports⟩ := Session.opening_reports ha hp
      rw [hleg] at hstop ⊢
      exact hreports.awaiting node request hstop
  | @send text hf =>
      rw [hs.engine] at hstop ⊢
      cases hh : Session.hushes e h.session.current text with
      | true =>
          rw [(Session.reply_hushed hh).1] at hstop
          cases hstop
      | false =>
          obtain ⟨asker, inner, -, hleg, hreports⟩ := Session.reply_reports ha hf.2 hh
          rw [hleg] at hstop ⊢
          exact hreports.awaiting node request hstop
  | @settle place w hw hown =>
      have hmem := List.mem_of_getElem? hw
      have hrunning := hs.busy w hmem _ List.mem_cons_self hown.symm
      rw [hs.engine] at hstop ⊢
      exact (Engine.takeUp_reports ha (hs.held w hmem).1 hrunning _ _).awaiting node request hstop

private theorem busy_kept (hs : h.Steady e) (ho : h.Opens serve cue s held leg)
    (hid : leg.run.id = h.session.current.id) {w : Held} (hw : w ∈ held) {r : Run}
    (hr : r ∈ leg.run :: h.session.discarded) (hown : r.id = w.pending.run) :
    r.status = .running := by
  rcases List.mem_cons.mp hr with rfl | hr
  · exact absurd (hown.symm.trans hid) (hs.free ho w hw)
  · exact hs.busy w (ho.held_sublist.subset hw) r (List.mem_cons_of_mem _ hr) hown

private theorem busy_reset (hs : h.Steady e) {w : Held} (hw : w ∈ h.held) {r : Run}
    (hr : r ∈ h.session.reset.runs) (hown : r.id = w.pending.run) : r.status = .running := by
  rcases List.mem_cons.mp hr with rfl | hr
  · obtain ⟨r, hmem, hid, -⟩ := (hs.held w hw).2
    have hused : h.session.reset.current.id ∈ h.session.runs.map (·.id) :=
      List.mem_map.mpr ⟨r, hmem, hid.trans hown.symm⟩
    exact absurd hused hs.numbered.reset_id_not_mem
  · rcases List.mem_cons.mp hr with rfl | hr
    · exact hs.busy w hw h.session.current List.mem_cons_self hown
    · exact hs.busy w hw r (List.mem_cons_of_mem _ hr) hown

/-- What a discarded run has come back to touches no run that an operation is still held for. -/
private theorem busy_drained (hs : h.Steady e) {place : Nat} {w v : Held} {run r : Run}
    (hw : h.held[place]? = some w) (hrun : run ∈ h.session.discarded)
    (hid : run.id = w.pending.run) (hv : v ∈ h.held.eraseIdx place)
    (hr : r ∈ h.session.runs.map (Session.put (w.leg serve h.session.engine run).run))
    (hown : r.id = v.pending.run) : r.status = .running := by
  obtain ⟨r', hr', rfl⟩ := List.mem_map.mp hr
  rw [Session.put_id] at hown
  have hput : r'.id ≠ (w.leg serve h.session.engine run).run.id := by
    rw [(hs.drains serve hw hrun).run.id, hid, hown]
    exact run_ne_of_nodup hs.single hw hv
  rw [Session.put_of_ne hput]
  exact hs.busy v ((List.eraseIdx_sublist _ _).subset hv) r' hr' hown

private theorem single_asks (hs : h.Steady e) (ho : h.Opens serve cue s held leg) {w : Held}
    (hown : w.pending.run = h.session.current.id) :
    ((held ++ [w]).map (·.pending.run)).Nodup := by
  rw [List.map_append, List.nodup_append]
  refine ⟨hs.single.sublist (ho.held_sublist.map _), List.nodup_singleton _, ?_⟩
  intro id hmem other hother heq
  obtain ⟨v, hv, rfl⟩ := List.mem_map.mp hmem
  rw [List.mem_singleton.mp hother] at heq
  exact hs.free ho v hv (heq.trans hown)

theorem kept (hs : h.Steady e) (ha : e.Additive) (hm : h.Moves serve cue h') :
    h'.Steady e := by
  have hl := ha.loyal
  have ht := hs.toTracked.kept hl hm
  cases hm with
  | refused => exact hs
  | reset => exact ⟨ht, fun _ => rfl, fun w hw r hr hown => hs.busy_reset hw hr hown, hs.single⟩
  | @returned cue s held leg ho hr =>
      obtain ⟨store, persisted, hpersist⟩ := (s.moved leg).persist_frame leg.run.id
      have hstarted := (hs.opens hl ho).2
      rw [hpersist, ho.frame] at ht ⊢
      refine ⟨ht, fun hidle => absurd hidle hstarted, ?_,
        hs.single.sublist (ho.held_sublist.map _)⟩
      exact fun w hw r hr hown => hs.busy_kept ho (hs.id_of_opens hl ho) hw hr hown
  | @asks cue s held leg node request ho hr =>
      have hstarted := (hs.opens hl ho).2
      have hid := hs.id_of_opens hl ho
      rw [ho.frame] at ht ⊢
      refine ⟨ht, fun hidle => absurd hidle hstarted, ?_, hs.single_asks ho hid⟩
      intro w hw r hr' hown
      rcases List.mem_append.mp hw with hw | hw
      · exact hs.busy_kept ho hid hw hr' hown
      · rw [List.mem_singleton.mp hw] at hown
        rw [ht.numbered.eq_of_id hr' List.mem_cons_self hown]
        exact hs.running_of_awaiting ha ho hr
  | @drained place w run hw hrun hid hne =>
      refine ⟨ht, hs.fresh, ?_, hs.single.sublist ((List.eraseIdx_sublist _ _).map _)⟩
      intro v hv r hr hown
      rw [Moves.runs_of_drained hs.toTracked hw hrun hid hne] at hr
      exact hs.busy_drained hw hrun hid hv hr hown

theorem play (hs : h.Steady e) (ha : e.Additive) {cues : List Cue}
    (hplay : h.play serve cues = some h') : h'.Steady e :=
  play_induction (fun _ _ _ hs hstep => hs.kept ha (hs.moves ha.loyal hstep)) hs hplay

end Steady

/-! ### The events of the current run -/

/-- The statuses that the events of a session tell of. -/
def told (h : Scene) : List Status := h.session.events.filterMap fun x => x.event.status?

/-- Whether a call brings the current run to run. -/
def begins (h : Scene) : Cue → Bool
  | .call .start => h.session.current.status = .idle
  | .call (.send text) => (Call.send text).FitsRun h.session.current &&
      (h.session.current.current.bind h.session.engine.flow.node?).isSome
  | _ => false

/-- Whether the current run is taken on by a cue. -/
def takesOn (h : Scene) : Cue → Bool
  | .call c => c.FitsRun h.session.current
  | .reset => false
  | .settle place => h.held[place]?.any fun w => w.pending.run = h.session.current.id

/-- Whether the events do not tell where a cue leaves the run that it takes on. -/
def hushes (h : Scene) : Cue → Bool
  | .call (.send text) => (Call.send text).FitsRun h.session.current &&
      Session.hushes h.session.engine h.session.current text
  | _ => false

/-- What the current run comes to on a cue: it runs, and it may come to something else. -/
def beginning (h : Scene) (cue : Cue) : List Status := if h.begins cue then [.running] else []

def ending (h h' : Scene) (cue : Cue) : List Status :=
  if h.takesOn cue ∧ h'.session.current.status ≠ .running then [h'.session.current.status] else []

/-- What the events of a schedule tell: all that the run comes to, but for what is hushed. -/
def chronicle (serve : Serving) (h : Scene) : List Cue → List Status
  | [] => []
  | cue :: cues => ((h.step serve cue).map fun h' =>
      h.beginning cue ++ (if h.hushes cue then [] else h.ending h' cue) ++
        h'.chronicle serve cues).getD []

/-- Whether it is untold where the run stands after a schedule. -/
def hushed (serve : Serving) (h : Scene) (before : Bool) : List Cue → Bool
  | [] => before
  | cue :: cues => ((h.step serve cue).map fun h' =>
      h'.hushed serve (if h.takesOn cue then h.hushes cue else before) cues).getD before

theorem Opens.takesOn (ho : h.Opens serve cue s held leg) : h.takesOn cue = true := by
  cases ho with
  | start hs => exact decide_eq_true hs
  | send hf => exact decide_eq_true hf
  | settle hw hown => simp [Scene.takesOn, hw, hown]

theorem Opens.told (ho : h.Opens serve cue s held leg) :
    s.events.filterMap (fun x => x.event.status?) = h.told := by
  cases ho with
  | start => rfl
  | send => rfl
  | settle => simp [Session.measure, Session.emitFor, Scene.told, Engine.measured, Event.status?]

theorem told_moved (s : Session) (leg : Leg) :
    (s.moved leg).events.filterMap (fun x => x.event.status?) =
      s.events.filterMap (fun x => x.event.status?) ++ leg.statuses := by
  simp [Session.moved, Session.emit, Session.emitFor, Leg.statuses]

theorem Steady.statuses (hs : h.Steady e) (ha : e.Additive) (ho : h.Opens serve cue s held leg) :
    leg.statuses = h.beginning cue ++ (if h.hushes cue then [] else
      if leg.run.status = .running then [] else [leg.run.status]) := by
  cases ho with
  | start hidle =>
      have hp : h.session.current.processing = false := by rw [hs.fresh hidle]
      obtain ⟨inner, hleg, hreports⟩ := Session.opening_reports ha hp
      rw [hs.engine, hleg]
      simp only [beginning, begins, hidle, decide_true, if_true, hushes, Bool.false_eq_true,
        if_false]
      exact congrArg (.running :: ·) hreports.statuses
  | @send text hf =>
      simp only [beginning, begins, hushes, hf, decide_true, Bool.true_and, hs.engine]
      cases hh : Session.hushes e h.session.current text with
      | true =>
          rw [if_pos rfl, List.append_nil]
          exact (Session.reply_hushed hh).2.2
      | false =>
          obtain ⟨asker, inner, hnode, hleg, hreports⟩ := Session.reply_reports ha hf.2 hh
          rw [hleg, hnode, Option.isSome_some, if_pos rfl, if_neg Bool.false_ne_true]
          exact congrArg (.running :: ·) hreports.statuses
  | @settle place w hw hown =>
      have hmem := List.mem_of_getElem? hw
      have hrunning := hs.busy w hmem _ List.mem_cons_self hown.symm
      rw [hs.engine]
      exact (Engine.takeUp_reports ha (hs.held w hmem).1 hrunning _ _).statuses

theorem Opens.status_of_hushes (ho : h.Opens serve cue s held leg) (hh : h.hushes cue = true) :
    (leg.run.status = .waiting ∨ leg.run.status = .failed) ∧
      (h.beginning cue = [.running] ∨ h.beginning cue = [] ∧ leg.run.status = .failed) := by
  cases ho with
  | start hidle => cases hh
  | @send text hf =>
      simp only [hushes, hf, decide_true, Bool.true_and] at hh
      refine ⟨(Session.reply_hushed hh).2.1, ?_⟩
      simp only [beginning, begins, hf, decide_true, Bool.true_and]
      cases hnode : h.session.current.current.bind h.session.engine.flow.node? with
      | none => exact .inr ⟨rfl, Session.reply_of_none hnode⟩
      | some node => exact .inl rfl
  | settle hw hown => cases hh

theorem Steady.open_of_opens (hs : h.Steady e) (ho : h.Opens serve cue s held leg) :
    h.session.current.isTerminal = false ∧
      (h.hushes cue = false → h.beginning cue = [.running] ∨
        h.beginning cue = [] ∧ h.session.current.status = .running) := by
  cases ho with
  | start hidle =>
      refine ⟨by simp [Run.isTerminal, hidle, Status.isTerminal], fun _ => .inl ?_⟩
      simp [beginning, begins, hidle]
  | @send text hf =>
      refine ⟨by simp [Run.isTerminal, hf.1, Status.isTerminal], fun hh => .inl ?_⟩
      simp only [hushes, hf, decide_true, Bool.true_and] at hh
      simp only [beginning, begins, hf, decide_true, Bool.true_and]
      unfold Session.hushes at hh
      cases hnode : h.session.current.current.bind h.session.engine.flow.node? with
      | none => simp [hnode] at hh
      | some node => rfl
  | @settle place w hw hown =>
      have hrunning := hs.busy w (List.mem_of_getElem? hw) _ List.mem_cons_self hown.symm
      exact ⟨by simp [Run.isTerminal, hrunning, Status.isTerminal], fun _ => .inr ⟨rfl, hrunning⟩⟩

/-- What has been told of the run that stands there. -/
structure Chronicled (h : Scene) (hushed : Bool) : Prop where
  alone : h.session.discarded = []
  told : hushed = false → h.told.getLastD .idle = h.session.current.status
  untold : hushed = true → h.told.getLastD .idle ≠ h.session.current.status ∧
    (h.session.current.status = .waiting ∨ h.session.current.status = .failed)
  /-- An end is told once. -/
  ended : h.told.filter Status.isTerminal =
    if h.session.current.isTerminal ∧ hushed = false then [h.session.current.status] else []

/-- What a cue that takes the run on adds to what was told of it. -/
structure Retells (h h' : Scene) (cue : Cue) (leg : Leg) : Prop where
  current : h'.session.current = leg.run
  discarded : h'.session.discarded = h.session.discarded
  told : h'.told = h.told ++ leg.statuses

/-- Without resets a cue does nothing, or it takes the run on. -/
theorem Moves.retells (hm : h.Moves serve cue h') (ha : h.session.discarded = [])
    (hc : cue ≠ .reset) : (h' = h ∧ h.takesOn cue = false) ∨
      ∃ s held leg, h.Opens serve cue s held leg ∧ h.Retells h' cue leg := by
  cases hm with
  | refused hf => exact .inl ⟨rfl, decide_eq_false hf⟩
  | reset => exact absurd rfl hc
  | @returned cue s held leg ho hr =>
      refine .inr ⟨s, held, leg, ho, Session.persist_current _ _, ?_, ?_⟩
      · rw [Session.persist_discarded, ho.frame]
        rfl
      · rw [told, Session.persist_events, told_moved, ho.told]
  | @asks cue s held leg node request ho hr =>
      refine .inr ⟨s, held, leg, ho, rfl, ?_, ?_⟩
      · rw [ho.frame]
        rfl
      · exact (told_moved s leg).trans (congrArg (· ++ leg.statuses) ho.told)
  | drained hw hrun hid hne =>
      rw [ha] at hrun
      cases hrun

theorem Chronicled.make (e : Engine) (store : Option RunStore) :
    (Scene.make e store).Chronicled false := ⟨rfl, fun _ => rfl, by simp, rfl⟩

theorem getLastD_not_terminal {l : List Status} (h : l.filter Status.isTerminal = []) :
    (l.getLastD .idle).isTerminal = false := by
  rw [List.getLastD_eq_getLast?]
  cases hl : l.getLast? with
  | none => rfl
  | some last =>
      have hnot := List.filter_eq_nil_iff.mp h last (List.mem_of_getLast? hl)
      simpa using hnot

theorem Chronicled.not_hushed {before : Bool} (hk : h.Chronicled before)
    (hrunning : h.session.current.status = .running) : before = false := by
  cases before with
  | false => rfl
  | true =>
      obtain ⟨-, hs | hs⟩ := hk.untold rfl
      · simp [hrunning] at hs
      · simp [hrunning] at hs

theorem Chronicled.advances {before : Bool} (hk : h.Chronicled before) (hs : h.Steady e)
    (ha : e.Additive) (ho : h.Opens serve cue s held leg) (ht : h.Retells h' cue leg) :
    h'.Chronicled (h.hushes cue) := by
  obtain ⟨hopen, hbegins⟩ := hs.open_of_opens ho
  have hnone : h.told.filter Status.isTerminal = [] := by
    rw [hk.ended, if_neg (by simp [hopen])]
  have hbeginning : (h.beginning cue).filter Status.isTerminal = [] := by
    unfold beginning
    split <;> rfl
  have htold := ht.told
  rw [hs.statuses ha ho, ← List.append_assoc] at htold
  refine ⟨ht.discarded.trans hk.alone, ?_, ?_, ?_⟩
  · intro hh
    rw [htold, hh, if_neg Bool.false_ne_true, ht.current]
    split
    · rename_i hrunning
      rw [List.append_nil, hrunning]
      rcases hbegins hh with hb | ⟨hb, hmid⟩
      · rw [hb, List.getLastD_concat]
      · rw [hb, List.append_nil, hk.told (hk.not_hushed hmid), hmid]
    · rw [List.getLastD_concat]
  · intro hh
    obtain ⟨hstatus, hbegin⟩ := ho.status_of_hushes hh
    rw [htold, hh, if_pos rfl, List.append_nil, ht.current]
    refine ⟨?_, hstatus⟩
    rcases hbegin with hb | ⟨hb, hfailed⟩
    · rw [hb, List.getLastD_concat]
      rcases hstatus with hs | hs <;> simp [hs]
    · rw [hb, List.append_nil, hfailed]
      intro heq
      have hlast := getLastD_not_terminal hnone
      rw [heq] at hlast
      cases hlast
  · rw [htold, List.filter_append, List.filter_append, hnone, hbeginning, ht.current]
    cases hh : h.hushes cue with
    | true => simp
    | false =>
        cases hstatus : leg.run.status <;> simp [Run.isTerminal, hstatus, Status.isTerminal]

theorem beginning_of_idle (h : Scene) {cue : Cue} (hi : h.takesOn cue = false) :
    h.beginning cue = [] := by
  unfold beginning
  cases cue with
  | call c =>
      have hf : ¬ c.FitsRun h.session.current := of_decide_eq_false hi
      cases c with
      | start =>
          have hidle : h.session.current.status ≠ .idle := hf
          simp [begins, hidle]
      | send text => simp [begins, hf]
  | reset => rfl
  | settle place => rfl

theorem Retells.ending (ht : h.Retells h' cue leg) (hi : h.takesOn cue = true) :
    h.ending h' cue = if leg.run.status = .running then [] else [leg.run.status] := by
  rw [Scene.ending, hi, ht.current]
  by_cases hrunning : leg.run.status = .running <;> simp [hrunning]

theorem chronicle_cons {cues : List Cue} (hstep : h.step serve cue = some h') :
    h.chronicle serve (cue :: cues) =
      h.beginning cue ++ (if h.hushes cue then [] else h.ending h' cue) ++
        h'.chronicle serve cues := by
  simp [chronicle, hstep]

theorem hushed_cons {before : Bool} {cues : List Cue} (hstep : h.step serve cue = some h') :
    h.hushed serve before (cue :: cues) =
      h'.hushed serve (if h.takesOn cue then h.hushes cue else before) cues := by
  simp [hushed, hstep]

theorem Chronicled.play {before : Bool} (hk : h.Chronicled before) (hs : h.Steady e)
    (ha : e.Additive) {cues : List Cue} (hcues : .reset ∉ cues)
    (hplay : h.play serve cues = some h') :
    h'.Chronicled (h.hushed serve before cues) ∧ h'.told = h.told ++ h.chronicle serve cues := by
  induction cues generalizing h before with
  | nil =>
      cases hplay
      exact ⟨hk, (List.append_nil _).symm⟩
  | cons cue cues ih =>
      rw [play_cons] at hplay
      obtain ⟨next, hnext, hrest⟩ := Option.bind_eq_some_iff.mp hplay
      have hmoves := hs.moves ha.loyal hnext
      have hne : cue ≠ .reset := fun heq => hcues (heq ▸ List.mem_cons_self)
      have hmore : .reset ∉ cues := fun hmem => hcues (List.mem_cons_of_mem _ hmem)
      rw [chronicle_cons hnext, hushed_cons hnext]
      rcases hmoves.retells hk.alone hne with ⟨rfl, hidle⟩ | ⟨s, held, leg, ho, ht⟩
      · have hending : next.ending next cue = [] := by simp [ending, hidle]
        rw [hidle, if_neg Bool.false_ne_true, hending, next.beginning_of_idle hidle, ite_self]
        exact ih hk hs hmore hrest
      · have htaken := ho.takesOn
        obtain ⟨hchronicled, htold⟩ :=
          ih (hk.advances hs ha ho ht) (hs.kept ha hmoves) hmore hrest
        rw [htaken, if_pos rfl]
        refine ⟨hchronicled, ?_⟩
        rw [htold, ht.told, hs.statuses ha ho, ht.ending htaken, List.append_assoc]

/-- In a session that is never reset the events tell every status that the run comes to, each once,
but for where an answer leaves it that is asked for again or that no step can take. -/
theorem play_chronicled (ha : e.Additive) (store : Option RunStore) (serve : Serving)
    (cues : List Cue) (hplay : (make e store).play serve cues = some h) (hcues : .reset ∉ cues) :
    h.told = (make e store).chronicle serve cues ∧
      (h.told.getLastD .idle = h.session.current.status ↔
        (make e store).hushed serve false cues = false) ∧
      h.told.filter Status.isTerminal =
        if h.session.current.isTerminal ∧ (make e store).hushed serve false cues = false then
          [h.session.current.status]
        else [] := by
  obtain ⟨hk, htold⟩ := (Chronicled.make e store).play (.make e store) ha hcues hplay
  refine ⟨htold, ⟨?_, hk.told⟩, hk.ended⟩
  intro hlast
  cases hh : (make e store).hushed serve false cues with
  | false => rfl
  | true => exact absurd hlast (hk.untold hh).1

/-- An engine for a flow that asks again until the contact says yes. -/
def insistence : Engine where
  flow := {
    id := "insistence", name := "Insistence", description := "", department := none
    nodes := [
      ⟨"entry", "start", "", .start ⟨"first_message", [], none⟩⟩,
      ⟨"choice", "condition", "", .condition ⟨"keyword", [⟨"yes", "Yes", "yes", none⟩]⟩⟩,
      ⟨"exit", "end", "", .finish ⟨"", false⟩⟩]
    edges := [
      ⟨none, "entry", "choice", none, none⟩,
      ⟨none, "choice", "exit", none, none⟩] }
  settings := { (default : Settings) with unmatchedPolicy := .wait }

/-- The run waits for another answer, and its events tell that it is running. -/
theorem insistence_hushed : insistence.flow.Accepted ∧
    ((make insistence none).play (fun _ => granting)
      [.call .start, .call (.send "maybe")]).map
        (fun h => (h.session.current.status, h.told)) =
          some (.waiting, [.running, .waiting, .running]) := ⟨rfl, by decide⟩

theorem insistence_chronicled : ∃ h, (make insistence none).play (fun _ => granting)
      [.call .start, .call (.send "maybe"), .call (.send "yes")] = some h ∧
    h.told.getLastD .idle = h.session.current.status ∧
    h.told.filter Status.isTerminal = [.completed] := by
  obtain ⟨h, hplay, hstatus⟩ := Option.map_eq_some_iff.mp (show ((make insistence none).play
    (fun _ => granting) [.call .start, .call (.send "maybe"), .call (.send "yes")]).map
      (·.session.current.status) = some .completed by decide)
  obtain ⟨-, hlevel, hended⟩ := play_chronicled (additive_of_nil rfl) none _ _ hplay (by simp)
  have htold : (make insistence none).hushed (fun _ => granting) false
      [.call .start, .call (.send "maybe"), .call (.send "yes")] = false := by decide
  refine ⟨h, hplay, hlevel.mpr htold, ?_⟩
  rw [hended, if_pos ⟨by rw [Run.isTerminal, hstatus]; rfl, htold⟩, hstatus]

end Scene
end Dialogue
