import Dialogue.Proofs.Session.Tracking

/-!
# What every schedule keeps

Without handlers of the host, the current run of a session has not been started, is at rest, or
waits in the middle of a step for an operation that the gateway holds, and of each run it holds one
operation at most (`Sound`).
-/
namespace Dialogue

namespace Run

structure Unstarted (r : Run) : Prop where
  status : r.status = .idle
  current : r.current = none
  failure : r.failure = none
  processing : r.processing = false

theorem AtRest.status_ne {flow : Flow} {r : Run} (h : r.AtRest flow) :
    r.status ≠ .idle ∧ r.status ≠ .running := by
  cases h with
  | waiting node hn ha hs => simp [hs]
  | completed hs => simp [hs]
  | failed reason hr hs => simp [hs]

end Run

def Cue.said : Cue → List String
  | .call c => c.said
  | .reset => []
  | .settle _ => []

namespace Session

variable {e : Engine} {run : Run}

theorem opening_sound (hh : e.handlers = []) (ht : run.Traced e.flow) (hu : run.Unstarted)
    (hc : run.cancelled = false) : (opening e run).Sound e.flow run.answers := by
  apply Leg.Sound.after
  split
  · refine ⟨?_, ht.congr rfl rfl (.inl rfl), fun _ => ?_, by simp⟩
    · exact (begun e run).answers_say_of_ne (by decide : Speaker.system ≠ .user) _ none
    · exact .failed missingStart (by decide) rfl rfl rfl hu.processing
  · rename_i node hstart
    have hmem : ∀ n ∈ some node, n ∈ e.flow.nodes := by
      rintro n ⟨⟩
      exact Flow.mem_of_startNode? hstart
    have hbegin : (begun e run).Traced e.flow := ht.congr rfl rfl (.inr rfl)
    have hrunning : (begun e run).status = .running := rfl
    exact Engine.continueFrom_sound hh hmem hbegin hrunning hu.failure hu.processing hc

theorem reply_sound (hh : e.handlers = []) {node : Node} (hn : node ∈ e.flow.nodes)
    (ha : node.Asks) (ht : run.Traced e.flow) (hcur : run.current = some node.id)
    (hnode : run.current.bind e.flow.node? = some node) (hf : run.failure = none)
    (hp : run.processing = false) (hc : run.cancelled = false) (text : String) :
    (reply e run text).Sound e.flow (run.answers ++ [text]) := by
  simp only [reply, hnode]
  apply Leg.Sound.after
  have hv : node.id ∈ run.visited := ht.current _ hcur
  have hgiven : (answered run text).answers = run.answers ++ [text] :=
    run.answers_say_user text none
  rw [← hgiven]
  have hbegin : (answered run text).Traced e.flow := ht.congr rfl rfl (.inr rfl)
  have htaken := Engine.take_answered e ha (answered run text) text
  generalize take e node (answered run text) text = taken at htaken ⊢
  cases htaken with
  | walkOn h hnext =>
      rw [← h.answers]
      exact Engine.continueFrom_sound hh (fun n hn => (hnext n hn).mem) (hbegin.told hv h) h.status
        (h.failure.trans hf) (h.processing.trans hp) (h.follows.cancelled.trans hc)
  | @waitMore r h =>
      have hsuspend : r.suspend = { r with status := .waiting } := by
        have hrunning : r.status = .running := h.status
        rw [Run.suspend, if_pos hrunning]
      refine ⟨(Run.answers_suspend r).trans h.answers, ?_, fun _ => ?_, by simp⟩
      · show r.suspend.Traced e.flow
        rw [hsuspend]
        exact (hbegin.told hv h).congr rfl rfl (.inr rfl)
      · show r.suspend.AtRest e.flow
        rw [hsuspend]
        exact .waiting node hn ha rfl (h.current.trans hcur) (h.failure.trans hf)
          (h.processing.trans hp)
  | @failed r f h =>
      refine ⟨h.answers,
        (hbegin.told hv h).congr rfl rfl (.inl rfl), fun _ => ?_, by simp⟩
      exact .failed f.report f.report_ne_empty rfl rfl rfl (h.processing.trans hp)

end Session

namespace Scene

/-- What holds of every scene that a schedule leads to. -/
structure Sound (e : Engine) (h : Scene) : Prop extends Tracked e h where
  traced : h.session.current.Traced e.flow
  stands : h.session.current.Unstarted ∨ h.session.current.AtRest e.flow ∨
    ∃ w ∈ h.held, w.pending.run = h.session.current.id
  steps : ∀ w ∈ h.held, ∃ r ∈ h.session.runs, r.id = w.pending.run ∧
    r.AtStep e.flow w.pending.node
  single : (h.held.map (·.pending.run)).Nodup

variable {serve : Serving} {e : Engine} {h h' : Scene} {cue : Cue} {s : Session}
  {held : List Held} {leg : Leg}

theorem mem_eraseIdx_of_run_ne {l : List Held} {place : Nat} {w v : Held}
    (hw : l[place]? = some w) (hv : v ∈ l) (hne : v.pending.run ≠ w.pending.run) :
    v ∈ l.eraseIdx place := by
  obtain ⟨i, hi⟩ := List.mem_iff_getElem?.mp hv
  refine List.mem_eraseIdx_iff_getElem?.mpr ⟨i, ?_, hi⟩
  rintro rfl
  rw [hw] at hi
  exact hne (Option.some.inj hi ▸ rfl)

theorem run_ne_of_nodup {l : List Held} (hl : (l.map (·.pending.run)).Nodup) {place : Nat}
    {w v : Held} (hw : l[place]? = some w) (hv : v ∈ l.eraseIdx place) :
    v.pending.run ≠ w.pending.run := by
  obtain ⟨i, hi, hget⟩ := List.mem_eraseIdx_iff_getElem?.mp hv
  intro heq
  have hlt : i < (l.map (·.pending.run)).length := by
    simpa using (List.getElem?_eq_some_iff.mp hget).1
  apply hi
  apply (List.getElem?_inj hlt hl).mp
  simp [hget, hw, heq]

namespace Sound

theorem make (e : Engine) (store : Option RunStore) : (Scene.make e store).Sound e where
  toTracked := .make e store
  traced := by constructor <;> simp [Scene.make, Session.make]
  stands := .inl ⟨rfl, rfl, rfl, rfl⟩
  steps := by simp [Scene.make]
  single := by simp [Scene.make]

theorem atStep (hs : h.Sound e) {w : Held} (hw : w ∈ h.held) {r : Run}
    (hr : r ∈ h.session.runs) (hid : r.id = w.pending.run) :
    r.AtStep e.flow w.pending.node := by
  obtain ⟨r', hr', hid', hat⟩ := hs.steps w hw
  rw [hs.numbered.eq_of_id hr hr' (hid.trans hid'.symm)]
  exact hat

theorem run_ne_of_mem_eraseIdx (hs : h.Sound e) {place : Nat} {w w' : Held}
    (hw : h.held[place]? = some w) (hw' : w' ∈ h.held.eraseIdx place) :
    w'.pending.run ≠ w.pending.run := run_ne_of_nodup hs.single hw hw'

theorem length_le_one (hs : h.Sound e) {l : List Held} (hl : l.Sublist h.held) {id : String}
    (hid : ∀ w ∈ l, w.pending.run = id) : l.length ≤ 1 := by
  have hrun : l.map (·.pending.run) = List.replicate l.length id := by
    rw [List.eq_replicate_iff]
    simpa using hid
  have hnodup := hs.single.sublist (hl.map _)
  rwa [hrun, List.nodup_replicate] at hnodup

theorem free (hs : h.Sound e) (ho : h.Opens serve cue s held leg) :
    ∀ w ∈ held, w.pending.run ≠ h.session.current.id := by
  intro w hw heq
  cases ho with
  | start hidle =>
      have := (hs.atStep hw (List.mem_cons_self) heq.symm).status
      simp [hidle] at this
  | send hf =>
      have := (hs.atStep hw (List.mem_cons_self) heq.symm).status
      simp [hf.1] at this
  | settle hw' hown => exact hs.run_ne_of_mem_eraseIdx hw' hw (heq.trans hown.symm)

theorem asks_of_waiting (hs : h.Sound e) (hw : h.session.current.status = .waiting) :
    ∃ node ∈ e.flow.nodes, node.Asks ∧ h.session.current.current = some node.id ∧
      h.session.current.failure = none ∧ h.session.current.processing = false := by
  rcases hs.stands with hun | hrest | ⟨w, hmem, hid⟩
  · simp [hun.status] at hw
  · cases hrest with
    | waiting node hn ha _ hc hf hp => exact ⟨node, hn, ha, hc, hf, hp⟩
    | completed hst => simp [hst] at hw
    | failed _ _ hst => simp [hst] at hw
  · have := (hs.atStep hmem List.mem_cons_self hid.symm).status
    simp [this] at hw

theorem unstarted_of_idle (hs : h.Sound e) (hi : h.session.current.status = .idle) :
    h.session.current.Unstarted := by
  rcases hs.stands with hun | hrest | ⟨w, hmem, hid⟩
  · exact hun
  · exact absurd hi hrest.status_ne.1
  · have := (hs.atStep hmem List.mem_cons_self hid.symm).status
    simp [this] at hi

theorem opens (hs : h.Sound e) (ha : e.flow.Accepted) (hh : e.handlers = [])
    (ho : h.Opens serve cue s held leg) :
    leg.Sound e.flow (h.session.current.answers ++ cue.said) := by
  cases ho with
  | start hidle =>
      rw [hs.engine, Cue.said, Call.said, List.append_nil]
      exact Session.opening_sound hh hs.traced (hs.unstarted_of_idle hidle) hs.live
  | @send text hf =>
      obtain ⟨node, hmem, hasks, hcur, hfail, hp⟩ := hs.asks_of_waiting hf.1
      have hnode := ha.bind_node? hmem hcur
      rw [hs.engine]
      exact Session.reply_sound hh hmem hasks hs.traced hcur hnode hfail hp hs.live text
  | @settle place w hw hown =>
      have hmem := List.mem_of_getElem? hw
      rw [hs.engine, Cue.said, List.append_nil]
      exact Engine.takeUp_sound hh (hs.atStep hmem List.mem_cons_self hown.symm)
        (hs.held w hmem).1 hs.traced hs.live _ _

private theorem steps_kept (hs : h.Sound e) (ho : h.Opens serve cue s held leg) {w : Held}
    (hw : w ∈ held) : ∃ r ∈ h.session.discarded, r.id = w.pending.run ∧
      r.AtStep e.flow w.pending.node := by
  obtain ⟨r, hr, hid, hat⟩ := hs.steps w (ho.held_sublist.subset hw)
  rcases List.mem_cons.mp hr with rfl | hr
  · exact absurd hid.symm (hs.free ho w hw)
  · exact ⟨r, hr, hid, hat⟩

protected theorem reset (hs : h.Sound e)
    (ht : Tracked e { h with session := h.session.reset }) :
    Sound e { h with session := h.session.reset } := by
  refine ⟨ht, by constructor <;> simp [Session.reset], .inl ⟨rfl, rfl, rfl, rfl⟩, ?_, hs.single⟩
  intro w hw
  obtain ⟨r, hr, hid, hat⟩ := hs.steps w hw
  rcases List.mem_cons.mp hr with rfl | hr
  · exact ⟨_, List.mem_cons_of_mem _ List.mem_cons_self, hid,
      hat.mem, hat.status, hat.current, hat.failure, hat.processing⟩
  · exact ⟨r, List.mem_cons_of_mem _ (List.mem_cons_of_mem _ hr), hid, hat⟩

-- In the next two the operations that stay held are those of discarded runs (`steps_kept`), and
-- these runs are as they were.

private theorem after_returned (hs : h.Sound e) (ha : e.flow.Accepted) (hh : e.handlers = [])
    (ho : h.Opens serve cue s held leg) (hr : leg.stop = .returned)
    (ht : Tracked e ⟨(s.moved leg).persist leg.run.id, held⟩) :
    Sound e ⟨(s.moved leg).persist leg.run.id, held⟩ := by
  have hleg := hs.opens ha hh ho
  obtain ⟨store, persisted, hpersist⟩ := (s.moved leg).persist_frame leg.run.id
  rw [hpersist, ho.frame] at ht ⊢
  refine ⟨ht, hleg.traced, .inr (.inl (hleg.returned hr)), ?_,
    hs.single.sublist (ho.held_sublist.map _)⟩
  intro w hw
  obtain ⟨r, hr, hrest⟩ := steps_kept hs ho hw
  exact ⟨r, List.mem_cons_of_mem _ hr, hrest⟩

private theorem after_asks (hs : h.Sound e) (ha : e.flow.Accepted) (hh : e.handlers = [])
    (ho : h.Opens serve cue s held leg) {node : Node} {request : EffectRequest}
    (hr : leg.stop = .awaiting node request)
    (ht : Tracked e ⟨{ s.moved leg with requests := s.requests ++ [request] },
      held ++ [⟨s.requests.length, leg.run.id, s.observed, node, request⟩]⟩) :
    Sound e ⟨{ s.moved leg with requests := s.requests ++ [request] },
      held ++ [⟨s.requests.length, leg.run.id, s.observed, node, request⟩]⟩ := by
  have hleg := hs.opens ha hh ho
  obtain ⟨hat, -⟩ := hleg.awaiting node request hr
  rw [ho.frame] at ht ⊢
  refine ⟨ht, hleg.traced,
    .inr (.inr ⟨_, List.mem_append_right _ (List.mem_singleton_self _), rfl⟩), ?_, ?_⟩
  · intro w hw
    rcases List.mem_append.mp hw with hw | hw
    · obtain ⟨r, hr, hrest⟩ := steps_kept hs ho hw
      exact ⟨r, List.mem_cons_of_mem _ hr, hrest⟩
    · rw [List.mem_singleton.mp hw]
      exact ⟨leg.run, List.mem_cons_self, rfl, hat⟩
  · rw [List.map_append, List.nodup_append]
    refine ⟨hs.single.sublist (ho.held_sublist.map _), List.nodup_singleton _, ?_⟩
    intro id hid other hother heq
    obtain ⟨w, hw, rfl⟩ := List.mem_map.mp hid
    rw [List.mem_singleton.mp hother] at heq
    exact hs.free ho w hw (heq.trans (hs.id_of_opens (Engine.loyal_of_nil hh) ho))

private theorem after_drained (hs : h.Sound e) {place : Nat} {w : Held} {run : Run}
    (hw : h.held[place]? = some w) (hid : run.id = w.pending.run)
    (hne : w.pending.run ≠ h.session.current.id) (hleg : leg.run.id = run.id)
    (ht : Tracked e ⟨(h.session.measure serve w).drained leg, h.held.eraseIdx place⟩) :
    Sound e ⟨(h.session.measure serve w).drained leg, h.held.eraseIdx place⟩ := by
  refine ⟨ht, hs.traced, ?_, ?_, hs.single.sublist ((List.eraseIdx_sublist _ _).map _)⟩
  · rcases hs.stands with hun | hrest | ⟨w', hw', hid'⟩
    · exact .inl hun
    · exact .inr (.inl hrest)
    · exact .inr (.inr ⟨w', mem_eraseIdx_of_run_ne hw hw' (hid'.trans_ne hne.symm), hid'⟩)
  · intro w' hw'
    have hother := hs.run_ne_of_mem_eraseIdx hw hw'
    obtain ⟨r, hr, hid', hat⟩ := hs.steps w' ((List.eraseIdx_sublist _ _).subset hw')
    refine ⟨r, ?_, hid', hat⟩
    rcases List.mem_cons.mp hr with rfl | hr
    · exact List.mem_cons_self
    · refine List.mem_cons_of_mem _ (List.mem_map.mpr ⟨r, hr, Session.put_of_ne ?_⟩)
      rw [hid', hleg, hid]
      exact hother

theorem kept (hs : h.Sound e) (ha : e.flow.Accepted) (hh : e.handlers = [])
    (hm : h.Moves serve cue h') : h'.Sound e := by
  have ht := hs.toTracked.kept (Engine.loyal_of_nil hh) hm
  cases hm with
  | refused => exact hs
  | reset => exact hs.reset ht
  | returned ho hr => exact after_returned hs ha hh ho hr ht
  | asks ho hr => exact after_asks hs ha hh ho hr ht
  | drained hw hrun hid hne =>
      exact after_drained hs hw hid hne (hs.drains serve hw hrun).run.id ht

theorem play (hs : h.Sound e) (ha : e.flow.Accepted) (hh : e.handlers = [])
    {cues : List Cue} (hplay : h.play serve cues = some h') : h'.Sound e :=
  play_induction (fun _ _ _ hs hstep => hs.kept ha hh (hs.moves (Engine.loyal_of_nil hh) hstep))
    hs hplay

end Sound

end Scene
end Dialogue
