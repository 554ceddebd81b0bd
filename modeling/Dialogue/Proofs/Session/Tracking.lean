import Dialogue.Proofs.Session.Schedule

/-!
# The runs of a session

The runs of a session have distinct ids, all but the latest are discarded, and each operation that
the gateway holds is one of a run that was started (`Tracked`). This is so whatever the handlers of
the host do, as long as they are loyal. Given that, a cue does one of five things (`Moves`).
-/
namespace Dialogue

open Run (Follows Lasting)

namespace Session

/-- The runs of a session, latest first. -/
def runs (s : Session) : List Run := s.current :: s.discarded

theorem runId_injective : Function.Injective runId := by
  intro m n h
  exact Number.eq_of_toString_eq ((String.append_right_inj "run-").mp h)

/-- The runs bear the numbers from the latest one down. -/
def Numbered (s : Session) : Prop :=
  s.runs.map (·.id) = (List.range s.runs.length).reverse.map runId

variable {s : Session}

theorem Numbered.nodup (h : s.Numbered) : (s.runs.map (·.id)).Nodup := by
  rw [h]
  exact (List.nodup_reverse.mpr List.nodup_range).map runId_injective

theorem Numbered.reset (h : s.Numbered) : s.reset.Numbered := by
  have hids : s.reset.runs.map (·.id) = runId s.runs.length :: s.runs.map (·.id) := rfl
  rw [Numbered, hids, h, show s.reset.runs.length = s.runs.length + 1 from rfl, List.range_succ,
    List.reverse_append]
  rfl

theorem Numbered.reset_id_not_mem (h : s.Numbered) : s.reset.current.id ∉ s.runs.map (·.id) := by
  have hnodup := h.reset.nodup
  rw [runs, List.map_cons, List.nodup_cons] at hnodup
  intro hmem
  apply hnodup.1
  simpa [Session.reset, runs] using hmem

theorem Numbered.current_id (h : s.Numbered) : s.current.id = runId s.discarded.length := by
  have hids : s.runs.map (·.id) = (List.range s.runs.length).reverse.map runId := h
  have hlen : s.runs.length = s.discarded.length + 1 := rfl
  rw [hlen, List.range_succ, List.reverse_append] at hids
  exact (List.cons.inj hids).1

theorem Numbered.current_id_ne (h : s.Numbered) {r : Run} (hr : r ∈ s.discarded) :
    r.id ≠ s.current.id := by
  have hnodup := h.nodup
  rw [runs, List.map_cons, List.nodup_cons] at hnodup
  intro heq
  exact hnodup.1 (heq ▸ List.mem_map_of_mem hr)

theorem Numbered.eq_of_id (h : s.Numbered) {r r' : Run} (hr : r ∈ s.runs) (hr' : r' ∈ s.runs)
    (hid : r.id = r'.id) : r = r' := List.inj_on_of_nodup_map h.nodup hr hr' hid

theorem run?_eq_find? (s : Session) (id : String) : s.run? id = s.runs.find? (·.id = id) := by
  by_cases h : s.current.id = id <;> simp [run?, runs, h]

theorem Numbered.run?_id (h : s.Numbered) {r : Run} (hr : r ∈ s.runs) : s.run? r.id = some r := by
  rw [run?_eq_find?]
  exact find?_key (fun r : Run => r.id) h.nodup hr

theorem runs_drained {serve : Serving} {w : Held} {leg : Leg} (hne : s.current.id ≠ leg.run.id) :
    ((s.measure serve w).drained leg).runs = s.runs.map (put leg.run) := by
  have hcurrent : put leg.run s.current = s.current := put_of_ne hne
  have hmap : s.runs.map (put leg.run) = put leg.run s.current :: s.discarded.map (put leg.run) :=
    rfl
  rw [hmap, hcurrent]
  rfl

/-! ### What a call leaves alone -/

variable {e : Engine} {R : Run → Run → Prop}

theorem opening_keeps (hR : Lasting R) (hk : e.Keeping R) (run : Run) :
    (opening e run).Keeps R (begun e run) := by
  apply Leg.Keeps.after
  split
  · exact ⟨hR.trans (hR.say _ _ _ _) (hR.fail _ _), by simp⟩
  · exact Engine.continueFrom_keeps hR hk _ _

theorem reply_keeps (hR : Lasting R) (hk : e.Keeping R) {run : Run} {text : String}
    (hanswered : R run (answered run text)) : (reply e run text).Keeps R run := by
  unfold reply
  split
  · exact ⟨hR.fail _ _, by simp⟩
  · rename_i node _
    apply Leg.Keeps.after
    have htaken := hR.trans hanswered (Engine.take_keeps hR e node (answered run text) text)
    generalize take e node (answered run text) text = taken at htaken ⊢
    cases taken with
    | walkOn r next => exact (Engine.continueFrom_keeps hR hk next r).of_run hR htaken
    | waitMore r => exact ⟨hR.trans htaken (hR.suspend r), by simp⟩
    | failed r events => exact ⟨htaken, by simp⟩

end Session

namespace Scene

/-- What holds of every scene that a schedule leads to, whatever the handlers of the host do. -/
structure Tracked (e : Engine) (h : Scene) : Prop where
  engine : h.session.engine = e
  numbered : h.session.Numbered
  live : h.session.current.cancelled = false
  dead : ∀ r ∈ h.session.discarded, r.cancelled = true
  held : ∀ w ∈ h.held, w.pending.node.SeeksEffect ∧
    ∃ r ∈ h.session.runs, r.id = w.pending.run ∧ r.status ≠ .idle

/-- A cue that takes the current run on: the session before it takes over the leg, the operations
that stay held, and the leg. -/
inductive Opens (serve : Serving) (h : Scene) : Cue → Session → List Held → Leg → Prop where
  | start (hs : h.session.current.status = .idle) :
      Opens serve h (.call .start) { h.session with observed := h.session.current.id } h.held
        (Session.opening h.session.engine h.session.current)
  | send {text : String} (hf : (Call.send text).FitsRun h.session.current) :
      Opens serve h (.call (.send text)) h.session h.held
        (Session.reply h.session.engine h.session.current text)
  | settle {place : Nat} {w : Held} (hw : h.held[place]? = some w)
      (hown : w.pending.run = h.session.current.id) :
      Opens serve h (.settle place) (h.session.measure serve w) (h.held.eraseIdx place)
        (w.leg serve h.session.engine h.session.current)

/-- What a cue does to a scene. -/
inductive Moves (serve : Serving) (h : Scene) : Cue → Scene → Prop where
  | refused {c : Call} (hc : ¬ c.FitsRun h.session.current) : Moves serve h (.call c) h
  | reset : Moves serve h .reset { h with session := h.session.reset }
  | returned {cue : Cue} {s : Session} {held : List Held} {leg : Leg}
      (ho : h.Opens serve cue s held leg) (hr : leg.stop = .returned) :
      Moves serve h cue ⟨(s.moved leg).persist leg.run.id, held⟩
  | asks {cue : Cue} {s : Session} {held : List Held} {leg : Leg} {node : Node}
      {request : EffectRequest} (ho : h.Opens serve cue s held leg)
      (hr : leg.stop = .awaiting node request) :
      Moves serve h cue ⟨{ s.moved leg with requests := s.requests ++ [request] },
        held ++ [⟨s.requests.length, leg.run.id, s.observed, node, request⟩]⟩
  | drained {place : Nat} {w : Held} {run : Run} (hw : h.held[place]? = some w)
      (hrun : run ∈ h.session.discarded) (hid : run.id = w.pending.run)
      (hne : w.pending.run ≠ h.session.current.id) :
      Moves serve h (.settle place)
        ⟨(h.session.measure serve w).drained (w.leg serve h.session.engine run),
          h.held.eraseIdx place⟩

variable {serve : Serving} {e : Engine} {h h' : Scene} {cue : Cue} {s : Session}
  {held : List Held} {leg : Leg}

namespace Opens

/-- Only what is observed and recorded may differ before a leg is taken over. -/
theorem frame (ho : h.Opens serve cue s held leg) :
    s = { h.session with observed := s.observed, events := s.events } := by
  cases ho <;> rfl

theorem current (ho : h.Opens serve cue s held leg) : s.current = h.session.current := by
  rw [ho.frame]

theorem held_sublist (ho : h.Opens serve cue s held leg) : held.Sublist h.held := by
  cases ho with
  | start hidle => exact .refl _
  | send hf => exact .refl _
  | settle hw hown => exact List.eraseIdx_sublist _ _

theorem step_eq (ho : h.Opens serve cue s held leg) :
    h.step serve cue = after held h.session.requests.length (s.absorb leg) := by
  cases ho with
  | start hs => rw [step, Call.on, Session.start_of_idle hs]
  | send hf => rw [step, Call.on, Session.send_of_waiting hf]
  | @settle place w hw hown =>
      have hrun : h.session.run? w.pending.run = some h.session.current := by
        rw [Session.run?, if_pos hown.symm]
      rw [step, hw, Option.bind_some, Session.answer_of_run? hrun]

/-- What taking over the leg leaves, by how the leg comes to its end. -/
theorem step_cases (ho : h.Opens serve cue s held leg) (hid : leg.run.id = s.current.id)
    (hstep : h.step serve cue = some h') :
    (leg.stop = .returned ∧ h' = ⟨(s.moved leg).persist leg.run.id, held⟩) ∨
      ∃ node request, leg.stop = .awaiting node request ∧
        h' = ⟨{ s.moved leg with requests := s.requests ++ [request] },
          held ++ [⟨s.requests.length, leg.run.id, s.observed, node, request⟩]⟩ := by
  have hnumber : h.session.requests.length = s.requests.length := by rw [ho.frame]
  rw [ho.step_eq, hnumber] at hstep
  cases hstop : leg.stop with
  | returned =>
      rw [Session.absorb_returned hid hstop] at hstep
      cases hstep
      exact .inl ⟨rfl, rfl⟩
  | awaiting node request =>
      rw [Session.absorb_awaiting hid hstop] at hstep
      cases hstep
      exact .inr ⟨node, request, rfl, rfl⟩
  | endless =>
      rw [Session.absorb, hstop] at hstep
      cases hstep

theorem current_of_step (ho : h.Opens serve cue s held leg) (hid : leg.run.id = s.current.id)
    (hstep : h.step serve cue = some h') : h'.session.current = leg.run := by
  rcases ho.step_cases hid hstep with ⟨-, rfl⟩ | ⟨node, request, -, rfl⟩
  · exact Session.persist_current _ _
  · rfl

end Opens

namespace Tracked

theorem make (e : Engine) (store : Option RunStore) : (Scene.make e store).Tracked e where
  engine := rfl
  numbered := rfl
  live := rfl
  dead := by simp [Scene.make, Session.make]
  held := by simp [Scene.make]

theorem started_of_run (ht : h.Tracked e) {w : Held} (hw : w ∈ h.held) {r : Run}
    (hr : r ∈ h.session.runs) (hid : r.id = w.pending.run) : r.status ≠ .idle := by
  obtain ⟨-, r', hr', hid', hstarted⟩ := ht.held w hw
  rw [ht.numbered.eq_of_id hr hr' (hid.trans hid'.symm)]
  exact hstarted

theorem opens (ht : h.Tracked e) (hl : e.Loyal) (ho : h.Opens serve cue s held leg) :
    leg.Follows h.session.current ∧ leg.run.status ≠ .idle := by
  have hrunning : Status.running ≠ .idle := by decide
  cases ho with
  | start hidle =>
      rw [ht.engine]
      have hleg := Session.opening_keeps Follows.lasting hl h.session.current
      have hbegun : Follows h.session.current (Session.begun e h.session.current) :=
        ⟨rfl, rfl, fun _ => hrunning⟩
      exact ⟨(hleg.of_run Follows.lasting hbegun).follows, hleg.run.started hrunning⟩
  | @send text hf =>
      rw [ht.engine]
      have hanswered : Follows h.session.current (Session.answered h.session.current text) :=
        ⟨rfl, rfl, fun _ => hrunning⟩
      have hleg := Session.reply_keeps Follows.lasting hl hanswered
      exact ⟨hleg.follows, hleg.run.started (by simp [hf.1])⟩
  | @settle place w hw hown =>
      have hmem := List.mem_of_getElem? hw
      rw [ht.engine]
      have hleg := Engine.takeUp_keeps Follows.lasting hl (ht.held w hmem).1 w.pending.request
        (w.outcome serve) h.session.current
      exact ⟨hleg.follows, hleg.run.started (ht.started_of_run hmem List.mem_cons_self hown.symm)⟩

/-- What lasts when a run begins and when it is answered lasts when a cue takes the run on. -/
theorem opens_keeps (ht : h.Tracked e) {R : Run → Run → Prop} (hR : Lasting R)
    (hk : e.Keeping R) (hbegun : ∀ run, R run (Session.begun e run))
    (hanswered : ∀ run text, R run (Session.answered run text))
    (ho : h.Opens serve cue s held leg) : R h.session.current leg.run := by
  cases ho with
  | start hidle =>
      rw [ht.engine]
      exact hR.trans (hbegun _) (Session.opening_keeps hR hk h.session.current).run
  | @send text hf =>
      rw [ht.engine]
      exact (Session.reply_keeps hR hk (hanswered _ text)).run
  | @settle place w hw hown =>
      rw [ht.engine]
      exact (Engine.takeUp_keeps hR hk (ht.held w (List.mem_of_getElem? hw)).1 _ _ _).run

theorem id_of_opens (ht : h.Tracked e) (hl : e.Loyal) (ho : h.Opens serve cue s held leg) :
    leg.run.id = h.session.current.id := (ht.opens hl ho).1.run.id

theorem drains (ht : h.Tracked e) (serve : Serving) {place : Nat} {w : Held} {run : Run}
    (hw : h.held[place]? = some w) (hrun : run ∈ h.session.discarded) :
    (w.leg serve h.session.engine run).Drains run :=
  Engine.takeUp_drains (ht.held w (List.mem_of_getElem? hw)).1 (ht.dead run hrun) _ _

private theorem moves_of_opens (ht : h.Tracked e) (hl : e.Loyal)
    (ho : h.Opens serve cue s held leg) (hstep : h.step serve cue = some h') :
    h.Moves serve cue h' := by
  have hid : leg.run.id = s.current.id := by rw [ht.id_of_opens hl ho, ho.current]
  rcases ho.step_cases hid hstep with ⟨hstop, rfl⟩ | ⟨node, request, hstop, rfl⟩
  · exact .returned ho hstop
  · exact .asks ho hstop

theorem moves (ht : h.Tracked e) (hl : e.Loyal) (hstep : h.step serve cue = some h') :
    h.Moves serve cue h' := by
  cases cue with
  | call c =>
      by_cases hf : c.FitsRun h.session.current
      · cases c with
        | start => exact moves_of_opens ht hl (.start hf) hstep
        | send text => exact moves_of_opens ht hl (.send hf) hstep
      · rw [step, Session.call_of_not_fitsRun hf] at hstep
        cases hstep
        exact .refused hf
  | reset =>
      cases hstep
      exact .reset
  | settle place =>
      obtain ⟨w, hw, hstep'⟩ := Option.bind_eq_some_iff.mp hstep
      by_cases hown : w.pending.run = h.session.current.id
      · exact moves_of_opens ht hl (.settle hw hown) hstep
      · obtain ⟨-, run, hrun, hid, -⟩ := ht.held w (List.mem_of_getElem? hw)
        rcases List.mem_cons.mp hrun with rfl | hrun
        · exact absurd hid.symm hown
        · have hleg := ht.drains serve hw hrun
          have hfound := ht.numbered.run?_id (List.mem_cons_of_mem _ hrun)
          rw [hid] at hfound
          rw [Session.answer_of_run? hfound, Session.absorb_discarded _ hleg.stop] at hstep'
          · cases hstep'
            exact .drained hw hrun hid hown
          · rw [hleg.run.id, hid]
            exact hown

end Tracked

namespace Moves

theorem runs_of_drained (ht : h.Tracked e) {place : Nat} {w : Held} {run : Run}
    (hw : h.held[place]? = some w) (hrun : run ∈ h.session.discarded)
    (hid : run.id = w.pending.run) (hne : w.pending.run ≠ h.session.current.id) :
    ((h.session.measure serve w).drained (w.leg serve h.session.engine run)).runs =
      h.session.runs.map (Session.put (w.leg serve h.session.engine run).run) := by
  apply Session.runs_drained
  rw [(ht.drains serve hw hrun).run.id, hid]
  exact hne.symm

theorem ids (hm : h.Moves serve cue h') (ht : h.Tracked e) (hl : e.Loyal) (hc : cue ≠ .reset) :
    h'.session.runs.map (·.id) = h.session.runs.map (·.id) := by
  cases hm with
  | refused => rfl
  | reset => exact absurd rfl hc
  | returned ho hr =>
      simp only [Session.runs, Session.persist_current, Session.persist_discarded]
      rw [ho.frame]
      exact congrArg (· :: h.session.discarded.map (·.id)) (ht.id_of_opens hl ho)
  | asks ho hr =>
      rw [ho.frame]
      exact congrArg (· :: h.session.discarded.map (·.id)) (ht.id_of_opens hl ho)
  | drained hw hrun hid hne =>
      rw [runs_of_drained ht hw hrun hid hne, List.map_map]
      exact List.map_congr_left fun r _ => Session.put_id _ r

theorem numbered (hm : h.Moves serve cue h') (ht : h.Tracked e) (hl : e.Loyal) :
    h'.session.Numbered := by
  by_cases hc : cue = .reset
  · subst hc
    cases hm with
    | reset => exact ht.numbered.reset
    | returned ho => cases ho
    | asks ho => cases ho
  · have hids := hm.ids ht hl hc
    have hlen : h'.session.runs.length = h.session.runs.length := by
      simpa using congrArg List.length hids
    rw [Session.Numbered, hids, hlen]
    exact ht.numbered

theorem started (hm : h.Moves serve cue h') (ht : h.Tracked e) (hl : e.Loyal) {r : Run}
    (hr : r ∈ h.session.runs) (hs : r.status ≠ .idle) :
    ∃ r' ∈ h'.session.runs, r'.id = r.id ∧ r'.status ≠ .idle := by
  have hopened {s : Session} {held : List Held} {leg : Leg} (ho : h.Opens serve cue s held leg) :
      ∃ r' ∈ leg.run :: h.session.discarded, r'.id = r.id ∧ r'.status ≠ .idle := by
    rcases List.mem_cons.mp hr with rfl | hr
    · exact ⟨leg.run, List.mem_cons_self, ht.id_of_opens hl ho, (ht.opens hl ho).2⟩
    · exact ⟨r, List.mem_cons_of_mem _ hr, rfl, hs⟩
  cases hm with
  | refused => exact ⟨r, hr, rfl, hs⟩
  | reset =>
      rcases List.mem_cons.mp hr with rfl | hr
      · exact ⟨_, List.mem_cons_of_mem _ List.mem_cons_self, rfl, hs⟩
      · exact ⟨r, List.mem_cons_of_mem _ (List.mem_cons_of_mem _ hr), rfl, hs⟩
  | returned ho hret =>
      simp only [Session.runs, Session.persist_current, Session.persist_discarded]
      rw [ho.frame]
      exact hopened ho
  | asks ho hret =>
      rw [ho.frame]
      exact hopened ho
  | @drained place w run hw hrun hid hne =>
      rw [runs_of_drained ht hw hrun hid hne]
      refine ⟨_, List.mem_map_of_mem hr, Session.put_id _ r, ?_⟩
      have hleg := (ht.drains serve hw hrun).run
      have hrunStarted := ht.started_of_run (List.mem_of_getElem? hw)
        (List.mem_cons_of_mem _ hrun) hid
      unfold Session.put
      split
      · exact hleg.started hrunStarted
      · exact hs

end Moves

namespace Tracked

theorem kept (ht : h.Tracked e) (hl : e.Loyal) (hm : h.Moves serve cue h') : h'.Tracked e := by
  have hnumbered := hm.numbered ht hl
  have hold {w : Held} (hw : w ∈ h.held) : w.pending.node.SeeksEffect ∧
      ∃ r ∈ h'.session.runs, r.id = w.pending.run ∧ r.status ≠ .idle := by
    obtain ⟨hseeks, r, hr, hid, hstarted⟩ := ht.held w hw
    obtain ⟨r', hr', hid', hstarted'⟩ := hm.started ht hl hr hstarted
    exact ⟨hseeks, r', hr', hid'.trans hid, hstarted'⟩
  cases hm with
  | refused => exact ht
  | reset =>
      refine ⟨ht.engine, hnumbered, rfl, ?_, fun w hw => hold hw⟩
      intro r hr
      rcases List.mem_cons.mp hr with rfl | hr
      · rfl
      · exact ht.dead r hr
  | @returned cue s held leg ho hr =>
      refine ⟨?_, hnumbered, ?_, ?_, fun w hw => hold (ho.held_sublist.subset hw)⟩
      · rw [Session.persist_engine, ho.frame]
        exact ht.engine
      · rw [Session.persist_current]
        exact (ht.opens hl ho).1.run.cancelled.trans ht.live
      · rw [Session.persist_discarded, ho.frame]
        exact ht.dead
  | @asks cue s held leg node request ho hr =>
      refine ⟨?_, hnumbered, ?_, ?_, ?_⟩
      · rw [ho.frame]
        exact ht.engine
      · exact (ht.opens hl ho).1.run.cancelled.trans ht.live
      · rw [ho.frame]
        exact ht.dead
      · intro w hw
        rcases List.mem_append.mp hw with hw | hw
        · exact hold (ho.held_sublist.subset hw)
        · obtain ⟨hleg, hstarted⟩ := ht.opens hl ho
          rw [List.mem_singleton.mp hw]
          exact ⟨hleg.seeks node request hr, leg.run, List.mem_cons_self, rfl, hstarted⟩
  | @drained place w run hw hrun hid hne =>
      refine ⟨ht.engine, hnumbered, ht.live, ?_,
        fun v hv => hold ((List.eraseIdx_sublist _ _).subset hv)⟩
      intro r hr
      rcases Session.eq_or_mem_of_mem_put hr with rfl | hr
      · exact (ht.drains serve hw hrun).run.cancelled.trans (ht.dead run hrun)
      · exact ht.dead r hr

theorem play (ht : h.Tracked e) (hl : e.Loyal) {cues : List Cue}
    (hplay : h.play serve cues = some h') : h'.Tracked e :=
  play_induction (fun _ _ _ ht hstep => ht.kept hl (ht.moves hl hstep)) ht hplay

end Tracked

end Scene
end Dialogue
