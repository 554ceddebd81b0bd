import Dialogue.Proofs.Session.Isolation

/-!
# What becomes of a discarded run

A run that is discarded while it waits for the gateway goes no further: it enters no other step and
asks for nothing more, and nothing of it reaches the store. When the outcome it waited for is
there, its step is concluded on the discarded run alone and the operation returns
(`play_abandoned`).
-/
namespace Dialogue

namespace Run

/-- `r'` is the discarded run `r` once the step that it was in the middle of is concluded. -/
structure Parted (node : Node) (r r' : Run) : Prop where
  id : r'.id = r.id
  vars : r'.vars = r.vars
  visited : r'.visited = r.visited
  current : r'.current = r.current ∨ r'.current = none
  status : r'.status = r.status ∨ r'.status = .failed
  cancelled : r'.cancelled = true
  processing : r'.processing = false
  said : ∃ ms, r'.messages = r.messages ++ ms ∧
    ∀ m ∈ ms, m.speaker = .system ∧ m.nodeId = some node.id
  noted : ∃ x, r'.log = r.log ++ [x] ∧ x.nodeId = node.id ∧ x.nodeType = node.type ∧
    x.nodeLabel = node.label

/-- The run that a reset leaves of it. -/
def marked (r : Run) : Run := { r with cancelled := true }

variable {node : Node} {success : Bool} {r s : Run}

theorem Parted.of_remarked (h : Remarked node success r.marked s) : Parted node r s.released := by
  obtain ⟨x, hx, hid, htype, hlabel, -⟩ := h.noted
  have hframe := h.frame
  refine ⟨?_, h.vars, h.visited, .inl h.current, .inl h.status, ?_, rfl, h.said,
    ⟨x, hx, hid, htype, hlabel⟩⟩
  · show s.id = r.id
    rw [hframe]
    rfl
  · show s.cancelled = true
    rw [hframe]
    rfl

theorem Parted.of_failed (h : Remarked node success r.marked s) (reason : String) :
    Parted node r (s.fail reason).released := by
  have hparted := Parted.of_remarked h
  exact ⟨hparted.id, hparted.vars, hparted.visited, .inr rfl, .inr rfl, hparted.cancelled, rfl,
    hparted.said, hparted.noted⟩

end Run

open Run (Parted)

namespace Engine

/-- A discarded run that is taken up comes back with its step concluded. -/
theorem takeUp_parted {e : Engine} {node : Node} (hs : node.SeeksEffect) (r : Run)
    (request : EffectRequest) (outcome : EffectOutcome) :
    r.Parted node (e.takeUp node request outcome r.marked).run := by
  have hserved := conclude_served e hs request outcome r.marked
  simp only [takeUp]
  generalize e.conclude node request outcome r.marked = left at hserved ⊢
  cases hserved with
  | @onward s result h =>
      have hcancelled : s.cancelled = true := by
        rw [h.frame]
        rfl
      simp only [proceed, onward, Bool.false_eq_true, if_false, walk_cancelled hcancelled]
      split
      · exact .of_remarked h
      · exact .of_remarked h
  | @halts s result reason h hf hr =>
      have hterminal : (s.fail reason).isTerminal = true := rfl
      simp only [proceed, Bool.false_eq_true, if_false, hterminal, if_true]
      exact .of_failed h reason
  | @breaks outcome f =>
      obtain ⟨s, h, hfailed⟩ := Run.Remarked.failAt r.marked node f
      have hterminal : (s.fail f.report).isTerminal = true := rfl
      simp only [hfailed, proceed, Bool.false_eq_true, if_false, hterminal, if_true]
      exact .of_failed h f.report

end Engine

namespace Scene

/-- Where a run `r` stands that was discarded while it waited with an operation `w`. -/
structure Abandoned (r : Run) (rows : Option RunStore) (w : Held) (h : Scene) : Prop where
  run : ∃ r' ∈ h.session.discarded, r'.id = r.id ∧ r'.visited = r.visited ∧ r'.vars = r.vars ∧
    r'.status ≠ .completed ∧
    (w ∈ h.held ∧ r' = r.marked ∨ w ∉ h.held ∧ r.Parted w.pending.node r')
  /-- The gateway holds no other operation of the run, so none was asked for. -/
  calls : ∀ v ∈ h.held, v.pending.run = r.id → v = w
  rows : h.session.rows r.id = rows

variable {serve : Serving} {e : Engine} {h h' : Scene} {cue : Cue} {w : Held} {r : Run}
  {rows : Option RunStore} {s : Session} {held : List Held} {leg : Leg}

theorem Abandoned.of_reset (hs : h.Sound e) (hw : w ∈ h.held)
    (hown : w.pending.run = h.session.current.id) :
    Abandoned h.session.current (h.session.rows h.session.current.id) w
      { h with session := h.session.reset } := by
  have hat := hs.atStep hw List.mem_cons_self hown.symm
  refine ⟨⟨h.session.current.marked, List.mem_cons_self, rfl, rfl, rfl, ?_,
    .inl ⟨hw, rfl⟩⟩, ?_, rfl⟩
  · show h.session.current.status ≠ .completed
    rw [hat.status]
    decide
  · intro v hv hid
    have hv' : v ∈ h.own := List.mem_filter.mpr ⟨hv, by simpa using hid⟩
    rw [hs.own_eq hw hown] at hv'
    exact List.mem_singleton.mp hv'

private theorem Abandoned.opens (ha : h.Abandoned r rows w) (hs : h.Sound e)
    (ho : h.Opens serve cue s held leg) (hwr : w.pending.run = r.id) (newer : List Held)
    (hnewer : ∀ v ∈ newer, v.pending.run = h.session.current.id) {after : Session}
    (hdiscarded : after.discarded = h.session.discarded)
    (hrows : after.rows r.id = h.session.rows r.id) :
    Abandoned r rows w ⟨after, held ++ newer⟩ := by
  obtain ⟨r', hr', hid, hvisited, hvars, hstatus, hstands⟩ := ha.run
  have hne : r.id ≠ h.session.current.id := hid ▸ hs.numbered.current_id_ne hr'
  have hnew : ∀ v ∈ newer, v.pending.run ≠ r.id := by
    intro v hv heq
    exact hne (heq.symm.trans (hnewer v hv))
  have hkept : w ∈ held ++ newer ↔ w ∈ h.held := by
    constructor
    · intro hw
      rcases List.mem_append.mp hw with hw | hw
      · exact ho.held_sublist.subset hw
      · exact absurd hwr (hnew w hw)
    · intro hw
      apply List.mem_append_left
      cases ho with
      | start hidle => exact hw
      | send hf => exact hw
      | settle hplace hown =>
          apply mem_eraseIdx_of_run_ne hplace hw
          rw [hwr, hown]
          exact hne
  refine ⟨⟨r', ?_, hid, hvisited, hvars, hstatus, ?_⟩, ?_, hrows.trans ha.rows⟩
  · show r' ∈ after.discarded
    rw [hdiscarded]
    exact hr'
  · show w ∈ held ++ newer ∧ _ ∨ w ∉ held ++ newer ∧ _
    rw [hkept]
    exact hstands
  · intro v hv hvid
    rcases List.mem_append.mp hv with hv | hv
    · exact ha.calls v (ho.held_sublist.subset hv) hvid
    · exact absurd hvid (hnew v hv)

theorem Abandoned.eq_marked (ha : h.Abandoned r rows w) (hs : h.Sound e) (hw : w ∈ h.held)
    {run : Run} (hrun : run ∈ h.session.discarded) (hid : run.id = r.id) : run = r.marked := by
  obtain ⟨r', hr', hrid, -, -, -, hstands⟩ := ha.run
  have hsame : run = r' := hs.numbered.eq_of_id (List.mem_cons_of_mem _ hrun)
    (List.mem_cons_of_mem _ hr') (hid.trans hrid.symm)
  rcases hstands with ⟨-, hwas⟩ | ⟨hnot, -⟩
  · exact hsame.trans hwas
  · exact absurd hw hnot

theorem Abandoned.parted (ha : h.Abandoned r rows w) (hs : h.Sound e) (serve : Serving)
    (hw : w ∈ h.held) {run : Run} (hrun : run ∈ h.session.discarded) (hid : run.id = r.id) :
    r.Parted w.pending.node (w.leg serve h.session.engine run).run := by
  rw [ha.eq_marked hs hw hrun hid]
  exact Engine.takeUp_parted (hs.held w hw).1 r _ _

private theorem Abandoned.drained_own (ha : h.Abandoned r rows w) (hs : h.Sound e)
    (hwr : w.pending.run = r.id) {place : Nat} {run : Run} (hw : h.held[place]? = some w)
    (hrun : run ∈ h.session.discarded) (hid : run.id = w.pending.run) :
    Abandoned r rows w ⟨(h.session.measure serve w).drained (w.leg serve h.session.engine run),
      h.held.eraseIdx place⟩ := by
  have hmem := List.mem_of_getElem? hw
  have hleg := hs.toTracked.drains serve hw hrun
  have hparted := ha.parted hs serve hmem hrun (hid.trans hwr)
  have hrunning : r.status = .running := by
    have hstarted := (hs.atStep hmem (List.mem_cons_of_mem _ hrun) hid).status
    rw [ha.eq_marked hs hmem hrun (hid.trans hwr)] at hstarted
    exact hstarted
  have hgone : w ∉ h.held.eraseIdx place := fun hstill =>
    hs.run_ne_of_mem_eraseIdx hw hstill rfl
  refine ⟨⟨_, List.mem_map.mpr ⟨run, hrun, if_pos hleg.run.id.symm⟩, hparted.id, hparted.visited,
    hparted.vars, ?_, .inr ⟨hgone, hparted⟩⟩, ?_, ha.rows⟩
  · rcases hparted.status with hst | hst
    · rw [hst, hrunning]
      decide
    · rw [hst]
      decide
  · exact fun u hu => ha.calls u ((List.eraseIdx_sublist _ _).subset hu)

private theorem Abandoned.drained_other (ha : h.Abandoned r rows w) (hs : h.Sound e)
    (hwr : w.pending.run = r.id) {place : Nat} {v : Held} {run : Run}
    (hv : h.held[place]? = some v) (hrun : run ∈ h.session.discarded)
    (hid : run.id = v.pending.run) (hne : v.pending.run ≠ r.id) :
    Abandoned r rows w ⟨(h.session.measure serve v).drained (v.leg serve h.session.engine run),
      h.held.eraseIdx place⟩ := by
  obtain ⟨r', hr', hrid, hvisited, hvars, hstatus, hstands⟩ := ha.run
  have hother : r'.id ≠ (v.leg serve h.session.engine run).run.id := by
    rw [(hs.toTracked.drains serve hv hrun).run.id, hid, hrid]
    exact hne.symm
  have hkept : w ∈ h.held.eraseIdx place ↔ w ∈ h.held := by
    constructor
    · exact fun hw => (List.eraseIdx_sublist _ _).subset hw
    · intro hw
      apply mem_eraseIdx_of_run_ne hv hw
      rw [hwr]
      exact hne.symm
  have hstill : r' ∈ h.session.discarded.map
      (Session.put (v.leg serve h.session.engine run).run) :=
    List.mem_map.mpr ⟨r', hr', Session.put_of_ne hother⟩
  refine ⟨⟨r', hstill, hrid, hvisited, hvars, hstatus, ?_⟩, ?_, ha.rows⟩
  · show w ∈ h.held.eraseIdx place ∧ _ ∨ w ∉ h.held.eraseIdx place ∧ _
    rw [hkept]
    exact hstands
  · exact fun u hu => ha.calls u ((List.eraseIdx_sublist _ _).subset hu)

private theorem Abandoned.drained (ha : h.Abandoned r rows w) (hs : h.Sound e)
    (hwr : w.pending.run = r.id) {place : Nat} {v : Held} {run : Run}
    (hv : h.held[place]? = some v) (hrun : run ∈ h.session.discarded)
    (hid : run.id = v.pending.run) :
    Abandoned r rows w ⟨(h.session.measure serve v).drained (v.leg serve h.session.engine run),
      h.held.eraseIdx place⟩ := by
  by_cases hvr : v.pending.run = r.id
  · have hvw : v = w := ha.calls v (List.mem_of_getElem? hv) hvr
    subst hvw
    exact ha.drained_own hs hwr hv hrun hid
  · exact ha.drained_other hs hwr hv hrun hid hvr

/-- No step of a schedule takes an abandoned run further. -/
theorem Moves.abandoned (hm : h.Moves serve cue h') (ha : h.Abandoned r rows w) (hs : h.Sound e)
    (hl : e.Loyal) (hwr : w.pending.run = r.id) : h'.Abandoned r rows w := by
  have hne : h.session.current.id ≠ r.id := by
    obtain ⟨r', hr', hid, -⟩ := ha.run
    rw [← hid]
    exact (hs.numbered.current_id_ne hr').symm
  have hrows := hm.rows_of_ne hs.toTracked hl hne
  cases hm with
  | refused => exact ha
  | reset =>
      obtain ⟨r', hr', hrest⟩ := ha.run
      exact ⟨⟨r', List.mem_cons_of_mem _ hr', hrest⟩, ha.calls, ha.rows⟩
  | @returned _ s _ leg ho hr =>
      have hdiscarded : ((s.moved leg).persist leg.run.id).discarded = h.session.discarded := by
        rw [Session.persist_discarded, ho.frame]
        rfl
      have hkept := ha.opens hs ho hwr [] (by simp) hdiscarded hrows
      rw [List.append_nil] at hkept
      exact hkept
  | @asks _ s _ leg node request ho hr =>
      have hdiscarded : (s.moved leg).discarded = h.session.discarded := by
        rw [ho.frame]
        rfl
      refine ha.opens hs ho hwr _ ?_ hdiscarded hrows
      intro v hv
      rw [List.mem_singleton.mp hv]
      exact hs.id_of_opens hl ho
  | drained hw hrun hid hother => exact ha.drained hs hwr hw hrun hid

theorem Abandoned.play (ha : h.Abandoned r rows w) (hs : h.Sound e) (hf : e.flow.Accepted)
    (hh : e.handlers = []) (hwr : w.pending.run = r.id) {cues : List Cue}
    (hplay : h.play serve cues = some h') : h'.Abandoned r rows w := by
  have hl := Engine.loyal_of_nil hh
  have hboth : h'.Abandoned r rows w ∧ h'.Sound e := by
    refine play_induction (P := fun h => h.Abandoned r rows w ∧ h.Sound e) ?_ ⟨ha, hs⟩ hplay
    rintro h cue h' ⟨ha, hs⟩ hstep
    have hm := hs.moves hl hstep
    exact ⟨hm.abandoned ha hs hl hwr, hs.kept hf hh hm⟩
  exact hboth.1

theorem Abandoned.closes (ha : h.Abandoned r rows w) (hs : h.Sound e)
    (hwr : w.pending.run = r.id) (serve : Serving) {place : Nat} (hw : h.held[place]? = some w) :
    ∃ r' events, r.Parted w.pending.node r' ∧
      h.session.answer w.pending (w.outcome serve) =
        ({ h.session with
            discarded := h.session.discarded.map (Session.put r')
            events := h.session.events ++ events }, .returned r'.snapshot) := by
  have hmem := List.mem_of_getElem? hw
  obtain ⟨run, hrun, hid, -⟩ := ha.run
  have hfound : h.session.run? w.pending.run = some run := by
    rw [hwr, ← hid]
    exact hs.numbered.run?_id (List.mem_cons_of_mem _ hrun)
  have hleg := hs.toTracked.drains serve hw hrun
  have hother : (w.leg serve h.session.engine run).run.id ≠
      (h.session.measure serve w).current.id := by
    rw [hleg.run.id]
    exact hs.numbered.current_id_ne hrun
  have hanswer := Session.answer_of_run? hfound serve
  rw [Session.absorb_discarded hother hleg.stop] at hanswer
  have hparted := ha.parted hs serve hmem hrun hid
  refine ⟨_, ⟨w.pending.observed, Engine.measured w.pending.node w.pending.request
      (w.outcome serve)⟩ ::
    (w.leg serve h.session.engine run).events.map fun x => ⟨h.session.observed, x⟩, hparted, ?_⟩
  rw [hanswer]
  simp [Session.drained, Session.measure, Session.emit, Session.emitFor]

/-- From a reset on, whatever callers and the gateway do, a run that was waiting for the gateway is
left where it was. -/
theorem play_abandoned (hf : e.flow.Accepted) (hh : e.handlers = []) (store : Option RunStore)
    (serve : Serving) (cues : List Cue) (hplay : (make e store).play serve cues = some h)
    (hw : w ∈ h.held) (hown : w.pending.run = h.session.current.id) (more : List Cue)
    (hmore : h.play serve (.reset :: more) = some h') :
    h'.Abandoned h.session.current (h.session.rows h.session.current.id) w ∧
      ∀ place : Nat, h'.held[place]? = some w → ∃ r events,
        h.session.current.Parted w.pending.node r ∧
        h'.session.answer w.pending (w.outcome serve) =
          ({ h'.session with
              discarded := h'.session.discarded.map (Session.put r)
              events := h'.session.events ++ events }, .returned r.snapshot) := by
  have hs : h.Sound e := (Sound.make e store).play hf hh hplay
  have hreset : ({ h with session := h.session.reset } : Scene).play serve more = some h' := hmore
  have hmoves : h.Moves serve .reset { h with session := h.session.reset } := .reset
  have hsreset := hs.kept hf hh hmoves
  have ha := (Abandoned.of_reset hs hw hown).play hsreset hf hh hown hreset
  exact ⟨ha, fun place hplace => ha.closes (hsreset.play hf hh hreset) hown serve hplace⟩

/-- Two runs are discarded one after the other, and then the gateway gives up on the first. -/
theorem errand_abandoned : ∃ h h' w,
    (make errand none).play (fun _ _ => .error (.raised .runtime "down")) [.call .start] = some h ∧
    h.play (fun _ _ => .error (.raised .runtime "down")) [.reset, .call .start, .reset] = some h' ∧
    h'.held[0]? = some w ∧ h'.held.length = 2 ∧
    h'.Abandoned h.session.current (h.session.rows h.session.current.id) w ∧
    ∃ r events, h.session.current.Parted w.pending.node r ∧
      h'.session.answer w.pending (.error (.raised .runtime "down")) =
        ({ h'.session with
            discarded := h'.session.discarded.map (Session.put r)
            events := h'.session.events ++ events }, .returned r.snapshot) := by
  obtain ⟨h, hplay, hmapped⟩ := Option.bind_eq_some_iff.mp (show ((make errand none).play
    (fun _ _ => .error (.raised .runtime "down")) [.call .start]).bind (fun h =>
      (h.play (fun _ _ => .error (.raised .runtime "down")) [.reset, .call .start, .reset]).map
        fun h' => (h.held.map (·.pending.run), h.session.current.id,
          h'.held.map (·.pending.run))) = some (["run-0"], "run-0", ["run-0", "run-1"]) by decide)
  obtain ⟨h', hmore, hruns⟩ := Option.map_eq_some_iff.mp hmapped
  simp only [Prod.mk.injEq] at hruns
  obtain ⟨hheld, hid, hboth⟩ := hruns
  obtain ⟨w, hw, hrun⟩ := List.map_eq_singleton_iff.mp hheld
  have hmem : w ∈ h.held := by simp [hw]
  obtain ⟨habandoned, hcloses⟩ := play_abandoned errand_accepted rfl none _ _ hplay hmem
    (hrun.trans hid.symm) _ hmore
  have hlength : h'.held.length = 2 := by simpa using congrArg List.length hboth
  have hfirst : h'.held[0]?.map (·.pending.run) = some "run-0" := by
    rw [← List.getElem?_map, hboth]
    rfl
  obtain ⟨v, hv, hvrun⟩ := Option.map_eq_some_iff.mp hfirst
  have hsame := habandoned.calls v (List.mem_of_getElem? hv) (hvrun.trans hid.symm)
  subst hsame
  exact ⟨h, h', v, hplay, hmore, hv, hlength, habandoned, hcloses 0 hv⟩

end Scene
end Dialogue
