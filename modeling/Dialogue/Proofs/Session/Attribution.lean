import Dialogue.Proofs.Session.Tracking

/-!
# The run that an event is recorded for

Events are recorded for the run that was started last. This is the run that an operation is about,
unless that run was discarded and a later one was started while its effect was under way: then only
the measure of the effect is recorded for it, and whatever else comes of its step for the later run.
-/
namespace Dialogue

namespace Session

def startedLast (s : Session) : Option String := (s.runs.find? (·.status ≠ .idle)).map (·.id)

/-- A run that came after the one of an id was started. -/
def Overtaken (s : Session) (id : String) : Prop :=
  ∃ r ∈ s.runs.takeWhile (·.id ≠ id), r.status ≠ .idle

instance (s : Session) (id : String) : Decidable (s.Overtaken id) :=
  inferInstanceAs (Decidable (∃ r ∈ s.runs.takeWhile (·.id ≠ id), r.status ≠ .idle))

variable {s : Session}

theorem startedLast_of_current (h : s.current.status ≠ .idle) :
    s.startedLast = some s.current.id := by
  simp [startedLast, runs, h]

theorem not_overtaken_current (s : Session) : ¬ s.Overtaken s.current.id := by
  simp [Overtaken, runs]

private theorem find?_started_iff {id : String} {l : List Run}
    (hid : ∃ r ∈ l, r.id = id) (hl : ∀ r ∈ l, r.id = id → r.status ≠ .idle) :
    (l.find? (·.status ≠ .idle)).map (·.id) = some id ↔
      ¬ ∃ r ∈ l.takeWhile (·.id ≠ id), r.status ≠ .idle := by
  induction l with
  | nil => simp at hid
  | cons first rest ih =>
      by_cases hfirst : first.id = id
      · have hstarted := hl first List.mem_cons_self hfirst
        simp [hstarted, hfirst]
      · have hrest : ∃ r ∈ rest, r.id = id := by
          obtain ⟨r, hr, hrid⟩ := hid
          rcases List.mem_cons.mp hr with rfl | hr
          · exact absurd hrid hfirst
          · exact ⟨r, hr, hrid⟩
        have htail := ih hrest fun r hr => hl r (List.mem_cons_of_mem _ hr)
        by_cases hidle : first.status = .idle
        · simpa [hidle, hfirst] using htail
        · simp [hidle, hfirst]

/-- A started run is the one that was started last, unless it was overtaken. -/
theorem startedLast_iff (hn : s.Numbered) {r : Run} (hr : r ∈ s.runs) (hs : r.status ≠ .idle) :
    s.startedLast = some r.id ↔ ¬ s.Overtaken r.id := by
  apply find?_started_iff ⟨r, hr, rfl⟩
  intro r' hr' hid
  rw [hn.eq_of_id hr' hr hid]
  exact hs

end Session

namespace Scene

/-- The run that a cue is about. -/
def subject? (h : Scene) : Cue → Option String
  | .call _ => some h.session.current.id
  | .reset => none
  | .settle place => h.held[place]?.map (·.pending.run)

structure Observes (h : Scene) : Prop where
  observed : h.session.observed = h.session.startedLast.getD Observer.unbound
  pending : ∀ w ∈ h.held, w.pending.observed = w.pending.run

variable {serve : Serving} {e : Engine} {h h' : Scene} {cue : Cue} {s : Session}
  {held : List Held} {leg : Leg}

theorem Observes.make (e : Engine) (store : Option RunStore) : (Scene.make e store).Observes :=
  ⟨rfl, by simp [Scene.make]⟩

theorem Opens.subject (ho : h.Opens serve cue s held leg) :
    h.subject? cue = some h.session.current.id := by
  cases ho with
  | start => rfl
  | send => rfl
  | settle hw hown => simp [subject?, hw, hown]

theorem Observes.of_opens (hv : h.Observes) (ht : h.Tracked e)
    (ho : h.Opens serve cue s held leg) : s.observed = h.session.current.id := by
  cases ho with
  | start => rfl
  | send hf =>
      have hstarted : h.session.current.status ≠ .idle := by simp [hf.1]
      rw [hv.observed, Session.startedLast_of_current hstarted]
      rfl
  | settle hw hown =>
      have hstarted :=
        ht.started_of_run (List.mem_of_getElem? hw) List.mem_cons_self hown.symm
      show h.session.observed = _
      rw [hv.observed, Session.startedLast_of_current hstarted]
      rfl

theorem Observes.before (hv : h.Observes) (ho : h.Opens serve cue s held leg) :
    ∃ before, s.events = h.session.events ++ before ∧
      ∀ x ∈ before, x.run = h.session.current.id := by
  cases ho with
  | start => exact ⟨[], by simp⟩
  | send => exact ⟨[], by simp⟩
  | @settle place w hw hown =>
      refine ⟨_, rfl, ?_⟩
      intro x hx
      rw [List.map_singleton, List.mem_singleton] at hx
      rw [hx]
      exact (hv.pending w (List.mem_of_getElem? hw)).trans hown

private theorem find?_started_map {f : Run → Run} {l : List Run} (hid : ∀ r, (f r).id = r.id)
    (hl : ∀ r ∈ l, (f r).status = .idle ↔ r.status = .idle) :
    ((l.map f).find? (·.status ≠ .idle)).map (·.id) =
      (l.find? (·.status ≠ .idle)).map (·.id) := by
  induction l with
  | nil => rfl
  | cons first rest ih =>
      have hfirst := hl first List.mem_cons_self
      have hrest := ih fun r hr => hl r (List.mem_cons_of_mem _ hr)
      by_cases hidle : first.status = .idle
      · simpa [hidle, hfirst.mpr hidle] using hrest
      · have hf : (f first).status ≠ .idle := mt hfirst.mp hidle
        simp [hidle, hf, hid]

theorem Moves.observes (hm : h.Moves serve cue h') (ht : h.Tracked e) (hl : e.Loyal)
    (hv : h.Observes) : h'.Observes := by
  cases hm with
  | refused => exact hv
  | reset =>
      refine ⟨hv.observed.trans ?_, hv.pending⟩
      by_cases hidle : h.session.current.status = .idle
      · simp [Session.startedLast, Session.runs, Session.reset, hidle]
      · simp [Session.startedLast, Session.runs, Session.reset, hidle]
  | @returned cue s held leg ho hr =>
      have hstarted := (ht.opens hl ho).2
      refine ⟨?_, fun w hw => hv.pending w (ho.held_sublist.subset hw)⟩
      have hcurrent : ((s.moved leg).persist leg.run.id).current.status ≠ .idle := by
        rw [Session.persist_current]
        exact hstarted
      rw [Session.startedLast_of_current hcurrent]
      simp only [Session.persist_observed, Session.persist_current]
      exact (hv.of_opens ht ho).trans (ht.id_of_opens hl ho).symm
  | @asks cue s held leg node request ho hr =>
      have hobserved := (hv.of_opens ht ho).trans (ht.id_of_opens hl ho).symm
      have hstarted := (ht.opens hl ho).2
      refine ⟨?_, ?_⟩
      · rw [Session.startedLast_of_current hstarted]
        exact hobserved
      · intro w hw
        rcases List.mem_append.mp hw with hw | hw
        · exact hv.pending w (ho.held_sublist.subset hw)
        · rw [List.mem_singleton.mp hw]
          exact hobserved
  | @drained place w run hw hrun hid hne =>
      have hmem := List.mem_cons_of_mem h.session.current hrun
      have hstarted := ht.started_of_run (List.mem_of_getElem? hw) hmem hid
      have hleg := (ht.drains serve hw hrun).run
      refine ⟨hv.observed.trans ?_,
        fun v hv' => hv.pending v ((List.eraseIdx_sublist _ _).subset hv')⟩
      rw [Session.startedLast, Session.startedLast, Moves.runs_of_drained ht hw hrun hid hne,
        find?_started_map (Session.put_id _)]
      intro r hr
      by_cases hput : r.id = (w.leg serve h.session.engine run).run.id
      · have hsame : r = run := ht.numbered.eq_of_id hr hmem (hput.trans hleg.id)
        rw [Session.put, if_pos hput, hsame]
        exact iff_of_false (hleg.started hstarted) hstarted
      · rw [Session.put_of_ne hput]

/-- How the events of a step that is about a run are recorded. -/
structure Attributed (h : Scene) (id : String) (new : List RunEvent) : Prop where
  /-- They are recorded for the run just when no later one was started. -/
  own_iff : (∀ x ∈ new, x.run = id) ↔ ¬ h.session.Overtaken id
  /-- Otherwise the run that was started last stands in for it. -/
  other : ∀ x ∈ new, x.run = id ∨ h.session.startedLast = some x.run

theorem Attributed.current {new : List RunEvent}
    (hnew : ∀ x ∈ new, x.run = h.session.current.id) : h.Attributed h.session.current.id new :=
  ⟨iff_of_true hnew h.session.not_overtaken_current, fun x hx => .inl (hnew x hx)⟩

private theorem Observes.leg_attributed (hv : h.Observes) (ht : h.Tracked e)
    (ho : h.Opens serve cue s held leg) : ∃ new,
    s.events ++ leg.events.map (RunEvent.mk s.observed) = h.session.events ++ new ∧
      h.Attributed h.session.current.id new := by
  obtain ⟨before, hbefore, hall⟩ := hv.before ho
  refine ⟨before ++ leg.events.map (RunEvent.mk s.observed), ?_, .current ?_⟩
  · rw [hbefore, List.append_assoc]
  · intro x hx
    rcases List.mem_append.mp hx with hx | hx
    · exact hall x hx
    · obtain ⟨event, -, rfl⟩ := List.mem_map.mp hx
      exact hv.of_opens ht ho

/-- The measure is recorded for the run that asked, what follows for the one observed by then. -/
private theorem Observes.drained_attributed (hv : h.Observes) (ht : h.Tracked e) {place : Nat}
    {w : Held} {run : Run} (hw : h.held[place]? = some w) (hrun : run ∈ h.session.discarded)
    (hid : run.id = w.pending.run) (measure : Event) {events : List Event} (hne : events ≠ []) :
    h.Attributed w.pending.run
      (⟨w.pending.observed, measure⟩ :: events.map (RunEvent.mk h.session.observed)) := by
  have hmem := List.mem_cons_of_mem h.session.current hrun
  have hstarted := ht.started_of_run (List.mem_of_getElem? hw) hmem hid
  have hiff := Session.startedLast_iff ht.numbered hmem hstarted
  rw [hid] at hiff
  have hpending := hv.pending w (List.mem_of_getElem? hw)
  obtain ⟨last, hlast⟩ : ∃ last, h.session.startedLast = some last := by
    rw [Session.startedLast, ← Option.isSome_iff_exists, Option.isSome_map, List.find?_isSome]
    exact ⟨run, hmem, by simpa using hstarted⟩
  have hobserved : h.session.observed = last := by
    rw [hv.observed, hlast]
    rfl
  rw [hobserved]
  constructor
  · rw [← hiff, hlast]
    constructor
    · intro hall
      obtain ⟨event, rest, rfl⟩ := List.exists_cons_of_ne_nil hne
      exact congrArg some (hall ⟨last, event⟩ (by simp))
    · intro hsame x hx
      rcases List.mem_cons.mp hx with rfl | hx
      · exact hpending
      · obtain ⟨_, -, rfl⟩ := List.mem_map.mp hx
        exact Option.some.inj hsame
  · intro x hx
    rcases List.mem_cons.mp hx with rfl | hx
    · exact .inl hpending
    · obtain ⟨_, -, rfl⟩ := List.mem_map.mp hx
      exact .inr hlast

theorem Moves.attributed (hm : h.Moves serve cue h') (ht : h.Tracked e) (hv : h.Observes) :
    ∃ new, h'.session.events = h.session.events ++ new ∧
      (h.subject? cue = none → new = []) ∧
      ∀ id, h.subject? cue = some id → h.Attributed id new := by
  cases hm with
  | refused hc =>
      refine ⟨[], by simp, fun _ => rfl, ?_⟩
      rintro id ⟨⟩
      exact .current (by simp)
  | reset => exact ⟨[], by simp [Session.reset], fun _ => rfl, by simp [subject?]⟩
  | returned ho hr =>
      obtain ⟨new, heq, hnew⟩ := hv.leg_attributed ht ho
      refine ⟨new, (Session.persist_events _ _).trans heq, by simp [ho.subject], ?_⟩
      rw [ho.subject]
      rintro id ⟨⟩
      exact hnew
  | asks ho hr =>
      obtain ⟨new, heq, hnew⟩ := hv.leg_attributed ht ho
      refine ⟨new, heq, by simp [ho.subject], ?_⟩
      rw [ho.subject]
      rintro id ⟨⟩
      exact hnew
  | @drained place w run hw hrun hid hne =>
      have hnew := hv.drained_attributed ht hw hrun hid
        (Engine.measured w.pending.node w.pending.request (w.outcome serve))
        (ht.drains serve hw hrun).events
      refine ⟨_, List.append_assoc _ [_] _, by simp [subject?, hw], ?_⟩
      intro id hsubject
      have hsame : w.pending.run = id := by simpa [subject?, hw] using hsubject
      exact hsame ▸ hnew

theorem Observes.play (ht : h.Tracked e) (hl : e.Loyal) (hv : h.Observes) {cues : List Cue}
    (hplay : h.play serve cues = some h') : h'.Observes := by
  have hboth : h'.Tracked e ∧ h'.Observes := by
    refine play_induction (P := fun h => h.Tracked e ∧ h.Observes) ?_ ⟨ht, hv⟩ hplay
    rintro h cue h' ⟨ht, hv⟩ hstep
    have hm := ht.moves hl hstep
    exact ⟨ht.kept hl hm, hm.observes ht hl hv⟩
  exact hboth.2

/-- Wherever a schedule leads, the events of the next step are attributed as they should be unless
they are about a run that was overtaken. Handlers of the host may do anything to a run but change
its id, lift the mark of a discarded one, or undo its start. -/
theorem play_attributed (hl : e.Loyal) (store : Option RunStore) (serve : Serving)
    (cues : List Cue) (hplay : (Scene.make e store).play serve cues = some h)
    (hstep : h.step serve cue = some h') :
    ∃ new, h'.session.events = h.session.events ++ new ∧
      (h.subject? cue = none → new = []) ∧
      ∀ id, h.subject? cue = some id → h.Attributed id new := by
  have ht : h.Tracked e := (Tracked.make e store).play hl hplay
  have hv : h.Observes := (Observes.make e store).play (.make e store) hl hplay
  exact (ht.moves hl hstep).attributed ht hv

/-- A discarded run comes back before the next one is started. -/
theorem errand_attributed : ∃ h h' new,
    (Scene.make errand none).play (fun _ => granting) [.call .start, .reset] = some h ∧
    h.step (fun _ => granting) (.settle 0) = some h' ∧
    h'.session.events = h.session.events ++ new ∧ ∀ x ∈ new, x.run = "run-0" := by
  obtain ⟨h, hplay, hnext⟩ := Option.bind_eq_some_iff.mp (show ((Scene.make errand none).play
    (fun _ => granting) [.call .start, .reset]).bind (fun h =>
      (h.step (fun _ => granting) (.settle 0)).map fun _ =>
        (h.subject? (.settle 0), decide (h.session.Overtaken "run-0"))) =
      some (some "run-0", false) by decide)
  obtain ⟨h', hstep, heq⟩ := Option.map_eq_some_iff.mp hnext
  obtain ⟨hsubject, hovertaken⟩ := Prod.mk.inj heq
  obtain ⟨new, hnew, -, hall⟩ :=
    play_attributed (Engine.loyal_of_nil rfl) none (fun _ => granting) _ hplay hstep
  exact ⟨h, h', new, hplay, hstep, hnew,
    (hall "run-0" hsubject).own_iff.mpr (of_decide_eq_false hovertaken)⟩

/-- A discarded run comes back after the next one was started. -/
theorem errand_misattributed : ∃ h h',
    (Scene.make errand none).play (fun _ => granting) [.call .start, .reset, .call .start] =
      some h ∧
    h.step (fun _ => granting) (.settle 0) = some h' ∧
    h.subject? (.settle 0) = some "run-0" ∧
    h'.session.events = h.session.events ++
      [⟨"run-0", .effectMeasured updateVista "update" .mock none⟩,
        ⟨"run-1", .nodeProcessed "update" "action" (some "question") false⟩] := by
  obtain ⟨h, hplay, hnext⟩ := Option.bind_eq_some_iff.mp (show ((Scene.make errand none).play
    (fun _ => granting) [.call .start, .reset, .call .start]).bind (fun h =>
      (h.step (fun _ => granting) (.settle 0)).map fun h' =>
        (h.subject? (.settle 0), decide (h'.session.events = h.session.events ++
          [⟨"run-0", .effectMeasured updateVista "update" .mock none⟩,
            ⟨"run-1", .nodeProcessed "update" "action" (some "question") false⟩]))) =
      some (some "run-0", true) by decide)
  obtain ⟨h', hstep, heq⟩ := Option.map_eq_some_iff.mp hnext
  obtain ⟨hsubject, hevents⟩ := Prod.mk.inj heq
  exact ⟨h, h', hplay, hstep, hsubject, of_decide_eq_true hevents⟩

end Scene
end Dialogue
