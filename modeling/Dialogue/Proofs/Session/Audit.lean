import Dialogue.Proofs.Session.Isolation
import Dialogue.Proofs.Store.Log

/-!
# The store as an audit of a session

Whenever an accepted call returns while its run is the current one, an open store mirrors the run,
as far as the values of the run can be stored: at most 255 levels, no integer of more than 4300
digits, and numbers of entries that fit 64 bits. Nothing else writes to the store, and nothing
touches the rows of another run (`play_audited`). Handlers of the host may do what they like to a
run as long as they only add to its log and leave it its id, its mark and its start.
-/
namespace Dialogue

namespace RunStore

/-- What an open store holds of a run of whose log so many entries were handed to it. -/
structure Files (flowId : String) (run : Run) (persisted : Nat) (store : RunStore) : Prop where
  opened : store.closed = false
  count : persisted ≤ run.log.length
  entries : run.log.length ≤ capacity →
    store.entries.filter (·.run = run.id) = filed run.id 0 (run.log.take persisted)
  flowId : ∀ row ∈ store.runs, row.snapshot.runId = run.id → row.flowId = flowId
  nodup : (store.runs.map (·.snapshot.runId)).Nodup

/-- How a store mirrors a run of a flow that has just been saved. -/
structure Audits (before : RunStore) (flowId : String) (snapshot : Snapshot) (after : RunStore) :
    Prop where
  run : after.get? snapshot.runId = some snapshot
  log : after.log snapshot.runId false = snapshot.log
  failures : after.log snapshot.runId true = snapshot.log.filter (!·.success)
  /-- The run comes first among those of its flow, and only once. -/
  listed : after.list flowId =
    snapshot :: (before.list flowId).filter (·.runId ≠ snapshot.runId)
  once : ((after.list flowId).map (·.runId)).Nodup

/-- A store that a session may begin with: it is open, it has one row for each run, and it knows
nothing of the runs to come. -/
structure Ready (store : RunStore) : Prop where
  opened : store.closed = false
  nodup : (store.runs.map (·.snapshot.runId)).Nodup
  runs : ∀ row ∈ store.runs, ∀ n, row.snapshot.runId ≠ Session.runId n
  entries : ∀ x ∈ store.entries, ∀ n, x.run ≠ Session.runId n

theorem Ready.only_eq {store : RunStore} (h : store.Ready) (n : Nat) :
    store.only (Session.runId n) = {} := by
  have hruns : store.runs.filter (·.snapshot.runId = Session.runId n) = [] := by
    rw [List.filter_eq_nil_iff]
    intro row hrow
    simpa using h.runs row hrow n
  have hentries : store.entries.filter (·.run = Session.runId n) = [] := by
    rw [List.filter_eq_nil_iff]
    intro x hx
    simpa using h.entries x hx n
  simp only [only, hruns, hentries, h.opened]

namespace Files

variable {flowId : String} {run later : Run} {persisted : Nat} {store : RunStore}

theorem of_only (hopened : store.closed = false)
    (hnodup : (store.runs.map (·.snapshot.runId)).Nodup) (honly : store.only run.id = {}) :
    store.Files flowId run 0 where
  opened := hopened
  count := Nat.zero_le _
  entries := fun _ => congrArg RunStore.entries honly
  flowId := by
    intro row hrow hid
    have hmem : row ∈ (store.only run.id).runs := List.mem_filter.mpr ⟨hrow, by simpa using hid⟩
    rw [honly] at hmem
    cases hmem
  nodup := hnodup

theorem grows (h : store.Files flowId run persisted) (hid : later.id = run.id)
    (hg : run.Grows later) : store.Files flowId later persisted where
  opened := h.opened
  count := Nat.le_trans h.count hg.length_le
  entries := by
    intro hlen
    have hshort : run.log.length ≤ capacity := Nat.le_trans hg.length_le hlen
    obtain ⟨more, hmore⟩ := hg
    rw [hid, ← hmore, List.take_append_of_le_length h.count]
    exact h.entries hshort
  flowId := hid ▸ h.flowId
  nodup := h.nodup

theorem of_frame (h : store.Files flowId run persisted) {kept : RunStore} {count : Nat}
    (hframe : kept.runs = store.runs ∧ kept.closed = store.closed)
    (hcount : count ≤ run.log.length)
    (hentries : run.log.length ≤ capacity →
      kept.entries.filter (·.run = run.id) = filed run.id 0 (run.log.take count)) :
    kept.Files flowId run count where
  opened := hframe.2.trans h.opened
  count := hcount
  entries := hentries
  flowId := hframe.1 ▸ h.flowId
  nodup := hframe.1 ▸ h.nodup

theorem append (h : store.Files flowId run persisted)
    (hs : (run.log.drop persisted).all LogEntry.isStorable = true)
    (hlen : run.log.length ≤ capacity) :
    ∃ kept, store.append run.id (run.log.drop persisted) persisted = (kept, none) ∧
      kept.entries.filter (·.run = run.id) = filed run.id 0 run.log := by
  have htake : (run.log.take persisted).length = persisted := List.length_take_of_le h.count
  have hsum : (run.log.take persisted).length + (run.log.drop persisted).length ≤ capacity := by
    rw [← List.length_append, List.take_append_drop]
    exact hlen
  obtain ⟨hnone, hentries⟩ := insertAll_filed (h.entries hlen) hsum
  rw [htake] at hnone hentries
  rw [List.take_append_drop] at hentries
  rw [append_eq, if_pos hs]
  exact ⟨_, Prod.ext rfl hnone, hentries⟩

/-- The entries are taken, or none of them may be counted. -/
theorem appended (h : store.Files flowId run persisted) {kept : RunStore}
    {failure : Option StorageError}
    (happend : store.append run.id (run.log.drop persisted) persisted = (kept, failure)) :
    kept.Files flowId run (if failure = none then run.log.length else persisted) := by
  have hframe := append_frame store run.id (run.log.drop persisted) persisted
  rw [happend] at hframe
  refine h.of_frame hframe ?_ fun hlen => ?_
  · split
    · exact Nat.le_refl _
    · exact h.count
  · by_cases hs : (run.log.drop persisted).all LogEntry.isStorable = true
    · obtain ⟨taken, htaken, hentries⟩ := h.append hs hlen
      cases happend.symm.trans htaken
      rw [if_pos rfl, List.take_length]
      exact hentries
    · rw [append_eq, if_neg hs] at happend
      cases happend
      exact h.entries hlen

theorem save (h : store.Files flowId run persisted) {saved : RunStore}
    (hsave : store.save run.snapshot flowId = .ok saved) : saved.Files flowId run persisted := by
  unfold RunStore.save at hsave
  split at hsave
  · cases hsave
    have hrows : ∀ row ∈ store.runs, row.snapshot.runId = run.snapshot.kept.runId →
        row.flowId = flowId := h.flowId
    refine ⟨h.opened, h.count, h.entries, ?_, nodup_put hrows h.nodup⟩
    rw [runs_put hrows]
    intro row hrow hid
    rcases List.mem_cons.mp hrow with rfl | hrow
    · rfl
    · exact h.flowId row (List.mem_of_mem_filter hrow) hid
  · cases hsave

/-- What is recorded of a run keeps the store in order, whether all of it can be stored or not. -/
theorem recorded (h : store.Files flowId run persisted) :
    (Session.recorded run flowId persisted store).1.Files flowId run
      (Session.recorded run flowId persisted store).2 := by
  have hcount : persisted + (run.log.drop persisted).length = run.log.length := by
    have := h.count
    rw [List.length_drop]
    omega
  unfold Session.recorded
  split
  · rename_i kept failure happend
    exact h.appended happend
  · rename_i kept happend
    have hkept := h.appended happend
    rw [if_pos rfl, ← hcount] at hkept
    cases hsave : kept.save run.snapshot flowId with
    | ok saved => exact hkept.save hsave
    | error failure => exact hkept

/-- A run whose values can be stored and read again is mirrored once it is recorded. -/
theorem audits (h : store.Files flowId run persisted) (hf : run.snapshot.isFinite = true)
    (hs : run.snapshot.isStorable = true) (hlen : run.log.length ≤ capacity) :
    store.Audits flowId run.snapshot (Session.recorded run flowId persisted store).1 := by
  have hnew : (run.log.drop persisted).all LogEntry.isStorable = true := by
    rw [List.all_eq_true]
    exact fun x hx => Snapshot.isStorable_of_mem_log hs (List.mem_of_mem_drop hx)
  have hfinite : run.log.all LogEntry.isFinite = true := by
    simp only [Snapshot.isFinite, Bool.and_eq_true] at hf
    exact hf.2
  obtain ⟨kept, happend, hentries⟩ := h.append hnew hlen
  have hkept := h.appended happend
  have hsave : kept.save run.snapshot flowId = .ok (kept.put run.snapshot flowId) := by
    rw [RunStore.save, if_pos hs, Snapshot.kept_of_isFinite hf]
  have hput : (kept.put run.snapshot flowId).entries.filter (·.run = run.snapshot.runId) =
      filed run.id 0 run.log := hentries
  have hruns : kept.runs = store.runs := by
    rw [← (append_frame store run.id (run.log.drop persisted) persisted).1, happend]
  rw [Session.recorded, happend]
  dsimp only
  rw [hsave]
  refine ⟨get?_put_self _ _ _, ?_, ?_, ?_, nodup_list (nodup_put hkept.flowId hkept.nodup) _⟩
  · exact (log_of_filed hput hfinite false).trans (by simp [Run.snapshot])
  · exact (log_of_filed hput hfinite true).trans (by simp [Run.snapshot])
  · rw [show store.list flowId = kept.list flowId by rw [list, list, hruns]]
    exact list_put hkept.flowId

end Files

end RunStore
namespace Session

theorem persist_of_open {s : Session} {store : RunStore} (hs : s.store = some store)
    (ho : store.closed = false) : s.persist s.current.id =
      { s with
        store := some (recorded s.current s.engine.flow.id s.persisted store).1
        persisted := (recorded s.current s.engine.flow.id s.persisted store).2 } := by
  rw [persist_eq]
  simp [hs, ho]

end Session

def Outcome.snapshot? : Outcome → Option Snapshot
  | .returned snapshot => some snapshot
  | _ => none

namespace Scene

/-- What a caller is told where an accepted call of the current run returns. -/
def returned? (serve : Serving) (h : Scene) : Cue → Option Snapshot
  | .call c => if c.FitsRun h.session.current then (c.on h.session).2.snapshot? else none
  | .reset => none
  | .settle place => h.held[place]?.bind fun w =>
    if w.pending.run = h.session.current.id then
      (h.session.answer w.pending (w.outcome serve)).2.snapshot?
    else none

/-- The store of a scene is in order as far as the current run goes. -/
def Filed (e : Engine) (h : Scene) : Prop :=
  ∃ store, h.session.store = some store ∧
    store.Files e.flow.id h.session.current h.session.persisted

variable {serve : Serving} {e : Engine} {h h' : Scene} {cue : Cue} {s : Session}
  {held : List Held} {leg : Leg} {store : RunStore}

theorem Filed.make (hr : store.Ready) : (Scene.make e (some store)).Filed e :=
  ⟨store, rfl, .of_only hr.opened hr.nodup (hr.only_eq 0)⟩

theorem Tracked.grows (ht : h.Tracked e) (hg : e.Keeping Run.Grows)
    (ho : h.Opens serve cue s held leg) : h.session.current.Grows leg.run :=
  ht.opens_keeps Run.Grows.lasting hg (fun _ => .of_log rfl) (fun _ _ => .of_log rfl) ho

theorem Filed.opens (hf : h.Filed e) (ht : h.Tracked e) (hl : e.Loyal) (hg : e.Keeping Run.Grows)
    (ho : h.Opens serve cue s held leg) : ∃ store, h.session.store = some store ∧
      s.store = some store ∧ s.engine = e ∧ store.Files e.flow.id leg.run s.persisted := by
  obtain ⟨store, hstore, hfiles⟩ := hf
  have hlater := hfiles.grows (ht.id_of_opens hl ho) (ht.grows hg ho)
  refine ⟨store, hstore, ?_, ?_, ?_⟩
  · rw [ho.frame]
    exact hstore
  · rw [ho.frame]
    exact ht.engine
  · rw [ho.frame]
    exact hlater

theorem Opens.returned?_eq (ho : h.Opens serve cue s held leg) :
    h.returned? serve cue = (s.absorb leg).2.snapshot? := by
  cases ho with
  | start hidle =>
      have hfits : Call.start.FitsRun h.session.current := hidle
      rw [returned?, if_pos hfits, Call.on, Session.start_of_idle hidle]
  | send hf => rw [returned?, if_pos hf, Call.on, Session.send_of_waiting hf]
  | @settle place w hw hown =>
      have hrun : h.session.run? w.pending.run = some h.session.current := by
        rw [Session.run?, if_pos hown.symm]
      rw [returned?, hw, Option.bind_some, if_pos hown, Session.answer_of_run? hrun]

theorem Opens.returned?_of_returned (ho : h.Opens serve cue s held leg)
    (hr : leg.stop = .returned) : h.returned? serve cue = some leg.run.snapshot := by
  rw [ho.returned?_eq, Session.absorb, hr]
  rfl

theorem Opens.returned?_of_awaiting (ho : h.Opens serve cue s held leg) {node : Node}
    {request : EffectRequest} (hr : leg.stop = .awaiting node request) :
    h.returned? serve cue = none := by
  rw [ho.returned?_eq, Session.absorb, hr]
  rfl

theorem Filed.returned (hf : h.Filed e) (ht : h.Tracked e) (hl : e.Loyal)
    (hg : e.Keeping Run.Grows) (ho : h.Opens serve cue s held leg) :
    ∃ store, h.session.store = some store ∧ store.Files e.flow.id leg.run s.persisted ∧
      (s.moved leg).persist leg.run.id =
        { s.moved leg with
          store := some (Session.recorded leg.run e.flow.id s.persisted store).1
          persisted := (Session.recorded leg.run e.flow.id s.persisted store).2 } := by
  obtain ⟨store, hstore, hs, hengine, hlater⟩ := hf.opens ht hl hg ho
  have hpersist := Session.persist_of_open (s := s.moved leg) hs hlater.opened
  have hflow : (s.moved leg).engine.flow.id = e.flow.id := congrArg (·.flow.id) hengine
  rw [hflow] at hpersist
  exact ⟨store, hstore, hlater, hpersist⟩

theorem Moves.filed (hm : h.Moves serve cue h') (ht : h.Tracked e) (hl : e.Loyal)
    (hg : e.Keeping Run.Grows) (hr : store.Ready) (hu : h.Untouched (some store))
    (hf : h.Filed e) : h'.Filed e := by
  cases hm with
  | refused => exact hf
  | reset =>
      obtain ⟨before, hbefore, hfiles⟩ := hf
      have hrows := hu _ ht.numbered.reset_id_not_mem
      rw [Session.rows, hbefore, Option.map_some, Option.map_some] at hrows
      have honly : before.only h.session.reset.current.id = {} :=
        (Option.some.inj hrows).trans (hr.only_eq _)
      exact ⟨before, hbefore, .of_only hfiles.opened hfiles.nodup honly⟩
  | returned ho hstop =>
      obtain ⟨before, -, hlater, hpersist⟩ := hf.returned ht hl hg ho
      rw [hpersist]
      exact ⟨_, rfl, hlater.recorded⟩
  | asks ho hstop =>
      obtain ⟨before, -, hs, -, hlater⟩ := hf.opens ht hl hg ho
      exact ⟨before, hs, hlater⟩
  | drained => exact hf

/-- How a step changes the store, by what an accepted call of the current run is told there. -/
structure Audited (flowId : String) (returned : Option Snapshot) (current : Run)
    (before after : RunStore) : Prop where
  silent : returned = none → after = before
  told : ∀ snapshot, returned = some snapshot → snapshot = current.snapshot
  mirrored : ∀ snapshot, returned = some snapshot → snapshot.isFinite = true →
    snapshot.isStorable = true → snapshot.log.length ≤ RunStore.capacity →
      before.Audits flowId snapshot after

theorem Moves.audited (hm : h.Moves serve cue h') (ht : h.Tracked e) (hl : e.Loyal)
    (hg : e.Keeping Run.Grows) (hf : h.Filed e) : ∃ before after,
      h.session.store = some before ∧ h'.session.store = some after ∧
      Audited e.flow.id (h.returned? serve cue) h'.session.current before after := by
  have hsilent (run : Run) (store : RunStore) : Audited e.flow.id none run store store :=
    ⟨fun _ => rfl, by simp, by simp⟩
  have hkept := hf
  obtain ⟨store, hstore, -⟩ := hf
  cases hm with
  | @refused c hc =>
      have hnone : h.returned? serve (.call c) = none := if_neg hc
      rw [hnone]
      exact ⟨store, store, hstore, hstore, hsilent _ _⟩
  | reset => exact ⟨store, store, hstore, hstore, hsilent _ _⟩
  | returned ho hstop =>
      obtain ⟨before, hbefore, hfiles, hpersist⟩ := hkept.returned ht hl hg ho
      rw [hpersist, ho.returned?_of_returned hstop]
      refine ⟨before, _, hbefore, rfl, by simp, ?_, ?_⟩
      · rintro snapshot ⟨⟩
        rfl
      · rintro snapshot ⟨⟩
        exact hfiles.audits
  | asks ho hstop =>
      obtain ⟨before, hbefore, hs, -⟩ := hkept.opens ht hl hg ho
      rw [ho.returned?_of_awaiting hstop]
      exact ⟨before, before, hbefore, hs, hsilent _ _⟩
  | @drained place w run hw hrun hid hne =>
      have hnone : h.returned? serve (.settle place) = none := by simp [returned?, hw, hne]
      rw [hnone]
      exact ⟨store, store, hstore, hstore, hsilent _ _⟩

/-- Wherever a schedule leads, a store that was open and new to the session mirrors the current run
whenever an accepted call of it returns, if what the run holds can be stored and read again. Any
other step writes nothing, and no step touches the rows of another run. -/
theorem play_audited (hl : e.Loyal) (hg : e.Keeping Run.Grows) (hr : store.Ready)
    (serve : Serving) (cues : List Cue)
    (hplay : (Scene.make e (some store)).play serve cues = some h)
    (hstep : h.step serve cue = some h') : ∃ before after,
      h.session.store = some before ∧ h'.session.store = some after ∧
      (∀ id, id ≠ h.session.current.id → after.only id = before.only id) ∧
      Audited e.flow.id (h.returned? serve cue) h'.session.current before after := by
  obtain ⟨ht, -, hf⟩ : h.Tracked e ∧ h.Untouched (some store) ∧ h.Filed e := by
    refine play_induction (P := fun h => h.Tracked e ∧ h.Untouched (some store) ∧ h.Filed e) ?_
      ⟨.make e _, .make e _, .make hr⟩ hplay
    rintro h cue h' ⟨ht, hu, hf⟩ hstep
    have hm := ht.moves hl hstep
    exact ⟨ht.kept hl hm, hm.untouched ht hl hu, hm.filed ht hl hg hr hu hf⟩
  have hm := ht.moves hl hstep
  obtain ⟨before, after, hbefore, hafter, haudited⟩ := hm.audited ht hl hg hf
  refine ⟨before, after, hbefore, hafter, fun id hne => ?_, haudited⟩
  have hrows := hm.rows_of_ne ht hl hne.symm
  rw [Session.rows, Session.rows, hbefore, hafter] at hrows
  exact Option.some.inj hrows

theorem ready_empty : RunStore.Ready {} := ⟨rfl, .nil, by simp, by simp⟩

/-- The second run of a session, which is saved after the first. -/
theorem errand_audited : ∃ h h' after snapshot,
    (Scene.make errand (some {})).play (fun _ => granting)
      [.call .start, .settle 0, .reset, .call .start] = some h ∧
    h.step (fun _ => granting) (.settle 0) = some h' ∧ h'.session.store = some after ∧
    h.returned? (fun _ => granting) (.settle 0) = some snapshot ∧ snapshot.runId = "run-1" ∧
    after.get? "run-1" = some snapshot ∧ after.log "run-1" false = snapshot.log := by
  obtain ⟨h, hplay, hnext⟩ := Option.bind_eq_some_iff.mp (show ((Scene.make errand
    (some {})).play (fun _ => granting) [.call .start, .settle 0, .reset, .call .start]).bind
      (fun h => (h.step (fun _ => granting) (.settle 0)).map fun _ =>
        (h.returned? (fun _ => granting) (.settle 0)).map fun snapshot =>
          (snapshot.runId, snapshot.isFinite, snapshot.isStorable,
            decide (snapshot.log.length ≤ RunStore.capacity))) =
        some (some ("run-1", true, true, true)) by decide +kernel)
  obtain ⟨h', hstep, heq⟩ := Option.map_eq_some_iff.mp hnext
  obtain ⟨snapshot, hsnapshot, heq⟩ := Option.map_eq_some_iff.mp heq
  simp only [Prod.mk.injEq, decide_eq_true_eq] at heq
  obtain ⟨hid, hfinite, hstorable, hlen⟩ := heq
  obtain ⟨before, after, -, hafter, -, haudited⟩ := play_audited (Engine.loyal_of_nil rfl)
    (Engine.keeping_of_nil rfl _) ready_empty (fun _ => granting) _ hplay hstep
  have hmirror := haudited.mirrored snapshot hsnapshot hfinite hstorable hlen
  rw [← hid]
  exact ⟨h, h', after, snapshot, hplay, hstep, hafter, hsnapshot, rfl, hmirror.run, hmirror.log⟩

/-- A gateway that answers with 280 lists, one in the other. -/
def hoarding : EffectRequest → EffectOutcome := fun _ =>
  .ok { success := true, data := Nat.repeat (fun v => .list [v]) 280 .null }

/-- A run that holds such a value is not saved, and nobody is told. -/
theorem errand_unaudited : ∃ h h' after snapshot,
    (Scene.make errand (some {})).play (fun _ => hoarding) [.call .start] = some h ∧
    h.step (fun _ => hoarding) (.settle 0) = some h' ∧ h'.session.store = some after ∧
    h.returned? (fun _ => hoarding) (.settle 0) = some snapshot ∧ snapshot.isFinite = true ∧
    after.get? snapshot.runId = none ∧ after.log snapshot.runId false ≠ snapshot.log := by
  obtain ⟨h, hplay, hnext⟩ := Option.bind_eq_some_iff.mp (show ((Scene.make errand
    (some {})).play (fun _ => hoarding) [.call .start]).bind
      (fun h => (h.step (fun _ => hoarding) (.settle 0)).bind fun h' => h'.session.store.bind
        fun after => (h.returned? (fun _ => hoarding) (.settle 0)).map fun snapshot =>
          (snapshot.isFinite, after.get? snapshot.runId,
            decide (after.log snapshot.runId false = snapshot.log))) =
        some (true, none, false) by decide +kernel)
  obtain ⟨h', hstep, hnext⟩ := Option.bind_eq_some_iff.mp hnext
  obtain ⟨after, hafter, hnext⟩ := Option.bind_eq_some_iff.mp hnext
  obtain ⟨snapshot, hsnapshot, heq⟩ := Option.map_eq_some_iff.mp hnext
  simp only [Prod.mk.injEq, decide_eq_false_iff_not] at heq
  exact ⟨h, h', after, snapshot, hplay, hstep, hafter, hsnapshot, heq⟩

end Scene
end Dialogue
