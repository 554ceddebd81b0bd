import Dialogue.Proofs.Session.Invariant
import Dialogue.Proofs.Store.Rows

/-!
# A reset isolates the new run

Under a gateway that answers by the request alone, the run that follows a reset cannot be told
from the first run of a new session that is asked the same at the same points: neither by its
state nor by its rows in the store, whatever is still under way for the runs before it.
-/
namespace Dialogue

namespace Session

/-- What the store holds of a run. -/
def rows (s : Session) (id : String) : Option RunStore := s.store.map (·.only id)

/-- A store and the count of stored entries once a run has been saved. -/
def recorded (run : Run) (flowId : String) (persisted : Nat) (store : RunStore) :
    RunStore × Nat :=
  match store.append run.id (run.log.drop persisted) persisted with
  | (store, some _) => (store, persisted)
  | (store, none) => (match store.save run.snapshot flowId with
    | .ok store => store
    | .error _ => store, persisted + (run.log.drop persisted).length)

variable {s t : Session}

theorem persist_eq (s : Session) : s.persist s.current.id =
    match s.store with
    | none => s
    | some store =>
      if store.closed then s
      else { s with
        store := some (recorded s.current s.engine.flow.id s.persisted store).1
        persisted := (recorded s.current s.engine.flow.id s.persisted store).2 } := by
  unfold persist
  cases hstore : s.store with
  | none => rfl
  | some store =>
      by_cases hc : store.closed = true
      · simp [hc]
      · simp only [hc, ne_eq, not_true_eq_false, false_or, Bool.false_eq_true, if_false, recorded]
        generalize store.append s.current.id (s.current.log.drop s.persisted) s.persisted = appended
        obtain ⟨kept, failure | failure⟩ := appended <;> rfl

theorem recorded_only (run : Run) (flowId : String) (persisted : Nat) (store : RunStore) :
    recorded run flowId persisted (store.only run.id) =
      ((recorded run flowId persisted store).1.only run.id,
        (recorded run flowId persisted store).2) := by
  simp only [recorded, RunStore.only_append_self]
  generalize store.append run.id (run.log.drop persisted) persisted = appended
  obtain ⟨kept, failure | failure⟩ := appended
  · have hsave := RunStore.only_save_self kept run.snapshot flowId
    have hid : run.snapshot.runId = run.id := rfl
    rw [hid] at hsave
    simp only [hsave]
    cases kept.save run.snapshot flowId <;> rfl
  · rfl

theorem recorded_of_ne {run : Run} {other : String} (hne : run.id ≠ other) (flowId : String)
    (persisted : Nat) (store : RunStore) :
    (recorded run flowId persisted store).1.only other = store.only other := by
  have happend := RunStore.only_append_of_ne store hne (run.log.drop persisted) persisted
  simp only [recorded]
  generalize store.append run.id (run.log.drop persisted) persisted = appended at happend ⊢
  obtain ⟨kept, failure | failure⟩ := appended
  · dsimp only at happend ⊢
    rw [← happend]
    cases hsave : kept.save run.snapshot flowId with
    | ok saved => exact RunStore.only_save_of_ne hne hsave
    | error _ => rfl
  · exact happend

theorem rows_persist_of_ne {other : String} (hne : s.current.id ≠ other) :
    (s.persist s.current.id).rows other = s.rows other := by
  rw [persist_eq]
  cases hstore : s.store with
  | none => rfl
  | some store =>
      by_cases hc : store.closed = true
      · simp [hc]
      · simp [hc, rows, hstore, recorded_of_ne hne]

/-- What is saved of the current run depends on it and on its own rows. -/
theorem persist_congr (hcurrent : t.current = s.current) (hengine : t.engine = s.engine)
    (hpersisted : t.persisted = s.persisted)
    (hrows : t.rows s.current.id = s.rows s.current.id) :
    (t.persist t.current.id).persisted = (s.persist s.current.id).persisted ∧
      (t.persist t.current.id).rows s.current.id = (s.persist s.current.id).rows s.current.id := by
  rw [persist_eq, persist_eq, hcurrent, hengine, hpersisted]
  cases hs : s.store with
  | none =>
      cases ht : t.store with
      | none => exact ⟨hpersisted, hrows⟩
      | some store => simp [rows, hs, ht] at hrows
  | some store =>
      cases ht : t.store with
      | none => simp [rows, hs, ht] at hrows
      | some twin =>
          have honly : twin.only s.current.id = store.only s.current.id := by
            simpa [rows, hs, ht] using hrows
          have hclosed : twin.closed = store.closed := by
            rw [← RunStore.only_closed twin, honly, RunStore.only_closed]
          have hrecorded := recorded_only s.current s.engine.flow.id s.persisted twin
          rw [honly, recorded_only, Prod.mk.injEq] at hrecorded
          by_cases hc : store.closed = true
          · simp only [hclosed, hc, if_true]
            exact ⟨hpersisted, hrows⟩
          · simp only [hclosed, hc, Bool.false_eq_true, if_false]
            exact ⟨hrecorded.2.symm, congrArg some hrecorded.1.symm⟩

end Session

namespace Scene

/-- A scene before anything has happened, with a run of a given id. -/
def fresh (e : Engine) (store : Option RunStore) (id : String) : Scene :=
  { session := { Session.make e store with current := { id := id } } }

def own (h : Scene) : List Held := h.held.filter (·.pending.run = h.session.current.id)

/-- What a cue is to the current run, which has one operation at most to settle. -/
def relay (h : Scene) : Cue → List Cue
  | .call c => [.call c]
  | .reset => []
  | .settle place =>
    if h.held[place]?.any (·.pending.run = h.session.current.id) then [.settle 0] else []

/-- What the current run has been told, after `seen`, by the end of a schedule. -/
def since (serve : Serving) (h : Scene) (seen : List Cue) : List Cue → List Cue
  | [] => seen
  | cue :: cues =>
    ((h.step serve cue).map fun h' =>
      h'.since serve (if cue = .reset then [] else seen ++ h.relay cue) cues).getD seen

/-- A scene that shows the current run of another one and nothing else. -/
structure Mirrors (h f : Scene) : Prop where
  current : f.session.current = h.session.current
  engine : f.session.engine = h.session.engine
  persisted : f.session.persisted = h.session.persisted
  rows : f.session.rows h.session.current.id = h.session.rows h.session.current.id
  held : f.held.map (·.task) = h.own.map (·.task)

/-- The rows of ids that were not handed out are those that the store had at first. -/
def Untouched (store : Option RunStore) (h : Scene) : Prop :=
  ∀ id ∉ h.session.runs.map (·.id), h.session.rows id = store.map (·.only id)

variable {serve : Serving} {g : EffectRequest → EffectOutcome} {e : Engine} {h h' f : Scene}
  {cue : Cue} {s : Session} {held : List Held} {leg : Leg} {store twin : Option RunStore}

private theorem filter_eraseIdx_of_not {α : Type} {p : α → Bool} {l : List α} {i : Nat} {a : α}
    (hi : l[i]? = some a) (ha : ¬ p a) : (l.eraseIdx i).filter p = l.filter p := by
  induction l generalizing i with
  | nil => rfl
  | cons b l ih =>
      cases i with
      | zero =>
          cases hi
          rw [List.eraseIdx_cons_zero, List.filter_cons_of_neg ha]
      | succ i =>
          rw [List.eraseIdx_cons_succ, List.filter_cons, List.filter_cons, ih hi]

theorem Sound.own_eq (hs : h.Sound e) {w : Held} (hw : w ∈ h.held)
    (hown : w.pending.run = h.session.current.id) : h.own = [w] := by
  have hmem : w ∈ h.own := List.mem_filter.mpr ⟨hw, by simpa using hown⟩
  have hle : h.own.length ≤ 1 := hs.length_le_one List.filter_sublist fun v hv => by
    simpa using (List.mem_filter.mp hv).2
  obtain ⟨v, hv⟩ := List.length_eq_one_iff.mp (Nat.le_antisymm hle (List.length_pos_of_mem hmem))
  rw [hv, List.mem_singleton] at hmem
  rw [hv, hmem]

theorem Sound.filter_held (hs : h.Sound e) (ho : h.Opens serve cue s held leg) :
    held.filter (·.pending.run = h.session.current.id) = [] := by
  rw [List.filter_eq_nil_iff]
  intro w hw
  simpa using hs.free ho w hw

theorem Moves.rows_of_ne (hm : h.Moves serve cue h') (ht : h.Tracked e) (hl : e.Loyal)
    {id : String} (hne : h.session.current.id ≠ id) :
    h'.session.rows id = h.session.rows id := by
  cases hm with
  | refused => rfl
  | reset => rfl
  | @returned cue s held leg ho hr =>
      have hid : (s.moved leg).current.id ≠ id := by
        rw [← ht.id_of_opens hl ho] at hne
        exact hne
      have hrows : (s.moved leg).rows id = h.session.rows id := by
        rw [ho.frame]
        rfl
      exact (Session.rows_persist_of_ne hid).trans hrows
  | asks ho hr =>
      rw [ho.frame]
      rfl
  | drained => rfl

theorem Moves.untouched (hm : h.Moves serve cue h') (ht : h.Tracked e) (hl : e.Loyal)
    (hu : h.Untouched store) : h'.Untouched store := by
  intro id hid
  have hold : id ∉ h.session.runs.map (·.id) := by
    by_cases hc : cue = .reset
    · subst hc
      cases hm with
      | reset => exact fun hmem => hid (List.mem_cons_of_mem _ hmem)
      | returned ho => cases ho
      | asks ho => cases ho
    · rwa [hm.ids ht hl hc] at hid
  have hne : h.session.current.id ≠ id := by
    rintro rfl
    exact hold List.mem_cons_self
  rw [hm.rows_of_ne ht hl hne]
  exact hu id hold

namespace Mirrors

/-- A cue that takes the current run on takes the run of the mirror on by the same leg. -/
theorem opens (hm : h.Mirrors f) (hs : h.Sound e) (ho : h.Opens (fun _ => g) cue s held leg) :
    ∃ cue' s', h.relay cue = [cue'] ∧ f.Opens (fun _ => g) cue' s' [] leg := by
  have hfree := hs.filter_held ho
  cases ho with
  | start hidle =>
      have hheld : f.held = [] := by simpa [own, hfree] using hm.held
      have hopens : f.Opens (fun _ => g) (.call .start) _ _ _ := .start (hm.current ▸ hidle)
      rw [hm.current, hm.engine, hheld] at hopens
      exact ⟨_, _, rfl, hopens⟩
  | @send text hf =>
      have hheld : f.held = [] := by simpa [own, hfree] using hm.held
      have hopens : f.Opens (fun _ => g) (.call (.send text)) _ _ _ := .send (hm.current ▸ hf)
      rw [hm.current, hm.engine, hheld] at hopens
      exact ⟨_, _, rfl, hopens⟩
  | @settle place w hw hown =>
      have hheld := hm.held
      rw [hs.own_eq (List.mem_of_getElem? hw) hown] at hheld
      obtain ⟨twin, htwin, htask⟩ := List.map_eq_singleton_iff.mp hheld
      have hrun : twin.pending.run = w.pending.run := congrArg Prod.fst htask
      have hplace : f.held[0]? = some twin := by simp [htwin]
      have herase : f.held.eraseIdx 0 = [] := by simp [htwin]
      have hopens : f.Opens (fun _ => g) (.settle 0) _ _ _ :=
        .settle hplace (by rw [hrun, hown, hm.current])
      rw [hm.current, hm.engine, Held.leg_congr htask g, herase] at hopens
      exact ⟨.settle 0, _, by simp [relay, hw, hown], hopens⟩

private theorem returned (hm : h.Mirrors f) {cue' : Cue} {s' : Session}
    (ho : h.Opens (fun _ => g) cue s held leg) (ho' : f.Opens (fun _ => g) cue' s' [] leg)
    (hid : leg.run.id = h.session.current.id)
    (hown : held.filter (·.pending.run = leg.run.id) = []) :
    Mirrors ⟨(s.moved leg).persist leg.run.id, held⟩ ⟨(s'.moved leg).persist leg.run.id, []⟩ := by
  have hengine : (s'.moved leg).engine = (s.moved leg).engine := by
    rw [ho'.frame, ho.frame]
    exact hm.engine
  have hpersisted : (s'.moved leg).persisted = (s.moved leg).persisted := by
    rw [ho'.frame, ho.frame]
    exact hm.persisted
  have hrows : (s'.moved leg).rows leg.run.id = (s.moved leg).rows leg.run.id := by
    rw [ho'.frame, ho.frame, hid]
    exact hm.rows
  obtain ⟨hpersisted', hrows'⟩ :=
    Session.persist_congr (s := s.moved leg) (t := s'.moved leg) rfl hengine hpersisted hrows
  refine ⟨?_, ?_, hpersisted', ?_, ?_⟩
  · simp only [Session.persist_current]
    rfl
  · simpa only [Session.persist_engine] using hengine
  · simp only [Session.persist_current]
    exact hrows'
  · simp only [own, Session.persist_current, Session.moved, hown]

private theorem asks (hm : h.Mirrors f) {cue' : Cue} {s' : Session}
    (ho : h.Opens (fun _ => g) cue s held leg) (ho' : f.Opens (fun _ => g) cue' s' [] leg)
    (hid : leg.run.id = h.session.current.id)
    (hown : held.filter (·.pending.run = leg.run.id) = []) (node : Node)
    (request : EffectRequest) (n m : Nat) :
    Mirrors ⟨{ s.moved leg with requests := s.requests ++ [request] },
        held ++ [⟨n, leg.run.id, s.observed, node, request⟩]⟩
      ⟨{ s'.moved leg with requests := s'.requests ++ [request] },
        [⟨m, leg.run.id, s'.observed, node, request⟩]⟩ := by
  refine ⟨rfl, ?_, ?_, ?_, ?_⟩
  · rw [ho'.frame, ho.frame]
    exact hm.engine
  · rw [ho'.frame, ho.frame]
    exact hm.persisted
  · rw [ho'.frame, ho.frame]
    show f.session.rows leg.run.id = h.session.rows leg.run.id
    rw [hid]
    exact hm.rows
  · show _ = ((held ++ [_]).filter fun w : Held => decide (w.pending.run = leg.run.id)).map _
    rw [List.filter_append, hown]
    simp [Held.task]

theorem step (hm : h.Mirrors f) (hs : h.Sound e) (hl : e.Loyal)
    (hmoves : h.Moves (fun _ => g) cue h') (hc : cue ≠ .reset) :
    ∃ f', f.play (fun _ => g) (h.relay cue) = some f' ∧ h'.Mirrors f' := by
  have hopened {cue s held leg} (ho : h.Opens (fun _ => g) cue s held leg) :
      ∃ cue' s', h.relay cue = [cue'] ∧ f.Opens (fun _ => g) cue' s' [] leg ∧
        leg.run.id = h.session.current.id ∧ leg.run.id = s'.current.id ∧
        held.filter (·.pending.run = leg.run.id) = [] := by
    obtain ⟨cue', s', hrelay, ho'⟩ := hm.opens hs ho
    have hid := hs.id_of_opens hl ho
    refine ⟨cue', s', hrelay, ho', hid, ?_, ?_⟩
    · rw [ho'.current, hm.current, hid]
    · rw [hid]
      exact hs.filter_held ho
  cases hmoves with
  | @refused c hrefused =>
      refine ⟨f, ?_, hm⟩
      have hstep : f.step (fun _ => g) (.call c) = some f := by
        rw [Scene.step, Session.call_of_not_fitsRun (hm.current ▸ hrefused)]
        rfl
      rw [relay, play_cons, hstep]
      rfl
  | reset => exact absurd rfl hc
  | returned ho hr =>
      obtain ⟨cue', s', hrelay, ho', hid, hid', hown⟩ := hopened ho
      refine ⟨_, ?_, hm.returned ho ho' hid hown⟩
      rw [hrelay, play_cons, ho'.step_eq, Session.absorb_returned hid' hr]
      rfl
  | @asks _ _ _ _ node request ho hr =>
      obtain ⟨cue', s', hrelay, ho', hid, hid', hown⟩ := hopened ho
      refine ⟨_, ?_, hm.asks ho ho' hid hown node request _ f.session.requests.length⟩
      rw [hrelay, play_cons, ho'.step_eq, Session.absorb_awaiting hid' hr]
      rfl
  | @drained place w run hw hrun hid hne =>
      refine ⟨f, ?_, hm.current, hm.engine, hm.persisted, hm.rows, ?_⟩
      · simp [relay, hw, hne, play]
      · have hown : (h.held.eraseIdx place).filter (·.pending.run = h.session.current.id) = h.own :=
          filter_eraseIdx_of_not hw (by simpa using hne)
        exact hm.held.trans (congrArg _ hown.symm)

/-- A new session mirrors the run that follows a reset, if its store holds the same of it. -/
theorem reset (hs : h.Sound e) (hu : h.Untouched store)
    (htwin : twin.map (·.only h.session.reset.current.id) =
      store.map (·.only h.session.reset.current.id)) :
    Mirrors { h with session := h.session.reset } (fresh e twin h.session.reset.current.id) := by
  have hnew := hs.numbered.reset_id_not_mem
  refine ⟨rfl, hs.engine.symm, rfl, htwin.trans (hu _ hnew).symm, ?_⟩
  have hown : h.held.filter (·.pending.run = h.session.reset.current.id) = [] := by
    rw [List.filter_eq_nil_iff]
    intro w hw
    obtain ⟨-, r, hr, hid, -⟩ := hs.held w hw
    have hne : w.pending.run ≠ h.session.reset.current.id := by
      rintro heq
      exact hnew (heq ▸ hid ▸ List.mem_map_of_mem hr)
    simpa using hne
  exact (congrArg (List.map Held.task) hown).symm

end Mirrors

theorem Untouched.make (e : Engine) (store : Option RunStore) :
    (Scene.make e store).Untouched store := fun _ _ => rfl

theorem since_cons {seen cues : List Cue} (hstep : h.step serve cue = some h') :
    h.since serve seen (cue :: cues) =
      h'.since serve (if cue = .reset then [] else seen ++ h.relay cue) cues := by
  simp [since, hstep]

/-- A new session that is told `seen` mirrors a scene, if its store held the same of the run. -/
def MirroredBy (e : Engine) (store : Option RunStore) (g : EffectRequest → EffectOutcome)
    (h : Scene) (seen : List Cue) : Prop :=
  ∀ twin : Option RunStore, twin.map (·.only h.session.current.id) =
      store.map (·.only h.session.current.id) →
    ∃ f, (fresh e twin h.session.current.id).play (fun _ => g) seen = some f ∧ h.Mirrors f

/-- What the new session is told is what concerns the current run. At a reset it gives place to
the next one. -/
theorem MirroredBy.play (ha : e.flow.Accepted) (hh : e.handlers = []) {seen cues : List Cue}
    (hs : h.Sound e) (hu : h.Untouched store) (hm : h.MirroredBy e store g seen)
    (hplay : h.play (fun _ => g) cues = some h') :
    h'.MirroredBy e store g (h.since (fun _ => g) seen cues) := by
  induction cues generalizing h seen with
  | nil =>
      cases hplay
      exact hm
  | cons cue cues ih =>
      rw [play_cons] at hplay
      obtain ⟨next, hnext, hrest⟩ := Option.bind_eq_some_iff.mp hplay
      have hl := Engine.loyal_of_nil hh
      have hmoves := hs.moves hl hnext
      rw [since_cons hnext]
      refine ih (hs.kept ha hh hmoves) (hmoves.untouched hs.toTracked hl hu) ?_ hrest
      intro twin htwin
      by_cases hc : cue = .reset
      -- the next run is mirrored from nothing: what the old ones hold never reaches it
      · subst hc
        cases hnext
        exact ⟨_, rfl, .reset hs hu htwin⟩
      · have hid : next.session.current.id = h.session.current.id :=
          (List.cons.inj (hmoves.ids hs.toTracked hl hc)).1
        rw [hid] at htwin ⊢
        obtain ⟨f, hf, hmirrors⟩ := hm twin htwin
        obtain ⟨f', hf', hmirrors'⟩ := hmirrors.step hs hl hmoves hc
        refine ⟨f', ?_, hmirrors'⟩
        rw [if_neg hc, play_append, hf]
        exact hf'

/-- The current run is, at every moment, what it would be as the first run of a new session that
is told only what has concerned it since the last reset, and so are its rows in the store. Of the
store that the new session starts with only what it holds of this very run matters. -/
theorem play_fresh (ha : e.flow.Accepted) (hh : e.handlers = []) (store : Option RunStore)
    (g : EffectRequest → EffectOutcome) (cues : List Cue)
    (hplay : (Scene.make e store).play (fun _ => g) cues = some h) (twin : Option RunStore)
    (htwin : twin.map (·.only h.session.current.id) = store.map (·.only h.session.current.id)) :
    ∃ f, (fresh e twin h.session.current.id).play (fun _ => g)
        ((Scene.make e store).since (fun _ => g) [] cues) = some f ∧
      f.session.current = h.session.current ∧
      f.session.rows h.session.current.id = h.session.rows h.session.current.id := by
  have hmade : (Scene.make e store).MirroredBy e store g [] := fun twin htwin =>
    ⟨_, rfl, rfl, rfl, rfl, htwin, rfl⟩
  obtain ⟨f, hf, hm⟩ := hmade.play ha hh (.make e store) (.make e store) hplay twin htwin
  exact ⟨f, hf, hm.current, hm.rows⟩

/-- The run before is discarded while its effect is under way, and ends during the new one. -/
theorem errand_fresh : ∃ h f,
    (Scene.make errand (some {})).play (fun _ => granting)
      [.call .start, .reset, .call .start, .settle 0, .settle 0] = some h ∧
    (fresh errand (some {}) "run-1").play (fun _ => granting) [.call .start, .settle 0] = some f ∧
    f.session.current = h.session.current ∧
    f.session.rows "run-1" = h.session.rows "run-1" := by
  obtain ⟨h, hplay, hid⟩ := Option.map_eq_some_iff.mp (show ((Scene.make errand (some {})).play
    (fun _ => granting) [.call .start, .reset, .call .start, .settle 0, .settle 0]).map
      (·.session.current.id) = some "run-1" by decide +kernel)
  have hsince : (Scene.make errand (some {})).since (fun _ => granting) []
      [.call .start, .reset, .call .start, .settle 0, .settle 0] =
        [.call .start, .settle 0] := by decide +kernel
  obtain ⟨f, hf, hcurrent, hrows⟩ :=
    play_fresh errand_accepted rfl (some {}) granting _ hplay (some {}) rfl
  rw [hid] at hf hrows
  rw [hsince] at hf
  exact ⟨h, f, hplay, hf, hcurrent, hrows⟩

end Scene
end Dialogue
