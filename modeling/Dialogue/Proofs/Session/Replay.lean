import Dialogue.Proofs.Run.Replay
import Dialogue.Proofs.Session.Trail

/-!
# The variables of every run of a session

Whatever callers and the gateway do, the variables of each run of a session are what the contact it
began with and the bindings along its trail make of them (`play_replayed`).
-/
namespace Dialogue

namespace Run

/-- What has been written of the variables of a run, in order: those of the contact when it begins,
and what is bound along its trail. -/
def written (e : Engine) (r : Run) (trail : List Stage) : List (String × Json) :=
  if r.status = .idle then []
  else (Variables.contactKey, .str e.settings.contactName) ::
    (Variables.phoneKey, .str e.settings.contactPhone) :: Stage.bindings trail

/-- The variables of a run are what was written: each name once, in the order in which the names
were first written, and with what was written to it last. -/
structure Replays (e : Engine) (r : Run) (trail : List Stage) : Prop where
  vars : r.vars = Bindings.ofList (r.written e trail)
  names : r.vars.map Prod.fst = ((r.written e trail).map Prod.fst).eraseDups
  values : ∀ name, Bindings.get? name r.vars = (r.written e trail).reverse.lookup name

/-- What a run keeps that its variables can be told from. -/
structure Kept (e : Engine) (r : Run) (trail : List Stage) : Prop where
  vars : r.vars = Bindings.ofList (r.written e trail)
  unstarted : r.status = .idle → trail = []

variable {e : Engine} {r s : Run} {trail more : List Stage}

theorem Kept.replays (h : r.Kept e trail) : r.Replays e trail := by
  refine ⟨h.vars, ?_, ?_⟩
  · rw [h.vars, Bindings.keys_ofList]
  · intro name
    rw [h.vars, Bindings.get?_ofList]

theorem Kept.congr (h : r.Kept e trail) (hv : s.vars = r.vars)
    (hs : s.status = .idle ↔ r.status = .idle) : s.Kept e trail where
  vars := by
    rw [hv, h.vars]
    simp only [written, hs]
  unstarted hidle := h.unstarted (hs.mp hidle)

theorem Kept.onward (h : r.Kept e trail) (hr : r.status ≠ .idle) (hs : s.status ≠ .idle)
    (hv : s.vars = Bindings.merge r.vars (Stage.bindings more)) : s.Kept e (trail ++ more) where
  vars := by
    rw [hv, h.vars, written, if_neg hr, written, if_neg hs, Stage.bindings, Stage.bindings,
      Stage.bindings, List.filterMap_append]
    exact (Bindings.merge_append _ _ _).symm
  unstarted hidle := absurd hidle hs

theorem Kept.begun (h : r.Kept e trail) (hr : r.status = .idle) (hs : s.status ≠ .idle)
    (hv : s.vars = Bindings.merge (Session.begun e r).vars (Stage.bindings more)) :
    s.Kept e (trail ++ more) where
  vars := by
    have hempty : r.vars = [] := by
      rw [h.vars, written, if_pos hr]
      rfl
    rw [h.unstarted hr, List.nil_append, hv, written, if_neg hs]
    show Bindings.merge (r.vars.seed _ _) _ = _
    rw [hempty]
    rfl
  unstarted hidle := absurd hidle hs

end Run

namespace Engine

variable {e : Engine} {node : Node} {run : Run}

theorem stages_cancelled (e : Engine) (steps : Nat) (next : Option Node)
    (hc : run.cancelled = true) : e.stages steps next run = [] := by
  cases steps with
  | zero => cases next <;> rfl
  | succ steps =>
      cases next with
      | none => rfl
      | some node => simp [stages, hc]

theorem stagesUpon_cancelled (e : Engine) (hs : node.SeeksEffect) (hc : run.cancelled = true)
    (request : EffectRequest) (outcome : EffectOutcome) :
    e.stagesUpon node request outcome run = [] := by
  have hkeeps := (conclude_concluded e hs request outcome run).keeps Run.Follows.lasting
  unfold stagesUpon beyond
  split
  · rfl
  · split
    · rfl
    · exact e.stages_cancelled _ _ (hkeeps.cancelled.trans hc)

end Engine

namespace Session

variable {e : Engine} {run : Run}

theorem opening_vars (hh : e.handlers = []) (run : Run) : (opening e run).run.vars =
    Bindings.merge (begun e run).vars (Stage.bindings (stagesAtStart e run)) := by
  simp only [opening, stagesAtStart]
  cases e.flow.startNode? with
  | none => rfl
  | some node => exact Engine.continueFrom_vars hh _ _

theorem reply_vars (hh : e.handlers = []) {node : Node} (ha : node.Asks)
    (hnode : run.current.bind e.flow.node? = some node) (text : String) :
    (reply e run text).run.vars =
      Bindings.merge run.vars (Stage.bindings (stagesOfReply e run text)) := by
  have htaken := Engine.take_vars e ha (answered run text) text
  simp only [reply, stagesOfReply, hnode]
  rw [Stage.merge_cons]
  show _ = Bindings.merge (Bindings.merge (answered run text).vars (node.answer? text).toList) _
  rw [← htaken]
  generalize take e node (answered run text) text = taken
  cases taken with
  | walkOn r next => exact Engine.continueFrom_vars hh next r
  | waitMore r => exact Run.vars_suspend r
  | failed r events => rfl

end Session

namespace Scene

/-- What a cue adds to the trails of the runs, latest run first. -/
def carried (serve : Serving) (h : Scene) (cue : Cue) : List (List Stage) → List (List Stage)
  | [] => []
  | trail :: earlier =>
    if cue = .reset then [] :: trail :: earlier else (trail ++ h.stages serve cue) :: earlier

/-- What the runs have done, after `seen`, by the end of a schedule. -/
def trails (serve : Serving) (h : Scene) (seen : List (List Stage)) : List Cue → List (List Stage)
  | [] => seen
  | cue :: cues =>
    ((h.step serve cue).map fun h' => h'.trails serve (h.carried serve cue seen) cues).getD seen

variable {serve : Serving} {e : Engine} {h h' : Scene} {cue : Cue} {s : Session}
  {held : List Held} {leg : Leg} {seen earlier : List (List Stage)} {trail : List Stage}

theorem head_trails (serve : Serving) (h : Scene) (trail : List Stage) (earlier : List (List Stage))
    (cues : List Cue) :
    (h.trails serve (trail :: earlier) cues).head? = some (h.trail serve trail cues) := by
  induction cues generalizing h trail earlier with
  | nil => rfl
  | cons cue cues ih =>
      simp only [trails, Scene.trail]
      cases h.step serve cue with
      | none => rfl
      | some h' =>
          simp only [Option.map_some, Option.getD_some, carried]
          split
          · exact ih h' _ _
          · exact ih h' _ _

/-- Each run has the variables that its trail tells. -/
structure Replayed (e : Engine) (h : Scene) (seen : List (List Stage)) : Prop where
  length : seen.length = h.session.runs.length
  kept : ∀ p ∈ h.session.runs.zip seen, p.1.Kept e p.2

theorem Replayed.make (e : Engine) (store : Option RunStore) :
    (Scene.make e store).Replayed e [[]] := by
  refine ⟨rfl, ?_⟩
  intro p hp
  rw [List.mem_singleton.mp hp]
  exact ⟨rfl, fun _ => rfl⟩

theorem Sound.opens_kept (hs : h.Sound e) (ha : e.flow.Accepted) (hh : e.handlers = [])
    (ho : h.Opens serve cue s held leg) {trail : List Stage}
    (hk : h.session.current.Kept e trail) :
    leg.run.Kept e (trail ++ h.stages serve cue) := by
  have hstarted := (hs.toTracked.opens (Engine.loyal_of_nil hh) ho).2
  cases ho with
  | start hidle =>
      simp only [stages, hidle, if_true]
      rw [hs.engine] at hstarted ⊢
      exact hk.begun hidle hstarted (Session.opening_vars hh _)
  | @send text hf =>
      obtain ⟨node, hmem, hasks, hcur, -⟩ := hs.asks_of_waiting hf.1
      have hnode := ha.bind_node? hmem hcur
      have hrunning : h.session.current.status ≠ .idle := by simp [hf.1]
      simp only [stages, hf, if_true]
      rw [hs.engine] at hstarted ⊢
      exact hk.onward hrunning hstarted (Session.reply_vars hh hasks hnode text)
  | @settle place w hw hown =>
      have hmem := List.mem_of_getElem? hw
      have hrunning := hs.toTracked.started_of_run hmem List.mem_cons_self hown.symm
      simp only [stages, hw, hown, if_true]
      rw [hs.engine] at hstarted ⊢
      exact hk.onward hrunning hstarted
        (Engine.takeUp_vars hh (hs.held w hmem).1 w.pending.request (w.outcome serve) _)

theorem Tracked.drained_kept (ht : h.Tracked e) (hh : e.handlers = []) {place : Nat} {w : Held}
    {run : Run} (hw : h.held[place]? = some w) (hrun : run ∈ h.session.discarded)
    (hid : run.id = w.pending.run) {trail : List Stage} (hk : run.Kept e trail) :
    (w.leg serve h.session.engine run).run.Kept e trail := by
  have hmem := List.mem_of_getElem? hw
  have hseeks := (ht.held w hmem).1
  have hstarted := ht.started_of_run hmem (List.mem_cons_of_mem _ hrun) hid
  have hleg := (ht.drains serve hw hrun).run.started hstarted
  refine hk.congr ?_ ⟨fun hidle => absurd hidle hleg, fun hidle => absurd hidle hstarted⟩
  rw [ht.engine]
  have hvars := Engine.takeUp_vars hh hseeks w.pending.request (w.outcome serve) run
  rw [Engine.stagesUpon_cancelled e hseeks (ht.dead run hrun)] at hvars
  exact hvars

/-- The run that has what came back, and every other run as it was. -/
theorem Replayed.put (hr : h.Replayed e seen) (ht : h.Tracked e) (hh : e.handlers = [])
    {place : Nat} {w : Held} {run : Run} (hw : h.held[place]? = some w)
    (hrun : run ∈ h.session.discarded) (hid : run.id = w.pending.run) :
    ∀ p ∈ (h.session.runs.map (Session.put (w.leg serve h.session.engine run).run)).zip seen,
      p.1.Kept e p.2 := by
  intro p hp
  rw [List.zip_map_left] at hp
  obtain ⟨⟨r, trail⟩, hold, rfl⟩ := List.mem_map.mp hp
  have hkept := hr.kept _ hold
  show (Session.put _ r).Kept e trail
  unfold Session.put
  split
  · rename_i hput
    have hback := (ht.drains serve hw hrun).run.id
    have hsame : r = run := ht.numbered.eq_of_id (List.of_mem_zip hold).1
      (List.mem_cons_of_mem _ hrun) (hput.trans hback)
    subst hsame
    exact ht.drained_kept hh hw hrun hid hkept
  · exact hkept

theorem Replayed.opened (hr : h.Replayed e seen) (hs : h.Sound e) (ha : e.flow.Accepted)
    (hh : e.handlers = []) (ho : h.Opens serve cue s held leg) :
    (h.carried serve cue seen).length = (leg.run :: s.discarded).length ∧
      ∀ p ∈ (leg.run :: s.discarded).zip (h.carried serve cue seen), p.1.Kept e p.2 := by
  obtain ⟨trail, earlier, rfl⟩ :=
    List.exists_cons_of_ne_nil (List.ne_nil_of_length_eq_add_one hr.length)
  rw [carried, if_neg ho.ne_reset, ho.frame]
  refine ⟨hr.length, fun p hp => ?_⟩
  rcases List.mem_cons.mp hp with rfl | hp
  · exact hs.opens_kept ha hh ho (hr.kept (_, _) List.mem_cons_self)
  · exact hr.kept p (List.mem_cons_of_mem _ hp)

theorem Replayed.reset (hr : h.Replayed e (trail :: earlier)) :
    Scene.Replayed e { h with session := h.session.reset } ([] :: trail :: earlier) := by
  refine ⟨congrArg (· + 1) hr.length, fun p hp => ?_⟩
  rcases List.mem_cons.mp hp with rfl | hp
  · exact ⟨rfl, fun _ => rfl⟩
  · rcases List.mem_cons.mp hp with rfl | hp
    · exact (hr.kept (_, _) List.mem_cons_self).congr rfl .rfl
    · exact hr.kept p (List.mem_cons_of_mem _ hp)

theorem Moves.replayed (hm : h.Moves serve cue h') (hr : h.Replayed e seen) (hs : h.Sound e)
    (ha : e.flow.Accepted) (hh : e.handlers = []) : h'.Replayed e (h.carried serve cue seen) := by
  obtain ⟨trail, earlier, rfl⟩ :=
    List.exists_cons_of_ne_nil (List.ne_nil_of_length_eq_add_one hr.length)
  cases hm with
  | @refused c hrefused =>
      rw [carried, if_neg (by simp), stages_refused serve hrefused, List.append_nil]
      exact hr
  | reset =>
      rw [carried, if_pos rfl]
      exact hr.reset
  | @returned cue s held leg ho hret =>
      obtain ⟨hlength, hkept⟩ := hr.opened hs ha hh ho
      have hruns : ((s.moved leg).persist leg.run.id).runs = leg.run :: s.discarded := by
        simp only [Session.runs, Session.persist_current, Session.persist_discarded]
        rfl
      exact ⟨hruns ▸ hlength, hruns ▸ hkept⟩
  | asks ho hret =>
      obtain ⟨hlength, hkept⟩ := hr.opened hs ha hh ho
      exact ⟨hlength, hkept⟩
  | @drained place w run hw hrun hid hne =>
      have hruns : ((h.session.measure serve w).drained (w.leg serve h.session.engine run)).runs =
          h.session.runs.map (Session.put (w.leg serve h.session.engine run).run) :=
        Moves.runs_of_drained hs.toTracked hw hrun hid hne
      rw [carried, if_neg (by simp), stages_drained serve hw hne, List.append_nil]
      refine ⟨by rw [hruns, List.length_map, hr.length], ?_⟩
      rw [hruns]
      exact hr.put hs.toTracked hh hw hrun hid

theorem Replayed.play (hr : h.Replayed e seen) (hs : h.Sound e) (ha : e.flow.Accepted)
    (hh : e.handlers = []) {cues : List Cue} (hplay : h.play serve cues = some h') :
    h'.Replayed e (h.trails serve seen cues) := by
  induction cues generalizing h seen with
  | nil =>
      cases hplay
      exact hr
  | cons cue cues ih =>
      rw [play_cons] at hplay
      obtain ⟨next, hnext, hrest⟩ := Option.bind_eq_some_iff.mp hplay
      have hmoves := hs.moves (Engine.loyal_of_nil hh) hnext
      have hkept := ih (hmoves.replayed hr hs ha hh) (hs.kept ha hh hmoves) hrest
      simpa [trails, hnext] using hkept

/-- Whatever callers and the gateway do, each run has exactly the variables that the contact it
began with, the answers it took and the assignments it carried out have written. -/
theorem play_replayed (ha : e.flow.Accepted) (hh : e.handlers = []) (store : Option RunStore)
    (serve : Serving) (cues : List Cue) (hplay : (Scene.make e store).play serve cues = some h) :
    ((Scene.make e store).trails serve [[]] cues).head? =
        some ((Scene.make e store).trail serve [] cues) ∧
      ((Scene.make e store).trails serve [[]] cues).length = h.session.runs.length ∧
      ∀ p ∈ h.session.runs.zip ((Scene.make e store).trails serve [[]] cues),
        p.1.Replays e p.2 := by
  have hreplayed := (Replayed.make e store).play (.make e store) ha hh hplay
  exact ⟨head_trails serve _ [] [] cues, hreplayed.length,
    fun p hp => (hreplayed.kept p hp).replays⟩

/-- An answer is a variable of the run that it was given to, and not of the run after it. -/
theorem errand_replayed : ∃ now before h,
    (Scene.make errand none).play (fun _ => granting)
      [.call .start, .settle 0, .call (.send "yes"), .reset, .call .start] = some h ∧
    h.session.runs = [now, before] ∧ now.vars.map Prod.fst = ["nome", "telefone"] ∧
    before.vars.map Prod.fst = ["nome", "telefone", "answer"] := by
  obtain ⟨h, hplay, hstatus⟩ := Option.map_eq_some_iff.mp (show ((Scene.make errand none).play
    (fun _ => granting)
    [.call .start, .settle 0, .call (.send "yes"), .reset, .call .start]).map
      (fun h => h.session.runs.map (·.status)) = some [.running, .completed] by decide +kernel)
  have hbound : ((Scene.make errand none).trails (fun _ => granting) [[]]
      [.call .start, .settle 0, .call (.send "yes"), .reset, .call .start]).map
        (fun trail => (Stage.bindings trail).map Prod.fst) = [[], ["answer"]] := by
    decide +kernel
  obtain ⟨-, -, hall⟩ := play_replayed errand_accepted rfl none (fun _ => granting) _ hplay
  obtain ⟨now, rest, hruns, hnow, hrest⟩ := List.map_eq_cons_iff.mp hstatus
  obtain ⟨before, rfl, hbefore⟩ := List.map_eq_singleton_iff.mp hrest
  obtain ⟨late, rest, htrails, hlate, hrest⟩ := List.map_eq_cons_iff.mp hbound
  obtain ⟨early, rfl, hearly⟩ := List.map_eq_singleton_iff.mp hrest
  rw [hruns, htrails] at hall
  refine ⟨now, before, h, hplay, hruns, ?_, ?_⟩
  · rw [(hall (now, late) (by simp)).names]
    rw [Run.written, if_neg (by simp [hnow]), List.map_cons, List.map_cons, hlate]
    decide
  · rw [(hall (before, early) (by simp)).names]
    rw [Run.written, if_neg (by simp [hbefore]), List.map_cons, List.map_cons, hearly]
    decide

end Scene
end Dialogue
