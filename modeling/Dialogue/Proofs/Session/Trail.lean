import Dialogue.Proofs.Run.Trail
import Dialogue.Proofs.Session.Invariant

/-!
# The trail of the current run

Whenever nothing is under way for the current run, its log has one entry for each step it carried
out and one for each answer it took since the last reset, in this order; these make a trail of the
flow, and the steps it visited are those of the log (`play_charted`).
-/
namespace Dialogue

namespace Session

/-- The steps that are visited when a run begins. -/
def stagesAtStart (e : Engine) (run : Run) : List Stage :=
  match e.flow.startNode? with
  | none => []
  | some node => e.stagesFrom node (begun e run)

/-- What an answer leads to: it is taken where the run waits, and the run goes on from there. -/
def stagesOfReply (e : Engine) (run : Run) (text : String) : List Stage :=
  match run.current.bind e.flow.node? with
  | none => []
  | some node => .answer node text :: match take e node (answered run text) text with
    | .walkOn run next => e.stagesFrom next run
    | _ => []

variable {e : Engine} {run : Run} {trail : List Stage}

theorem opening_charted (hh : e.handlers = []) (hc : run.Charted e.flow [])
    (hl : run.logged = []) (hp : run.processing = false) :
    (opening e run).Charted e.flow (stagesAtStart e run) := by
  apply Leg.Charted.after
  unfold stagesAtStart
  cases hstart : e.flow.startNode? with
  | none =>
      refine ⟨hc.congr rfl (.inl rfl), fun _ => hl, by simp⟩
  | some node =>
      have hbegun : (begun e run).Charted e.flow [] := hc.congr rfl (.inr rfl)
      refine Engine.continueFrom_charted hh hbegun hl hp ?_
      rintro _ ⟨⟩
      exact .start hstart

theorem reply_charted (hh : e.handlers = []) (ha : e.flow.Accepted) {node : Node}
    (hn : node ∈ e.flow.nodes) (hasks : node.Asks) (hc : run.Charted e.flow trail)
    (hl : run.logged = trail.map Stage.id) (hcur : run.current = some node.id)
    (hp : run.processing = false) (text : String) :
    (reply e run text).Charted e.flow (trail ++ stagesOfReply e run text) := by
  have hnode := ha.bind_node? hn hcur
  obtain ⟨last, hlast, rfl⟩ := Option.map_eq_some_iff.mp
    (hc.valid.last_eq ha hn (hc.current _ hcur))
  have hanswered : (answered run text).Charted e.flow (trail ++ [.answer last.node text]) :=
    (hc.answer hlast hasks text).congr rfl (.inr rfl)
  simp only [reply, stagesOfReply, hnode]
  apply Leg.Charted.after
  have htaken := Engine.take_answered e hasks (answered run text) text
  generalize take e last.node (answered run text) text = taken at htaken ⊢
  have hlogged {r : Run} (h : Run.Told last.node 1 (answered run text) r) :
      r.logged = (trail ++ [Stage.answer last.node text]).map Stage.id := by
    rw [h.logged, List.map_append, ← hl]
    rfl
  cases htaken with
  | @walkOn r next h hnext =>
      rw [List.append_cons]
      refine Engine.continueFrom_charted hh (hanswered.told h) (hlogged h)
        (h.processing.trans hp) fun n hn => ?_
      exact .onward hanswered.valid (List.getLast?_concat ..) (hnext n hn)
  | waitMore h =>
      exact ⟨(hanswered.told h).suspend, fun _ => (Run.logged_suspend _).trans (hlogged h), by simp⟩
  | failed f h =>
      have hlog := hlogged h
      exact ⟨(hanswered.told h).congr rfl (.inl rfl), fun _ => hlog, by simp⟩

end Session

namespace Scene

/-- What the current run does on a cue. -/
def stages (serve : Serving) (h : Scene) : Cue → List Stage
  | .call .start =>
    if h.session.current.status = .idle then
      Session.stagesAtStart h.session.engine h.session.current
    else []
  | .call (.send text) =>
    if (Call.send text).FitsRun h.session.current then
      Session.stagesOfReply h.session.engine h.session.current text
    else []
  | .reset => []
  | .settle place => match h.held[place]? with
    | none => []
    | some w =>
      if w.pending.run = h.session.current.id then
        h.session.engine.stagesUpon w.pending.node w.pending.request (w.outcome serve)
          h.session.current
      else []

/-- What the current run has done, after `seen`, by the end of a schedule. -/
def trail (serve : Serving) (h : Scene) (seen : List Stage) : List Cue → List Stage
  | [] => seen
  | cue :: cues =>
    ((h.step serve cue).map fun h' =>
      h'.trail serve (if cue = .reset then [] else seen ++ h.stages serve cue) cues).getD seen

theorem stages_refused (serve : Serving) {h : Scene} {c : Call}
    (hc : ¬ c.FitsRun h.session.current) : h.stages serve (.call c) = [] := by
  cases c with
  | start => exact if_neg hc
  | send text => exact if_neg hc

theorem stages_drained (serve : Serving) {h : Scene} {place : Nat} {w : Held}
    (hw : h.held[place]? = some w) (hne : w.pending.run ≠ h.session.current.id) :
    h.stages serve (.settle place) = [] := by simp [stages, hw, hne]

/-- The log of the current run, as far as it goes, tells its trail. -/
structure Charted (e : Engine) (h : Scene) (trail : List Stage) : Prop where
  run : h.session.current.Charted e.flow trail
  rest : (∀ w ∈ h.held, w.pending.run ≠ h.session.current.id) →
    h.session.current.logged = trail.map Stage.id
  held : ∀ w ∈ h.held, w.pending.run = h.session.current.id →
    trail.map Stage.id = h.session.current.logged ++ [w.pending.node.id]
  answers : trail.filterMap Stage.text? = h.session.current.answers
  unstarted : h.session.current.status = .idle → trail = []

variable {serve : Serving} {e : Engine} {h h' : Scene} {cue : Cue} {s : Session}
  {held : List Held} {leg : Leg} {trail : List Stage}

theorem Charted.make (e : Engine) (store : Option RunStore) : (Scene.make e store).Charted e [] :=
  ⟨⟨.nil, rfl, by simp [Scene.make, Session.make]⟩, fun _ => rfl, by simp [Scene.make], rfl,
    fun _ => rfl⟩

theorem Charted.opens (hc : h.Charted e trail) (hs : h.Sound e) (ha : e.flow.Accepted)
    (hh : e.handlers = []) (ho : h.Opens serve cue s held leg) :
    leg.Charted e.flow (trail ++ h.stages serve cue) := by
  have hfree := hs.free ho
  cases ho with
  | start hidle =>
      have htrail := hc.unstarted hidle
      have hrest := hc.rest hfree
      subst htrail
      simp only [stages, hidle, if_true, List.nil_append, hs.engine]
      exact Session.opening_charted hh hc.run hrest (hs.unstarted_of_idle hidle).processing
  | @send text hf =>
      obtain ⟨node, hmem, hasks, hcur, -, hp⟩ := hs.asks_of_waiting hf.1
      simp only [stages, hf, if_true, hs.engine]
      exact Session.reply_charted hh ha hmem hasks hc.run (hc.rest hfree) hcur hp text
  | @settle place w hw hown =>
      have hmem := List.mem_of_getElem? hw
      have hat := hs.atStep hmem List.mem_cons_self hown.symm
      simp only [stages, hw, hown, if_true, hs.engine]
      exact Engine.takeUp_charted hh (hs.held w hmem).1 hc.run (hc.held w hmem hown)
        (hc.run.valid.last_eq ha hat.mem (hc.run.current _ hat.current)) _ _

theorem text_stages (ho : h.Opens serve cue s held leg) (hs : h.Sound e) (ha : e.flow.Accepted) :
    (h.stages serve cue).filterMap Stage.text? = cue.said := by
  cases ho with
  | start hidle =>
      simp only [stages, hidle, if_true, Session.stagesAtStart]
      split
      · rfl
      · exact Engine.text_stagesFrom _ _ _
  | @send text hf =>
      obtain ⟨node, hmem, -, hcur, -⟩ := hs.asks_of_waiting hf.1
      have hnode : h.session.current.current.bind h.session.engine.flow.node? = some node := by
        rw [hs.engine]
        exact ha.bind_node? hmem hcur
      simp only [stages, hf, if_true, Session.stagesOfReply, hnode]
      rw [List.filterMap_cons_some (show Stage.text? (.answer node text) = some text from rfl)]
      split
      · rw [Engine.text_stagesFrom]
        rfl
      · rfl
  | settle hw hown =>
      simp only [stages, hw, hown, if_true]
      exact Engine.text_beyond (Engine.text_stages _ _) _ _

theorem Opens.ne_reset (ho : h.Opens serve cue s held leg) : cue ≠ .reset := by
  rintro rfl
  cases ho

/-- A run that is taken on has said what its trail says, and nothing else is under way for it. -/
theorem Charted.advances (hc : h.Charted e trail) (hs : h.Sound e) (ha : e.flow.Accepted)
    (hh : e.handlers = []) (ho : h.Opens serve cue s held leg) :
    (trail ++ h.stages serve cue).filterMap Stage.text? = leg.run.answers ∧
      leg.run.status ≠ .idle ∧ ∀ w ∈ held, w.pending.run ≠ leg.run.id := by
  have hl := Engine.loyal_of_nil hh
  refine ⟨?_, (hs.toTracked.opens hl ho).2, ?_⟩
  · rw [List.filterMap_append, hc.answers, text_stages ho hs ha, (hs.opens ha hh ho).answers]
  · rw [hs.id_of_opens hl ho]
    exact hs.free ho

theorem Moves.charted (hm : h.Moves serve cue h') (hc : h.Charted e trail) (hs : h.Sound e)
    (ha : e.flow.Accepted) (hh : e.handlers = []) :
    h'.Charted e (if cue = .reset then [] else trail ++ h.stages serve cue) := by
  have hsound := hs.kept ha hh hm
  cases hm with
  | @refused c hrefused =>
      rw [if_neg (by simp), stages_refused serve hrefused, List.append_nil]
      exact hc
  | reset =>
      rw [if_pos rfl]
      refine ⟨⟨.nil, rfl, by simp [Session.reset]⟩, fun _ => rfl, ?_, rfl, fun _ => rfl⟩
      intro w hw hown
      have hat := hsound.atStep hw List.mem_cons_self hown.symm
      cases hat.status
  | @returned _ s _ leg ho hr =>
      obtain ⟨hsaid, hstarted, hfree⟩ := hc.advances hs ha hh ho
      have hleg := hc.opens hs ha hh ho
      obtain ⟨store, persisted, hpersist⟩ := (s.moved leg).persist_frame leg.run.id
      rw [if_neg ho.ne_reset, hpersist]
      refine ⟨hleg.run, fun _ => hleg.returned hr, ?_, hsaid, fun hidle => absurd hidle hstarted⟩
      exact fun w hw hown => absurd hown (hfree w hw)
  | @asks _ _ _ _ node request ho hr =>
      obtain ⟨hsaid, hstarted, hfree⟩ := hc.advances hs ha hh ho
      have hleg := hc.opens hs ha hh ho
      rw [if_neg ho.ne_reset]
      refine ⟨hleg.run, ?_, ?_, hsaid, fun hidle => absurd hidle hstarted⟩
      · intro hnone
        exact absurd rfl (hnone _ (List.mem_append_right _ (List.mem_singleton_self _)))
      · intro w hw hown
        rcases List.mem_append.mp hw with hw | hw
        · exact absurd hown (hfree w hw)
        · rw [List.mem_singleton.mp hw]
          exact hleg.awaiting node request hr
  | @drained place w run hw hrun hid hne =>
      rw [if_neg (by simp), stages_drained serve hw hne, List.append_nil]
      refine ⟨hc.run, ?_, ?_, hc.answers, hc.unstarted⟩
      · intro hfree
        refine hc.rest fun v hv hown => hfree v ?_ hown
        exact mem_eraseIdx_of_run_ne hw hv (hown.trans_ne hne.symm)
      · exact fun v hv hown => hc.held v ((List.eraseIdx_sublist _ _).subset hv) hown

theorem trail_cons {seen : List Stage} {cues : List Cue} (hstep : h.step serve cue = some h') :
    h.trail serve seen (cue :: cues) =
      h'.trail serve (if cue = .reset then [] else seen ++ h.stages serve cue) cues := by
  simp [Scene.trail, hstep]

theorem Charted.play (hc : h.Charted e trail) (hs : h.Sound e) (ha : e.flow.Accepted)
    (hh : e.handlers = []) {cues : List Cue} (hplay : h.play serve cues = some h') :
    h'.Charted e (h.trail serve trail cues) := by
  induction cues generalizing h trail with
  | nil =>
      cases hplay
      exact hc
  | cons cue cues ih =>
      rw [play_cons] at hplay
      obtain ⟨next, hnext, hrest⟩ := Option.bind_eq_some_iff.mp hplay
      have hmoves := hs.moves (Engine.loyal_of_nil hh) hnext
      rw [trail_cons hnext]
      exact ih (hmoves.charted hc hs ha hh) (hs.kept ha hh hmoves) hrest

/-- How the log of a run tells what the run did. -/
structure Tells (flow : Flow) (trail : List Stage) (r : Run) : Prop where
  /-- Each step carried out and each answer taken has one entry. -/
  entries : r.logged = trail.map Stage.id
  answers : r.answers = trail.filterMap Stage.text?
  start : ∀ first, r.logged.head? = some first →
    ∃ start, flow.startNode? = some start ∧ first = start.id ∧ first ∉ r.logged.tail
  adjoins : r.logged.IsChain flow.Adjoins
  visited : r.visited = r.logged.eraseDups

theorem Charted.tells (hc : h.Charted e trail) (ha : e.flow.Accepted)
    (hrest : ∀ w ∈ h.held, w.pending.run ≠ h.session.current.id) :
    Tells e.flow trail h.session.current := by
  have hlogged := hc.rest hrest
  refine ⟨hlogged, hc.answers.symm, ?_, hlogged ▸ hc.run.valid.adjoins, hlogged ▸ hc.run.visited⟩
  intro first hfirst
  rw [hlogged] at hfirst ⊢
  rw [List.head?_map] at hfirst
  obtain ⟨stage, hhead, rfl⟩ := Option.map_eq_some_iff.mp hfirst
  obtain ⟨start, hstart, rfl⟩ := hc.run.valid.head hhead
  exact ⟨start, hstart, rfl, hc.run.valid.start_not_mem_tail ha hstart⟩

/-- Whatever callers and the gateway do, while nothing is under way for the current run its log
tells what it did since the last reset. -/
theorem play_charted (ha : e.flow.Accepted) (hh : e.handlers = []) (store : Option RunStore)
    (serve : Serving) (cues : List Cue) (hplay : (Scene.make e store).play serve cues = some h)
    (hrest : ∀ w ∈ h.held, w.pending.run ≠ h.session.current.id) :
    Tells e.flow ((Scene.make e store).trail serve [] cues) h.session.current :=
  ((Charted.make e store).play (.make e store) ha hh hplay).tells ha hrest

/-- A question that is asked and answered has two entries. -/
theorem errand_charted : ∃ h,
    (Scene.make errand none).play (fun _ => granting)
      [.call .start, .settle 0, .call (.send "yes")] = some h ∧
    h.session.current.logged = ["entry", "update", "question", "question", "exit"] ∧
    h.session.current.visited = ["entry", "update", "question", "exit"] := by
  obtain ⟨h, hplay, hheld⟩ := Option.map_eq_some_iff.mp (show ((Scene.make errand none).play
    (fun _ => granting) [.call .start, .settle 0, .call (.send "yes")]).map (·.held.length) =
      some 0 by decide)
  have hnone : h.held = [] := List.length_eq_zero_iff.mp hheld
  have htells := play_charted errand_accepted rfl none (fun _ => granting) _ hplay (by simp [hnone])
  have htrail : ((Scene.make errand none).trail (fun _ => granting) []
      [.call .start, .settle 0, .call (.send "yes")]).map Stage.id =
        ["entry", "update", "question", "question", "exit"] := by decide
  refine ⟨h, hplay, htells.entries.trans htrail, ?_⟩
  rw [htells.visited, htells.entries, htrail]
  decide

end Scene
end Dialogue
