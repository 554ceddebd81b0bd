import Dialogue.Proofs.Run.Breakdown
import Dialogue.Proofs.Session.Lifecycle

/-!
# Sessions in which a step breaks down

Whatever step breaks down in an operation, the operation returns, and the run stays as it failed
until a reset (`play_broken`).
-/
namespace Dialogue

namespace Session

/-- Where a run breaks down that begins. -/
def breakdownAtStart? (e : Engine) (run : Run) : Option Breakdown :=
  e.flow.startNode?.bind fun node => e.breakdownFrom? (some node) (begun e run)

/-- Where a run breaks down that an answer takes on; the answer may be what cannot be taken up. -/
def breakdownOfReply? (e : Engine) (run : Run) (text : String) : Option Breakdown :=
  (run.current.bind e.flow.node?).bind fun node =>
    match node.kind? with
    | some .input =>
      match e.bindInput node (answered run text) text with
      | .error f => some ⟨node, answered run text, ⟨answered run text, f⟩⟩
      | .ok (run, next) => e.breakdownFrom? next run
    | some .condition =>
      match e.routeCondition node (answered run text) text with
      | .error f => some ⟨node, answered run text, ⟨answered run text, f⟩⟩
      | .ok (run, step) => if step.wait then none else e.breakdownFrom? step.next run
    | _ => none

variable {e : Engine} {node : Node} {run : Run} {b : Breakdown}

theorem opening_broken (ha : e.Additive) (h : breakdownAtStart? e run = some b) :
    (opening e run).Broken e b := by
  obtain ⟨node, hstart, hb⟩ := Option.bind_eq_some_iff.mp h
  simp only [opening, hstart]
  exact (Engine.continueFrom_broken ha hb).after _

/-- An answer that cannot be taken up fails the run as a step of a walk does. -/
private theorem failed_broken (e : Engine) (node : Node) (f : Failure)
    (hp : run.processing = false) (events : List Event) :
    (⟨run.failAt node f, events, .returned⟩ : Leg).Broken e ⟨node, run, ⟨run, f⟩⟩ := by
  refine ⟨rfl, [], [], ?_, fun _ => ⟨rfl, .inl rfl⟩⟩
  constructor <;> simp [Run.failAt, Run.fail, Run.failBy, Run.say, Run.note, Breakdown.report,
    Breakdown.line, Breakdown.entry, hp]

theorem reply_broken (ha : e.Additive) (hp : run.processing = false) {text : String}
    (h : breakdownOfReply? e run text = some b) : (reply e run text).Broken e b := by
  obtain ⟨node, hnode, hb⟩ := Option.bind_eq_some_iff.mp h
  have hpa : (answered run text).processing = false := hp
  simp only [reply, hnode]
  apply Leg.Broken.after
  unfold take
  cases hk : node.kind? with
  | none =>
      rw [hk] at hb
      cases hb
  | some kind =>
      rw [hk] at hb
      cases kind with
      | input =>
          cases hbind : e.bindInput node (answered run text) text with
          | error f =>
              rw [hbind] at hb
              cases hb
              exact failed_broken e node f hpa _
          | ok bound =>
              rw [hbind] at hb
              exact Engine.continueFrom_broken ha hb
      | condition =>
          cases hroute : e.routeCondition node (answered run text) text with
          | error f =>
              rw [hroute] at hb
              cases hb
              exact failed_broken e node f hpa _
          | ok routed =>
              rw [hroute] at hb
              obtain ⟨r, step⟩ := routed
              dsimp only at hb ⊢
              split at hb
              · cases hb
              · rename_i hwait
                rw [if_neg hwait]
                exact Engine.continueFrom_broken ha hb
      | _ => cases hb

end Session

namespace Scene

/-- What the operation of a cue comes to. -/
def act (serve : Serving) (h : Scene) : Cue → Option (Session × Outcome)
  | .call c => some (c.on h.session)
  | .reset => none
  | .settle place =>
    h.held[place]?.map fun w => h.session.answer w.pending (w.outcome serve)

/-- Where the operation of a cue breaks down that takes the current run on. -/
def breakdown? (serve : Serving) (h : Scene) : Cue → Option Breakdown
  | .call .start =>
    if h.session.current.status = .idle then
      Session.breakdownAtStart? h.session.engine h.session.current
    else none
  | .call (.send text) =>
    if (Call.send text).FitsRun h.session.current then
      Session.breakdownOfReply? h.session.engine h.session.current text
    else none
  | .reset => none
  | .settle place => h.held[place]?.bind fun w =>
    if w.pending.run = h.session.current.id then
      h.session.engine.breakdownUpon? w.pending.node w.pending.request (w.outcome serve)
        h.session.current
    else none

variable {serve : Serving} {e : Engine} {h h' : Scene} {cue : Cue} {s : Session}
  {held : List Held} {leg : Leg} {b : Breakdown}

theorem Opens.act_eq (ho : h.Opens serve cue s held leg) :
    h.act serve cue = some (s.absorb leg) := by
  cases ho with
  | start hs => rw [act, Call.on, Session.start_of_idle hs]
  | send hf => rw [act, Call.on, Session.send_of_waiting hf]
  | @settle place w hw hown =>
      have hrun : h.session.run? w.pending.run = some h.session.current := by
        rw [Session.run?, if_pos hown.symm]
      rw [act, hw, Option.map_some, Session.answer_of_run? hrun]

theorem Steady.opens_broken (hs : h.Steady e) (ha : e.Additive)
    (hb : h.breakdown? serve cue = some b) :
    ∃ s held leg, h.Opens serve cue s held leg ∧ leg.Broken e b := by
  have he := hs.engine
  cases cue with
  | call c =>
      cases c with
      | start =>
          simp only [breakdown?] at hb
          split at hb
          · rename_i hidle
            rw [he] at hb
            exact ⟨_, _, _, .start hidle, he.symm ▸ Session.opening_broken ha hb⟩
          · cases hb
      | send text =>
          simp only [breakdown?] at hb
          split at hb
          · rename_i hfits
            rw [he] at hb
            exact ⟨_, _, _, .send hfits, he.symm ▸ Session.reply_broken ha hfits.2 hb⟩
          · cases hb
  | reset => cases hb
  | settle place =>
      obtain ⟨w, hw, hb⟩ := Option.bind_eq_some_iff.mp hb
      split at hb
      · rename_i hown
        rw [he] at hb
        exact ⟨_, _, _, .settle hw hown, he.symm ▸ Engine.takeUp_broken ha hb⟩
      · cases hb

/-- The current run has failed, and nothing is under way for it. -/
structure Stuck (r : Run) (h : Scene) : Prop where
  current : h.session.current = r
  status : r.status = .failed
  free : ∀ w ∈ h.held, w.pending.run ≠ r.id

theorem Stuck.not_fitsRun {r : Run} (hk : h.Stuck r) (c : Call) :
    ¬ c.FitsRun h.session.current := by
  rw [hk.current]
  cases c with
  | start =>
      intro hf
      have hidle : r.status = .idle := hf
      simp [hk.status] at hidle
  | send text =>
      intro hf
      have hwaiting : r.status = .waiting := hf.1
      simp [hk.status] at hwaiting

theorem Stuck.not_opens {r : Run} (hk : h.Stuck r) : ¬ h.Opens serve cue s held leg := by
  intro ho
  cases ho with
  | start hs => exact hk.not_fitsRun .start hs
  | @send text hf => exact hk.not_fitsRun (.send text) hf
  | settle hw hown => exact hk.free _ (List.mem_of_getElem? hw) (hown.trans (hk.current ▸ rfl))

theorem Stuck.kept {r : Run} (hk : h.Stuck r) (hm : h.Moves serve cue h') (hc : cue ≠ .reset) :
    h'.Stuck r := by
  cases hm with
  | refused => exact hk
  | reset => exact absurd rfl hc
  | returned ho hr => exact absurd ho hk.not_opens
  | asks ho hr => exact absurd ho hk.not_opens
  | drained hw hrun hid hne =>
      exact ⟨hk.current, hk.status, fun w hw => hk.free w ((List.eraseIdx_sublist _ _).subset hw)⟩

theorem Stuck.play {r : Run} (hk : h.Stuck r) (hs : h.Steady e) (ha : e.Additive)
    {cues : List Cue} (hcues : .reset ∉ cues) (hplay : h.play serve cues = some h') :
    h'.Stuck r := by
  induction cues generalizing h with
  | nil => exact Option.some.inj hplay ▸ hk
  | cons cue cues ih =>
      rw [play_cons] at hplay
      obtain ⟨next, hnext, hrest⟩ := Option.bind_eq_some_iff.mp hplay
      have hmoves := hs.moves ha.loyal hnext
      have hne : cue ≠ .reset := fun heq => hcues (heq ▸ List.mem_cons_self)
      exact ih (hk.kept hmoves hne) (hs.kept ha hmoves)
        (fun hmem => hcues (List.mem_cons_of_mem _ hmem)) hrest

/-- Where a step breaks down in an operation, the operation returns; the run has failed with the
report of what went wrong, and it stays so until a reset. -/
theorem play_broken (ha : e.Additive) (store : Option RunStore) (serve : Serving)
    (cues : List Cue) (hplay : (make e store).play serve cues = some h) (cue : Cue) (b : Breakdown)
    (hb : h.breakdown? serve cue = some b) :
    ∃ h', h.step serve cue = some h' ∧
      h.act serve cue = some (h'.session, .returned h'.session.current.snapshot) ∧
      (∃ ms es, b.Leaves ms es h'.session.current ∧
        (Bindings.get? b.node.type e.handlers = none → b.Foreword ms es)) ∧
      h'.session.requests = h.session.requests ∧
      ∀ more h'', .reset ∉ more → h'.play serve more = some h'' →
        h''.session.current = h'.session.current ∧
          ∀ c : Call, c.on h''.session = h''.session.unchanged := by
  have hs : h.Steady e := (Steady.make e store).play ha hplay
  obtain ⟨s, held, leg, ho, hbroken⟩ := hs.opens_broken ha hb
  have hid : leg.run.id = s.current.id := by rw [hs.id_of_opens ha.loyal ho, ho.current]
  have habsorb := Session.absorb_returned hid hbroken.stop
  have hstep : h.step serve cue = some ⟨(s.moved leg).persist leg.run.id, held⟩ := by
    rw [ho.step_eq, habsorb]
    rfl
  have hmoves := hs.moves ha.loyal hstep
  have hcurrent : ((s.moved leg).persist leg.run.id).current = leg.run :=
    Session.persist_current _ _
  obtain ⟨ms, es, hleaves, hnone⟩ := hbroken.leaves
  refine ⟨_, hstep, ?_, ⟨ms, es, ?_, hnone⟩, ?_, ?_⟩
  · rw [ho.act_eq, habsorb, hcurrent]
  · rw [hcurrent]
    exact hleaves
  · obtain ⟨store', persisted, hpersist⟩ := (s.moved leg).persist_frame leg.run.id
    rw [hpersist, ho.frame]
    rfl
  · intro more h'' hmore hrest
    have hstuck : Stuck leg.run ⟨(s.moved leg).persist leg.run.id, held⟩ := by
      refine ⟨hcurrent, hleaves.status, fun w hw => ?_⟩
      rw [hs.id_of_opens ha.loyal ho]
      exact hs.free ho w hw
    have hlater := hstuck.play (hs.kept ha hmoves) ha hmore hrest
    exact ⟨hlater.current.trans hcurrent.symm,
      fun c => Session.call_of_not_fitsRun (hlater.not_fitsRun c)⟩

/-- A handler that says something and then gives up, without a reason. -/
def faltering : Handler := fun _ node run =>
  (run.say .bot "One moment" node.id, .raised (.raised .value ""))

theorem errand_additive :
    ({ errand with handlers := [("input", faltering)] } : Engine).Additive := by
  intro type handler hh node run
  simp only [Bindings.get?] at hh
  split at hh
  · cases hh
    exact ⟨[⟨.bot, "One moment", some node.id, .midnight⟩], [],
      by simp [faltering, Run.say, Run.extended]⟩
  · cases hh

/-- The effect has been served when the next step breaks down. -/
theorem errand_broken : ∃ h h' b,
    (make { errand with handlers := [("input", faltering)] } none).play (fun _ => granting)
      [.call .start] = some h ∧
    h.breakdown? (fun _ => granting) (.settle 0) = some b ∧
    h.step (fun _ => granting) (.settle 0) = some h' ∧
    b.node.id = "question" ∧ h'.session.current.status = .failed ∧
    h'.session.current.failure = some "ValueError" ∧
    h'.session.current.log.getLast? = some b.entry ∧
    h'.session.start = h'.session.unchanged := by
  obtain ⟨h, hplay, hmapped⟩ := Option.bind_eq_some_iff.mp
    (show ((make { errand with handlers := [("input", faltering)] } none).play (fun _ => granting)
      [.call .start]).bind (fun h => (h.breakdown? (fun _ => granting) (.settle 0)).map
        fun b => (b.node.id, b.report)) = some ("question", "ValueError") by decide)
  obtain ⟨b, hb, hboth⟩ := Option.map_eq_some_iff.mp hmapped
  obtain ⟨hid, hreport⟩ := Prod.mk.inj hboth
  obtain ⟨h', hstep, -, ⟨ms, es, hleaves, -⟩, -, hlater⟩ :=
    play_broken errand_additive none (fun _ => granting) _ hplay (.settle 0) b hb
  refine ⟨h, h', b, hplay, hb, hstep, hid, hleaves.status, ?_, ?_, ?_⟩
  · rw [hleaves.failure, hreport]
  · rw [hleaves.log, List.getLast?_concat]
  · exact (hlater [] h' (by simp) rfl).2 .start

end Scene
end Dialogue
