import Dialogue.Proofs.Session.Invariant
import Dialogue.Proofs.Session.Lifecycle
import Dialogue.Proofs.Session.Past

/-!
# Asking again

Under the policy that waits, an answer that no branch of a condition matches adds two lines and an
entry to the run and leaves all else as it is (`Awaits.play`). Whatever is said and done from then
on comes to the same as without such answers (`play_reasked`).
-/
namespace Dialogue

namespace Node

/-- What is said when no branch matches an answer. -/
def unmatchedLines (node : Node) (text : String) : List Message :=
  [⟨.user, text, none, .midnight⟩,
    ⟨.system, "Nenhuma branch correspondente, aguardando nova resposta", some node.id, .midnight⟩]

def unmatchedEntry (node : Node) (text : String) : LogEntry :=
  ⟨node.id, node.type, node.label, "Nenhuma branch correspondente", .str text, .null, .zero, true⟩

end Node

namespace Run

/-- The run once a step has asked it again after each of some answers. -/
def reasked (node : Node) (r : Run) (texts : List String) : Run :=
  { r with
    messages := r.messages ++ texts.flatMap node.unmatchedLines
    log := r.log ++ texts.map node.unmatchedEntry }

/-- What is behind a run once it is told an answer. -/
def heard (r : Run) (text : String) : Past :=
  ⟨r.messages ++ [⟨.user, text, none, .midnight⟩], r.log⟩

/-- The run as an answer takes it on, without what is behind it. -/
def bare (r : Run) : Run := { r with status := .running, messages := [], log := [] }

theorem reasked_nil (node : Node) (r : Run) : r.reasked node [] = r := by simp [reasked]

theorem reasked_append (node : Node) (r : Run) (texts more : List String) :
    (r.reasked node texts).reasked node more = r.reasked node (texts ++ more) := by
  simp [reasked]

theorem answered_eq_upon (r : Run) (text : String) :
    Session.answered r text = r.bare.upon (r.heard text) := by
  simp [Session.answered, say, bare, upon, heard]

end Run

namespace Session

variable {e : Engine} {node : Node} {run : Run} {s : Session} {leg : Leg}

theorem reply_unmatched (hp : e.settings.unmatchedPolicy = .wait)
    (hnode : run.current.bind e.flow.node? = some node) (hk : node.kind? = some .condition)
    {c : ConditionConfig} (hc : node.config = .condition c) (hw : run.status = .waiting)
    {text : String} (hu : resolveBranch text c.branches = none) :
    reply e run text = ⟨run.reasked node [text], [.runResumed node.id node.type], .returned⟩ := by
  have htake : take e node (answered run text) text =
      .waitMore (Engine.askAgain node (answered run text) text).1 := by
    simp [take, hk, Engine.routeCondition, hc, hu, hp, Engine.askAgain]
  have hsuspend : (Engine.askAgain node (answered run text) text).1.suspend =
      run.reasked node [text] := by
    have hrunning : (Engine.askAgain node (answered run text) text).1.status = .running := rfl
    rw [Run.suspend, if_pos hrunning]
    simp [Engine.askAgain, answered, Run.say, Run.note, Run.reasked, Node.unmatchedLines,
      Node.unmatchedEntry, hw]
  rw [reply_of_node run hnode, htake, Taken.leg, hsuspend]
  rfl

/-- The leg on which an answer takes a run on from a step, without what is behind the run. -/
def bareReply (e : Engine) (node : Node) (run : Run) (text : String) : Leg :=
  ((take e node run.bare text).leg e).after [.runResumed node.id node.type]

theorem reply_eq_upon (hh : e.handlers = []) (hnode : run.current.bind e.flow.node? = some node)
    (text : String) :
    reply e run text = (bareReply e node run text).upon (run.heard text) := by
  rw [reply_of_node run hnode, Run.answered_eq_upon, take_upon, leg_upon hh, Leg.after_upon,
    bareReply]

theorem bareReply_keeps (hh : e.handlers = []) (hnode : run.current.bind e.flow.node? = some node)
    (text : String) : (bareReply e node run text).run.id = run.id ∧
      ∀ n request, (bareReply e node run text).stop = .awaiting n request → n.SeeksEffect := by
  have hanswered : Run.Follows run (answered run text) :=
    ⟨rfl, rfl, fun _ => (by decide : Status.running ≠ .idle)⟩
  have hkeeps := reply_keeps Run.Follows.lasting (Engine.loyal_of_nil hh) hanswered
  rw [reply_eq_upon hh hnode] at hkeeps
  exact ⟨hkeeps.run.id, hkeeps.seeks⟩

theorem absorb_of_current {run : Run} (hid : leg.run.id = s.current.id)
    (hrun : leg.run.id = run.id) : { s with current := run }.absorb leg = s.absorb leg := by
  cases hstop : leg.stop with
  | returned =>
      rw [absorb_returned hid hstop, absorb_returned (s := { s with current := run }) hrun hstop]
      rfl
  | awaiting node request =>
      rw [absorb_awaiting hid hstop, absorb_awaiting (s := { s with current := run }) hrun hstop]
      rfl
  | endless =>
      have hset : (s.emit leg.events).setRun leg.run = s.moved leg := setRun_current hid
      have hset' : (Session.emit { s with current := run } leg.events).setRun leg.run =
          s.moved leg := setRun_current (s := Session.emit { s with current := run } _) hrun
      simp only [absorb, hstop, hset, hset']

end Session

/-- One run has a past, the others have none. -/
def Past.only (id : String) (p : Past) (other : String) : Past := if other = id then p else {}

theorem Past.only_self (id : String) (p : Past) : Past.only id p id = p := if_pos rfl

theorem Run.since_only_of_ne {r : Run} {id : String} (h : r.id ≠ id) (p : Past) :
    r.since (Past.only id p) = r := by
  rw [Run.since, Past.only, if_neg h, Run.upon_none]

theorem Session.Numbered.shows {s : Session} (hs : s.Numbered) {run : Run}
    (hid : run.id = s.current.id) (p : Past) :
    Session.Shows s.engine (Past.only s.current.id p) { s with current := run }
      { s with current := run.upon p } := by
  refine ⟨rfl, rfl, rfl, rfl, ?_, ?_, ?_⟩
  · show run.upon p = run.upon (Past.only s.current.id p run.id)
    rw [hid, Past.only_self]
  · have hall : ∀ r ∈ s.discarded, r.since (Past.only s.current.id p) = id r := fun r hr =>
      Run.since_only_of_ne (hs.current_id_ne hr) p
    exact ((List.map_congr_left hall).trans (List.map_id _)).symm
  · intro n hn
    refine if_neg fun heq => ?_
    rw [hs.current_id] at heq
    exact absurd (Session.runId_injective heq) (Nat.ne_of_gt hn)

/-- Two runs that differ in what is behind the run of an id. -/
structure Run.Resumes (id : String) (p p' : Past) (r s : Run) : Prop where
  frame : s = { r with messages := s.messages, log := s.log }
  own : r.id = id → ∃ messages log, r.messages = p.messages ++ messages ∧
    s.messages = p'.messages ++ messages ∧ r.log = p.log ++ log ∧ s.log = p'.log ++ log
  other : r.id ≠ id → s = r

theorem Run.resumes_since (id : String) (p p' : Past) (r : Run) :
    (r.since (Past.only id p)).Resumes id p p' (r.since (Past.only id p')) := by
  refine ⟨rfl, fun hid => ?_, fun hne => ?_⟩
  · have hr : r.id = id := hid
    rw [Run.since, Run.since, hr, Past.only_self, Past.only_self]
    exact ⟨r.messages, r.log, rfl, rfl, rfl, rfl⟩
  · have hr : r.id ≠ id := hne
    rw [Run.since_only_of_ne hr, Run.since_only_of_ne hr]

namespace Scene

/-- What answers that no branch of a step matches do to a scene: of the rest of the session only the
events and the store may change. -/
structure Reasked (node : Node) (texts : List String) (h h' : Scene) : Prop where
  session : h'.session = { h.session with
    current := h.session.current.reasked node texts
    events := h'.session.events
    store := h'.session.store
    persisted := h'.session.persisted }
  held : h'.held = h.held

/-- Two scenes that differ in what is behind the run of an id, and in the events and the store. -/
structure Resumes (id : String) (p p' : Past) (a b : Scene) : Prop where
  runs : List.Forall₂ (Run.Resumes id p p') a.session.runs b.session.runs
  requests : b.session.requests = a.session.requests
  held : b.held = a.held

variable {serve : Serving} {e : Engine} {h h' : Scene} {node : Node} {texts : List String}
  {id : String} {p p' : Past}

namespace Reasked

theorem refl (node : Node) (h : Scene) : h.Reasked node [] h :=
  ⟨by rw [Run.reasked_nil], rfl⟩

theorem current (hr : h.Reasked node texts h') :
    h'.session.current = h.session.current.reasked node texts := by rw [hr.session]

theorem engine (hr : h.Reasked node texts h') : h'.session.engine = h.session.engine := by
  rw [hr.session]

theorem trans {more : List String} {h'' : Scene} (hr : h.Reasked node texts h')
    (hr' : h'.Reasked node more h'') : h.Reasked node (texts ++ more) h'' := by
  refine ⟨?_, hr'.held.trans hr.held⟩
  rw [hr'.session, hr.current, Run.reasked_append, hr.session]

end Reasked

/-- The current run waits at a condition, and the policy is to ask again. -/
structure Awaits (h : Scene) (node : Node) (c : ConditionConfig) : Prop where
  fits : h.session.current.status = .waiting ∧ h.session.current.processing = false
  place : h.session.current.current.bind h.session.engine.flow.node? = some node
  kind : node.kind? = some .condition
  config : node.config = .condition c
  policy : h.session.engine.settings.unmatchedPolicy = .wait

variable {c : ConditionConfig}

theorem Awaits.reasked (hw : h.Awaits node c) (hr : h.Reasked node texts h') :
    h'.Awaits node c where
  fits := by
    rw [hr.current]
    exact hw.fits
  place := by
    rw [hr.current, hr.engine]
    exact hw.place
  kind := hw.kind
  config := hw.config
  policy := hr.engine ▸ hw.policy

theorem Awaits.asks (hw : h.Awaits node c) (serve : Serving) {text : String}
    (hu : resolveBranch text c.branches = none) :
    ∃ h', h.step serve (.call (.send text)) = some h' ∧ h.Reasked node [text] h' := by
  have hreply := Session.reply_unmatched hw.policy hw.place hw.kind hw.config hw.fits.1 hu
  rw [step, Call.on, Session.send_of_waiting hw.fits, hreply, Session.absorb_returned rfl rfl]
  refine ⟨_, rfl, ?_, rfl⟩
  have hframe := (h.session.moved ⟨h.session.current.reasked node [text],
    [.runResumed node.id node.type], .returned⟩).persist_frame
  obtain ⟨kept, persisted, hpersist⟩ := hframe (h.session.current.reasked node [text]).id
  rw [hpersist]
  rfl

theorem Awaits.play (hw : h.Awaits node c) (serve : Serving)
    (hu : ∀ text ∈ texts, resolveBranch text c.branches = none) :
    ∃ h', h.play serve (texts.map fun text => .call (.send text)) = some h' ∧
      h.Reasked node texts h' := by
  induction texts generalizing h with
  | nil => exact ⟨h, rfl, .refl node h⟩
  | cons text texts ih =>
      obtain ⟨next, hstep, hnext⟩ := hw.asks serve (hu text List.mem_cons_self)
      obtain ⟨h', hplay, hrest⟩ :=
        ih (hw.reasked hnext) fun text hmem => hu text (List.mem_cons_of_mem _ hmem)
      refine ⟨h', ?_, hnext.trans hrest⟩
      rw [List.map_cons, play_cons, hstep]
      exact hplay

/-! ### What follows -/

private theorem after_resumed {s t : Session} {leg : Leg} {held : List Held} {run : Run}
    (hn : s.Numbered) (ht : t = { s with
      current := t.current
      events := t.events
      store := t.store
      persisted := t.persisted })
    (hid : leg.run.id = s.current.id) (hrun : run.id = s.current.id)
    (hcurrent : t.current.id = s.current.id) (hseeks : ∀ w ∈ held, w.pending.node.SeeksEffect)
    (hleg : ∀ node request, leg.stop = .awaiting node request → node.SeeksEffect) (n : Nat)
    (p : Past) : Option.Rel (Shows s.engine (Past.only s.current.id p))
      (after held n (Session.absorb { s with current := run } leg))
      (after held n (t.absorb (leg.upon p))) := by
  have hshows : Session.Shows s.engine (Past.only s.current.id p) { s with current := run }
      { t with current := run.upon p } := by
    rw [ht]
    exact (hn.shows hrun p).congr rfl rfl rfl rfl rfl rfl rfl rfl
  have hpast : Past.only s.current.id p leg.run.id = p := by rw [hid, Past.only_self]
  have hsame : Session.absorb { t with current := run.upon p } (leg.upon p) =
      t.absorb (leg.upon p) :=
    Session.absorb_of_current (hid.trans hcurrent.symm) (hid.trans hrun.symm)
  have hafter := after_shows hshows hseeks hleg n
  rwa [hpast, hsame] at hafter

theorem Shows.resumes {b h h' : Scene} (hs : b.Shows e (Past.only id p) h)
    (hs' : b.Shows e (Past.only id p') h') : h.Resumes id p p' h' := by
  have hruns {past : String → Past} {h : Scene} (hs : b.Shows e past h) :
      h.session.runs = b.session.runs.map (·.since past) := by
    rw [Session.runs, Session.runs, List.map_cons, hs.session.current, hs.session.discarded]
  refine ⟨?_, hs'.session.requests.trans hs.session.requests.symm, hs'.held.trans hs.held.symm⟩
  rw [hruns hs, hruns hs', List.forall₂_map_left_iff, List.forall₂_map_right_iff,
    List.forall₂_same]
  exact fun r _ => r.resumes_since id p p'

theorem rel_resumes {b h h' : Option Scene} (hs : Option.Rel (Shows e (Past.only id p)) b h)
    (hs' : Option.Rel (Shows e (Past.only id p')) b h') :
    Option.Rel (Resumes id p p') h h' := by
  cases hs with
  | none =>
      cases hs'
      exact .none
  | some hs =>
      cases hs' with
      | some hs' => exact .some (hs.resumes hs')

/-- What is behind a run that was asked again is all that tells how often it was. -/
theorem Awaits.shows (hw : h.Awaits node c) (hs : h.Sound e) (hh : e.handlers = [])
    (hr : h.Reasked node texts h') (serve : Serving) (text : String) (later : List Cue) :
    Option.Rel (Shows h.session.engine (Past.only h.session.current.id
        ((h.session.current.reasked node texts).heard text)))
      ((after h.held h.session.requests.length
        (Session.absorb { h.session with current := h.session.current.bare }
          (Session.bareReply h.session.engine node h.session.current text))).bind
        fun b => b.play serve later)
      (h'.play serve (.call (.send text) :: later)) := by
  have hhandlers : h.session.engine.handlers = [] := hs.engine.symm ▸ hh
  have hw' := hw.reasked hr
  obtain ⟨hid, hseeks⟩ := Session.bareReply_keeps hhandlers hw.place text
  have hreply := Session.reply_eq_upon (hr.engine ▸ hhandlers) hw'.place text
  rw [hr.engine, hr.current] at hreply
  have hrequests : h'.session.requests = h.session.requests := by rw [hr.session]
  have hframe : h'.session = { h.session with
      current := h'.session.current
      events := h'.session.events
      store := h'.session.store
      persisted := h'.session.persisted } := by
    rw [hr.current]
    exact hr.session
  have hcurrent : h'.session.current.id = h.session.current.id := by
    rw [hr.current]
    rfl
  have hafter := after_resumed hs.numbered hframe hid
    (show h.session.current.bare.id = h.session.current.id from rfl) hcurrent
    (fun w hmem => (hs.held w hmem).1) hseeks h.session.requests.length
    ((h.session.current.reasked node texts).heard text)
  rw [play_cons, step, Call.on, Session.send_of_waiting hw'.fits, hr.held, hrequests, hr.engine,
    hr.current, hreply]
  exact Shows.bind hhandlers serve hafter later

/-- Answers that no branch of a condition matches, under the policy that waits, each add the answer,
a line of the system and an entry of the log. A run that was asked again goes the same way from the
next answer on as one that was not, whatever the answer and whatever callers and the gateway do
then: all that differs is what is behind it. -/
theorem play_reasked (ha : e.flow.Accepted) (hh : e.handlers = [])
    (hp : e.settings.unmatchedPolicy = .wait) (store : Option RunStore) (serve : Serving)
    {before : List Cue} (hplay : (Scene.make e store).play serve before = some h)
    (hw : h.session.current.status = .waiting) (hn : node ∈ e.flow.nodes)
    (hcur : h.session.current.current = some node.id) (hk : node.kind? = some .condition)
    (hc : node.config = .condition c) (hu : ∀ text ∈ texts, resolveBranch text c.branches = none) :
    (∃ asked, h.play serve (texts.map fun text => .call (.send text)) = some asked ∧
      h.Reasked node texts asked) ∧
    ∀ text later, Option.Rel (Resumes h.session.current.id (h.session.current.heard text)
        ((h.session.current.reasked node texts).heard text))
      (h.play serve (.call (.send text) :: later))
      (h.play serve ((texts.map fun text => .call (.send text)) ++
        .call (.send text) :: later)) := by
  have hs : h.Sound e := (Sound.make e store).play ha hh hplay
  obtain ⟨-, -, -, -, -, hprocessing⟩ := hs.asks_of_waiting hw
  have hnode : h.session.current.current.bind h.session.engine.flow.node? = some node := by
    rw [hs.engine]
    exact ha.bind_node? hn hcur
  have hawaits : h.Awaits node c :=
    ⟨⟨hw, hprocessing⟩, hnode, hk, hc, hs.engine.symm ▸ hp⟩
  obtain ⟨asked, hasked, hreasked⟩ := hawaits.play serve hu
  refine ⟨⟨asked, hasked, hreasked⟩, fun text later => ?_⟩
  have halone := hawaits.shows hs hh (.refl node h) serve text later
  rw [Run.reasked_nil] at halone
  rw [play_append, hasked, Option.bind_some]
  exact rel_resumes halone (hawaits.shows hs hh hreasked serve text later)

/-- The contact hesitates twice before saying yes. -/
theorem insistence_reasked : ∃ h asked s t,
    (make insistence none).play (fun _ => granting) [.call .start] = some h ∧
    h.play (fun _ => granting) [.call (.send "maybe"), .call (.send "later")] = some asked ∧
    asked.session.current.log.length = h.session.current.log.length + 2 ∧
    h.play (fun _ => granting) [.call (.send "yes")] = some s ∧
    asked.play (fun _ => granting) [.call (.send "yes")] = some t ∧
    List.Forall₂ (Run.Resumes h.session.current.id (h.session.current.heard "yes")
      (asked.session.current.heard "yes")) s.session.runs t.session.runs := by
  obtain ⟨h, hplay, hwaits⟩ := Option.map_eq_some_iff.mp (show ((make insistence none).play
    (fun _ => granting) [.call .start]).map (fun h =>
      (h.session.current.status, h.session.current.current)) = some (.waiting, some "choice") by
    decide)
  obtain ⟨hstatus, hcurrent⟩ := Prod.mk.inj hwaits
  have hunmatched : ∀ text ∈ ["maybe", "later"],
      resolveBranch text [⟨"yes", "Yes", "yes", none⟩] = none := by decide
  obtain ⟨⟨asked, hasked, hreasked⟩, hresumes⟩ := play_reasked (e := insistence) rfl rfl rfl none
    (fun _ => granting) hplay hstatus (List.mem_cons_of_mem _ List.mem_cons_self) hcurrent rfl rfl
    hunmatched
  have hyes := hresumes "yes" []
  rw [play_append, hasked, Option.bind_some] at hyes
  obtain ⟨s, hs, -⟩ := Option.map_eq_some_iff.mp (show ((make insistence none).play
    (fun _ => granting) ([.call .start] ++ [.call (.send "yes")])).map (fun _ => ()) = some () by
    decide)
  rw [play_append, hplay, Option.bind_some] at hs
  rw [hs] at hyes
  generalize htwin : asked.play (fun _ => granting) [.call (.send "yes")] = twin at hyes
  cases hyes with
  | @some _ t hrel =>
      refine ⟨h, asked, s, t, hplay, hasked, ?_, hs, htwin, ?_⟩
      · rw [hreasked.current]
        simp [Run.reasked]
      · rw [hreasked.current]
        exact hrel.runs

end Scene
end Dialogue
