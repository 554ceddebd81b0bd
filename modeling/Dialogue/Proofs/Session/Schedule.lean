import Dialogue.Proofs.Run.Walk

/-!
# Schedules of a session

A scene is a session with the operations that its gateway holds. Callers start, answer and reset
at any time, and the gateway has its outcomes in any order; the gateway itself may answer anything.
Control changes hands only where an operation waits for the gateway or ends: the pauses that
settings put between two steps are no moments of a schedule. An operation that goes round for ever
never hands control back, so no scene comes after it.
-/
namespace Dialogue

/-- What a caller asks of a session. -/
inductive Call where
  | start
  | send (text : String)
  deriving DecidableEq

namespace Call

def on : Call → Session → Session × Outcome
  | start, s => s.start
  | send text, s => s.send text

/-- What the contact says with a call. -/
def said : Call → List String
  | start => []
  | send text => [text]

/-- Whether a run is in the state that a call requires. -/
def FitsRun (r : Run) : Call → Prop
  | start => r.status = .idle
  | send _ => r.status = .waiting ∧ r.processing = false

instance (r : Run) : (c : Call) → Decidable (c.FitsRun r)
  | start => inferInstanceAs (Decidable (r.status = .idle))
  | send _ => inferInstanceAs (Decidable (r.status = .waiting ∧ r.processing = false))

end Call

/-- What happens next to a session. -/
inductive Cue where
  | call (c : Call)
  | reset
  /-- The outcome for the operation that is held at a place is there. -/
  | settle (place : Nat)
  deriving DecidableEq

/-- What a gateway answers to its requests, by their number. -/
abbrev Serving := Nat → EffectRequest → EffectOutcome

/-- An operation that the gateway holds, with the number of the request it waits for. -/
structure Held where
  number : Nat
  pending : Pending

namespace Held

def outcome (serve : Serving) (w : Held) : EffectOutcome := serve w.number w.pending.request

/-- The leg on which the operation takes its run up again. -/
def leg (serve : Serving) (e : Engine) (w : Held) (run : Run) : Leg :=
  e.takeUp w.pending.node w.pending.request (w.outcome serve) run

/-- The run, the step and the request that the operation waits with. -/
def task (w : Held) : String × Node × EffectRequest :=
  (w.pending.run, w.pending.node, w.pending.request)

theorem leg_congr {w v : Held} (h : w.task = v.task) (g : EffectRequest → EffectOutcome)
    (e : Engine) (run : Run) : w.leg (fun _ => g) e run = v.leg (fun _ => g) e run := by
  simp only [task, Prod.mk.injEq] at h
  obtain ⟨-, hnode, hrequest⟩ := h
  simp only [leg, outcome, hnode, hrequest]

end Held

structure Scene where
  session : Session
  /-- The operations that are held, in the order in which they began to wait. -/
  held : List Held := []

namespace Scene

/-- The scene before anything has happened. -/
def make (e : Engine) (store : Option RunStore) : Scene := { session := .make e store }

/-- The scene after an operation, if control comes back. -/
def after (held : List Held) (number : Nat) : Session × Outcome → Option Scene
  | (s, .returned _) => some ⟨s, held⟩
  | (s, .waiting p) => some ⟨s, held ++ [⟨number, p⟩]⟩
  | (_, .endless) => none

def step (serve : Serving) (h : Scene) : Cue → Option Scene
  | .call c => after h.held h.session.requests.length (c.on h.session)
  | .reset => some { h with session := h.session.reset }
  | .settle place => h.held[place]?.bind fun w =>
      after (h.held.eraseIdx place) h.session.requests.length
        (h.session.answer w.pending (w.outcome serve))

def play (serve : Serving) (h : Scene) (cues : List Cue) : Option Scene :=
  cues.foldlM (step serve) h

theorem play_cons (serve : Serving) (h : Scene) (cue : Cue) (cues : List Cue) :
    h.play serve (cue :: cues) = (h.step serve cue).bind fun h => h.play serve cues := rfl

theorem play_append (serve : Serving) (h : Scene) (cues more : List Cue) :
    h.play serve (cues ++ more) = (h.play serve cues).bind fun h => h.play serve more :=
  List.foldlM_append

/-- What every step keeps, every schedule keeps. -/
theorem play_induction {serve : Serving} {P : Scene → Prop}
    (hstep : ∀ h cue h', P h → h.step serve cue = some h' → P h') {h h' : Scene}
    {cues : List Cue} (hp : P h) (hplay : h.play serve cues = some h') : P h' := by
  induction cues generalizing h with
  | nil => exact Option.some.inj hplay ▸ hp
  | cons cue cues ih =>
      rw [play_cons] at hplay
      obtain ⟨next, hnext, hrest⟩ := Option.bind_eq_some_iff.mp hplay
      exact ih (hstep h cue next hp hnext) hrest

/-- An engine for a flow that updates a property and then asks the contact once. -/
def errand : Engine where
  flow := {
    id := "errand", name := "Errand", description := "", department := none
    nodes := [
      ⟨"entry", "start", "", .start ⟨"first_message", [], none⟩⟩,
      ⟨"update", "action", "", .action ⟨updateVista, none, .null, [], none, []⟩⟩,
      ⟨"question", "input", "", .input ⟨"", "answer", .text⟩⟩,
      ⟨"exit", "end", "", .finish ⟨"", false⟩⟩]
    edges := [
      ⟨none, "entry", "update", none, none⟩,
      ⟨none, "update", "question", none, none⟩,
      ⟨none, "question", "exit", none, none⟩] }
  settings := default

theorem errand_accepted : errand.flow.Accepted := rfl

/-- A gateway that carries out whatever is asked. -/
def granting : EffectRequest → EffectOutcome := fun _ => .ok { success := true }

end Scene

namespace Session

/-! ### Calls as legs -/

variable {s : Session} {leg : Leg}

theorem emit_emit (s : Session) (events more : List Event) :
    (s.emit events).emit more = s.emit (events ++ more) := by
  simp [emit, emitFor]

@[simp] theorem emit_nil (s : Session) : s.emit [] = s := by simp [emit, emitFor]

@[simp] theorem emit_engine (s : Session) (events : List Event) :
    (s.emit events).engine = s.engine := rfl

theorem absorb_after (s : Session) (events : List Event) (leg : Leg) :
    s.absorb (leg.after events) = (s.emit events).absorb leg := by
  simp only [absorb, Leg.after, ← emit_emit]

def begun (e : Engine) (run : Run) : Run :=
  { run with
    status := .running
    vars := run.vars.seed (.str e.settings.contactName) (.str e.settings.contactPhone) }

/-- The leg with which a run begins. -/
def opening (e : Engine) (run : Run) : Leg :=
  Leg.after [.runStarted e.flow.id e.mode] <| match e.flow.startNode? with
    | none => ⟨((begun e run).say .system s!"Erro: {missingStart}" none).fail missingStart,
        [.runFailed missingStart], .returned⟩
    | some node => e.continueFrom node (begun e run)

def answered (run : Run) (text : String) : Run :=
  { run.say .user text none with status := .running }

/-- The leg on which an answer takes a run from the step that it waits at. -/
def reply (e : Engine) (run : Run) (text : String) : Leg :=
  match run.current.bind e.flow.node? with
  | none =>
    let shown := (Json.ofOption run.current).display
    ⟨run.fail s!"Nó atual \x27{shown}\x27 não encontrado", [], .returned⟩
  | some node =>
    Leg.after [.runResumed node.id node.type] <|
      match take e node (answered run text) text with
      | .walkOn run next => e.continueFrom next run
      | .waitMore run => ⟨run.suspend, [], .returned⟩
      | .failed run events => ⟨run, events, .returned⟩

theorem start_of_not_idle (h : s.current.status ≠ .idle) : s.start = s.unchanged := by
  simp [start, Run.begin?, h]

theorem start_of_idle (h : s.current.status = .idle) :
    s.start = { s with observed := s.current.id }.absorb (opening s.engine s.current) := by
  simp only [start, Run.begin?, h, if_true, opening, begun, absorb_after, emit_engine]
  cases s.engine.flow.startNode? <;> rfl

theorem send_of_not_waiting {text : String} (h : ¬ (Call.send text).FitsRun s.current) :
    s.send text = s.unchanged := by
  simp only [Call.FitsRun, not_and] at h
  unfold send
  split
  · rfl
  · rename_i hp
    have hs : s.current.status ≠ .waiting := fun hs => h hs (by simpa using hp)
    simp [Run.resume?, hs]

theorem call_of_not_fitsRun {c : Call} (h : ¬ c.FitsRun s.current) : c.on s = s.unchanged := by
  cases c with
  | start => exact start_of_not_idle h
  | send text => exact send_of_not_waiting h

theorem send_of_waiting {text : String} (h : (Call.send text).FitsRun s.current) :
    s.send text = s.absorb (reply s.engine s.current text) := by
  obtain ⟨hs, hp⟩ := h
  simp only [send, hp, Bool.false_eq_true, if_false, Run.resume?, hs, if_true, reply]
  cases s.current.current.bind s.engine.flow.node? with
  | none =>
      show _ = (s.emit []).finish _
      rw [emit_nil]
  | some node =>
      simp only [absorb_after, emit_engine, answered]
      cases take s.engine node { s.current.say .user text none with status := .running } text with
      | walkOn run next => rfl
      | waitMore run =>
          show _ = ((s.emit _).emit []).finish run.suspend
          rw [emit_nil]
      | failed run events => rfl

/-- The session once the effect of an operation has been measured. -/
def measure (s : Session) (serve : Serving) (w : Held) : Session :=
  s.emitFor w.pending.observed
    [Engine.measured w.pending.node w.pending.request (w.outcome serve)]

theorem answer_of_run? {w : Held} {run : Run} (h : s.run? w.pending.run = some run)
    (serve : Serving) : s.answer w.pending (w.outcome serve) =
      (s.measure serve w).absorb (w.leg serve s.engine run) := by
  simp only [answer, h]
  rfl

/-! ### Taking over a leg -/

/-- The session once the current run has done a leg. -/
def moved (s : Session) (leg : Leg) : Session :=
  { s.emit leg.events with current := leg.run }

theorem persist_frame (s : Session) (id : String) :
    ∃ store persisted, s.persist id = { s with store := store, persisted := persisted } := by
  unfold persist
  split
  · exact ⟨s.store, s.persisted, rfl⟩
  · split
    · exact ⟨s.store, s.persisted, rfl⟩
    · dsimp only
      split
      · exact ⟨_, s.persisted, rfl⟩
      · exact ⟨_, _, rfl⟩

@[simp] theorem persist_engine (s : Session) (id : String) :
    (s.persist id).engine = s.engine := by
  obtain ⟨store, persisted, h⟩ := s.persist_frame id
  rw [h]

@[simp] theorem persist_current (s : Session) (id : String) :
    (s.persist id).current = s.current := by
  obtain ⟨store, persisted, h⟩ := s.persist_frame id
  rw [h]

@[simp] theorem persist_discarded (s : Session) (id : String) :
    (s.persist id).discarded = s.discarded := by
  obtain ⟨store, persisted, h⟩ := s.persist_frame id
  rw [h]

@[simp] theorem persist_observed (s : Session) (id : String) :
    (s.persist id).observed = s.observed := by
  obtain ⟨store, persisted, h⟩ := s.persist_frame id
  rw [h]

@[simp] theorem persist_events (s : Session) (id : String) :
    (s.persist id).events = s.events := by
  obtain ⟨store, persisted, h⟩ := s.persist_frame id
  rw [h]

@[simp] theorem persist_requests (s : Session) (id : String) :
    (s.persist id).requests = s.requests := by
  obtain ⟨store, persisted, h⟩ := s.persist_frame id
  rw [h]

theorem persist_of_ne {id : String} (h : id ≠ s.current.id) : s.persist id = s := by
  unfold persist
  split
  · rfl
  · rw [if_pos (.inl h)]

theorem setRun_current {run : Run} (h : run.id = s.current.id) :
    s.setRun run = { s with current := run } := by
  rw [setRun, if_pos h.symm]

theorem setRun_discarded {run : Run} (h : run.id ≠ s.current.id) :
    s.setRun run =
      { s with discarded := s.discarded.map fun r => if r.id = run.id then run else r } := by
  rw [setRun, if_neg h.symm]

theorem absorb_returned (hid : leg.run.id = s.current.id) (hr : leg.stop = .returned) :
    s.absorb leg = ((s.moved leg).persist leg.run.id, .returned leg.run.snapshot) := by
  have hset : (s.emit leg.events).setRun leg.run = s.moved leg := setRun_current hid
  simp only [absorb, hr, finish, hset]

theorem absorb_awaiting {node : Node} {request : EffectRequest} (hid : leg.run.id = s.current.id)
    (hr : leg.stop = .awaiting node request) :
    s.absorb leg = ({ s.moved leg with requests := s.requests ++ [request] },
      .waiting ⟨leg.run.id, s.observed, node, request⟩) := by
  have hset : (s.emit leg.events).setRun leg.run = s.moved leg := setRun_current hid
  simp only [absorb, hr, hset]
  rfl

/-- A run put in the place of the one of its id. -/
def put (run r : Run) : Run := if r.id = run.id then run else r

theorem put_id (run r : Run) : (put run r).id = r.id := by
  unfold put
  split
  · exact ‹r.id = run.id›.symm
  · rfl

theorem put_of_ne {run r : Run} (h : r.id ≠ run.id) : put run r = r := if_neg h

theorem eq_or_mem_of_mem_put {run r : Run} {l : List Run} (h : r ∈ l.map (put run)) :
    r = run ∨ r ∈ l := by
  obtain ⟨r', hr', rfl⟩ := List.mem_map.mp h
  unfold put
  split
  · exact .inl rfl
  · exact .inr hr'

/-- The session once a discarded run has come back. -/
def drained (s : Session) (leg : Leg) : Session :=
  { s.emit leg.events with discarded := s.discarded.map (put leg.run) }

theorem absorb_discarded (hid : leg.run.id ≠ s.current.id) (hr : leg.stop = .returned) :
    s.absorb leg = (s.drained leg, .returned leg.run.snapshot) := by
  have hset : (s.emit leg.events).setRun leg.run = s.drained leg := setRun_discarded hid
  have hne : leg.run.id ≠ (s.drained leg).current.id := hid
  simp only [absorb, hr, finish, hset, persist_of_ne hne]

end Session
end Dialogue
