import Dialogue.Proofs.Run.Simulation
import Dialogue.Proofs.Session.Policy
import Dialogue.Proofs.Session.Request

/-!
# Simulated sessions

A session whose settings are not for real integrations, served by the built-in gateway, sends
nothing and has all its effects succeed; neither the policy for effects that fail nor the address,
the token and the transport of the gateway make a difference to any of its runs (`play_simulated`).
This is so for every schedule of calls, resets and effects.
-/
namespace Dialogue

namespace Gateway

/-- The outcomes of requests that are made one after another. -/
def invokeAll (g : Gateway) : List EffectRequest → List EffectOutcome × Gateway
  | [] => ([], g)
  | r :: rest =>
    let (outcome, g) := g.invoke r
    let (outcomes, g) := g.invokeAll rest
    (outcome :: outcomes, g)

theorem invokeAll_builtin {requests : List EffectRequest} (h : ∀ r ∈ requests, r.Regular .mock)
    (url token : String) (t : Http.Transport) : (builtin url token t).invokeAll requests =
      (requests.map fun r => .ok r.simulated, builtin url token t) := by
  induction requests with
  | nil => rfl
  | cons r rest ih =>
      have hrest := ih fun r' hr' => h r' (List.mem_cons_of_mem _ hr')
      simp only [invokeAll, invoke_builtin (h r List.mem_cons_self), hrest, List.map_cons]

end Gateway

namespace Session

/-! ### Another policy -/

/-- The session with a policy for effects that fail. -/
def under (s : Session) (policy : FailurePolicy) : Session :=
  { s with engine := s.engine.under policy }

theorem setRun_under (s : Session) (policy : FailurePolicy) (run : Run) :
    (s.under policy).setRun run = (s.setRun run).under policy := by
  by_cases hid : run.id = s.current.id
  · rw [setRun_current hid]
    exact setRun_current (s := s.under policy) hid
  · rw [setRun_discarded hid]
    exact setRun_discarded (s := s.under policy) hid

theorem persist_under (s : Session) (policy : FailurePolicy) (id : String) :
    (s.under policy).persist id = (s.persist id).under policy := by
  cases hstore : s.store with
  | none => simp only [persist, under, hstore]
  | some store =>
      by_cases hid : id ≠ s.current.id ∨ store.closed
      · simp only [persist, under, hstore, if_pos hid]
      · simp only [persist, under, hstore, if_neg hid]
        generalize store.append id (s.current.log.drop s.persisted) s.persisted = appended
        obtain ⟨kept, _ | refused⟩ := appended <;> rfl

theorem absorb_under (s : Session) (policy : FailurePolicy) (leg : Leg) :
    (s.under policy).absorb leg = ((s.absorb leg).1.under policy, (s.absorb leg).2) := by
  have hset : ((s.under policy).emit leg.events).setRun leg.run =
      ((s.emit leg.events).setRun leg.run).under policy := (s.emit leg.events).setRun_under _ _
  cases hstop : leg.stop with
  | returned => simp only [absorb, hstop, finish, hset, persist_under]
  | awaiting node request =>
      simp only [absorb, hstop, hset]
      rfl
  | endless => simp only [absorb, hstop, hset]

theorem call_under (s : Session) (policy : FailurePolicy) (c : Call) :
    c.on (s.under policy) = ((c.on s).1.under policy, (c.on s).2) := by
  by_cases hf : c.FitsRun s.current
  · cases c with
    | start =>
        show (s.under policy).start = (s.start.1.under policy, s.start.2)
        rw [start_of_idle (s := s) hf, start_of_idle (s := s.under policy) hf]
        show ({ s with observed := s.current.id }.under policy).absorb
          (opening (s.engine.under policy) s.current) = _
        rw [opening_under]
        exact absorb_under _ policy _
    | send text =>
        show (s.under policy).send text = ((s.send text).1.under policy, (s.send text).2)
        rw [send_of_waiting (s := s) hf, send_of_waiting (s := s.under policy) hf]
        show (s.under policy).absorb (reply (s.engine.under policy) s.current text) = _
        rw [reply_under]
        exact absorb_under _ policy _
  · rw [call_of_not_fitsRun hf]
    exact call_of_not_fitsRun (s := s.under policy) hf

theorem answer_under (s : Session) (policy : FailurePolicy) (p : Pending) {result : EffectResult}
    (hs : result.success = true) : (s.under policy).answer p (.ok result) =
      ((s.answer p (.ok result)).1.under policy, (s.answer p (.ok result)).2) := by
  have hrun : (s.under policy).run? p.run = s.run? p.run := rfl
  unfold answer
  rw [hrun]
  cases s.run? p.run with
  | none => rfl
  | some run =>
      show ((s.emitFor p.observed _).under policy).absorb
        ((s.engine.under policy).takeUp p.node p.request (.ok result) run) = _
      rw [Engine.takeUp_under _ policy hs]
      exact absorb_under _ policy _

end Session

namespace Scene

variable {serve : Serving} {e : Engine} {h h' : Scene} {cue : Cue} {s : Session}
  {held : List Held} {leg : Leg}

/-- The scene with a policy for effects that fail. -/
def under (h : Scene) (policy : FailurePolicy) : Scene :=
  { h with session := h.session.under policy }

theorem after_under (policy : FailurePolicy) (held : List Held) (number : Nat) (s : Session)
    (outcome : Outcome) : after held number (s.under policy, outcome) =
      (after held number (s, outcome)).map (·.under policy) := by
  cases outcome <;> rfl

/-- As long as every effect succeeds nothing asks for the policy. -/
theorem step_under (hserve : ∀ n request, serve.Succeeds n request) (h : Scene)
    (policy : FailurePolicy) (cue : Cue) :
    (h.under policy).step serve cue = (h.step serve cue).map (·.under policy) := by
  cases cue with
  | call c =>
      have hcall := h.session.call_under policy c
      show after h.held h.session.requests.length (c.on (h.session.under policy)) = _
      rw [hcall, after_under]
      rfl
  | reset => rfl
  | settle place =>
      show (h.held[place]?.bind fun w => after (h.held.eraseIdx place) h.session.requests.length
        ((h.session.under policy).answer w.pending (w.outcome serve))) = _
      rw [step]
      cases h.held[place]? with
      | none => rfl
      | some w =>
          obtain ⟨result, hresult, hs⟩ := hserve w.number w.pending.request
          have houtcome : w.outcome serve = .ok result := hresult
          rw [Option.bind_some, Option.bind_some, houtcome, Session.answer_under _ policy _ hs,
            after_under]

theorem play_under (hserve : ∀ n request, serve.Succeeds n request) (h : Scene)
    (policy : FailurePolicy) (cues : List Cue) :
    (h.under policy).play serve cues = (h.play serve cues).map (·.under policy) := by
  induction cues generalizing h with
  | nil => rfl
  | cons cue cues ih =>
      rw [play_cons, play_cons, step_under hserve]
      cases h.step serve cue with
      | none => rfl
      | some next => exact ih next

theorem step_congr {serve' : Serving} (heq : ∀ w ∈ h.held, w.outcome serve = w.outcome serve')
    (cue : Cue) : h.step serve cue = h.step serve' cue := by
  cases cue with
  | call c => rfl
  | reset => rfl
  | settle place =>
      rw [step, step]
      cases hw : h.held[place]? with
      | none => rfl
      | some w => rw [Option.bind_some, Option.bind_some, heq w (List.mem_of_getElem? hw)]

/-- A gateway that simulates whatever is asked. -/
def simulating : Serving := fun _ request => .ok request.simulated

theorem simulating_succeeds (n : Nat) (request : EffectRequest) :
    simulating.Succeeds n request := ⟨_, rfl, request.simulated_success⟩

end Scene

/-- A scene and the gateway that serves it, with the outcomes of the requests so far. -/
structure Exchange where
  scene : Scene
  gateway : Gateway
  outcomes : List EffectOutcome := []

namespace Exchange

open Scene (simulating)

variable {e : Engine}

def make (e : Engine) (store : Option RunStore) (g : Gateway) : Exchange :=
  { scene := .make e store, gateway := g }

/-- What the gateway has answered, by the number of the request. -/
def serving (x : Exchange) : Serving := fun n _ => x.outcomes[n]?.getD (.ok default)

/-- The gateway is asked for what is new in a scene. -/
def onto (x : Exchange) (h : Scene) : Exchange :=
  let (outcomes, g) := x.gateway.invokeAll (h.session.requests.drop x.outcomes.length)
  ⟨h, g, x.outcomes ++ outcomes⟩

def step (x : Exchange) (cue : Cue) : Option Exchange := (x.scene.step x.serving cue).map x.onto

def play (x : Exchange) (cues : List Cue) : Option Exchange := cues.foldlM step x

/-- A scene and a gateway that has simulated all that was asked for. -/
def simulated (g : Gateway) (h : Scene) : Exchange :=
  ⟨h, g, h.session.requests.map fun r => .ok r.simulated⟩

theorem outcome_simulated {g : Gateway} {h : Scene} (hq : h.Requests e) {w : Held}
    (hw : w ∈ h.held) : w.outcome (simulated g h).serving = w.outcome simulating := by
  simp only [Held.outcome, serving, simulated, List.getElem?_map, hq.placed w hw]
  rfl

theorem onto_simulated {h h' : Scene} (hmode : e.mode = .mock) (hq : h'.Requests e)
    (hextends : h.session.requests <+: h'.session.requests) (url token : String)
    (t : Http.Transport) : (simulated (.builtin url token t) h).onto h' =
      simulated (.builtin url token t) h' := by
  obtain ⟨more, hmore⟩ := hextends
  have hregular : ∀ r ∈ more, r.Regular .mock := by
    intro r hr
    obtain ⟨node, run, hasking⟩ := hq.made r (hmore ▸ List.mem_append_right _ hr)
    exact hmode ▸ hasking.regular
  have hnew : h'.session.requests.drop h.session.requests.length = more := by
    rw [← hmore, List.drop_left]
  simp only [onto, simulated, List.length_map, hnew, Gateway.invokeAll_builtin hregular]
  rw [← List.map_append, hmore]

/-- The built-in gateway simulates whatever is asked for in the mode `mock`. -/
theorem play_builtin (hh : e.handlers = []) (hmode : e.mode = .mock) {h : Scene}
    (hq : h.Requests e) (url token : String) (t : Http.Transport)
    (cues : List Cue) : (simulated (.builtin url token t) h).play cues =
      (h.play simulating cues).map (simulated (.builtin url token t)) := by
  induction cues generalizing h with
  | nil => rfl
  | cons cue cues ih =>
      have hstep : (simulated (.builtin url token t) h).step cue =
          (h.step simulating cue).map (simulated (.builtin url token t) h).onto := by
        rw [step]
        congr 1
        exact Scene.step_congr (fun w hw => outcome_simulated hq hw) cue
      rw [play, List.foldlM_cons, hstep, Scene.play_cons]
      cases hnext : h.step simulating cue with
      | none => rfl
      | some next =>
          have hl := Engine.loyal_of_nil hh
          have hm := hq.moves hl hnext
          have hq' := hq.kept hl hm
          rw [Option.map_some, onto_simulated hmode hq' hm.requests_extend]
          exact ih hq'

/-- Where integrations are not for real, the built-in gateway sends nothing and every effect
succeeds, whatever is called, reset and settled; and the same comes of it under another policy and
with another address, token and transport. -/
theorem play_simulated (hh : e.handlers = []) (hmock : e.settings.useReal = false)
    (store : Option RunStore) (url token : String) (t : Http.Transport) (cues : List Cue) :
    (∀ x, (make e store (.builtin url token t)).play cues = some x →
      x.gateway.sent = t.sent ∧ x.outcomes.length = x.scene.session.requests.length ∧
      ∀ outcome ∈ x.outcomes, ∃ result, outcome = .ok result ∧ result.success = true) ∧
    ∀ policy url' token' t', (make (e.under policy) store (.builtin url' token' t')).play cues =
      ((make e store (.builtin url token t)).play cues).map fun x =>
        { x with scene := x.scene.under policy, gateway := .builtin url' token' t' } := by
  have hmode : e.mode = .mock := by
    rw [Engine.mode, Settings.mode, hmock]
    rfl
  have hplay (policy : FailurePolicy) (url token : String) (t : Http.Transport) :
      (make (e.under policy) store (.builtin url token t)).play cues =
        ((Scene.make (e.under policy) store).play simulating cues).map
          (simulated (.builtin url token t)) :=
    play_builtin (e := e.under policy) hh hmode (.make _ store) url token t cues
  have hself : (make e store (.builtin url token t)).play cues =
      ((Scene.make e store).play simulating cues).map (simulated (.builtin url token t)) :=
    hplay e.settings.failurePolicy url token t
  constructor
  · intro x hx
    rw [hx] at hself
    obtain ⟨h, -, rfl⟩ := Option.map_eq_some_iff.mp hself.symm
    refine ⟨rfl, List.length_map _, ?_⟩
    intro outcome hmem
    obtain ⟨r, -, rfl⟩ := List.mem_map.mp hmem
    exact ⟨r.simulated, rfl, r.simulated_success⟩
  · intro policy url' token' t'
    have hunder : (Scene.make (e.under policy) store).play simulating cues =
        ((Scene.make e store).play simulating cues).map (·.under policy) :=
      Scene.play_under Scene.simulating_succeeds (Scene.make e store) policy cues
    rw [hplay policy, hunder, hself, Option.map_map, Option.map_map]
    rfl

/-- An errand is run to its end with its update simulated, and a policy that halts and an address
that could be reached make no difference. -/
theorem errand_simulated : ∃ x y,
    (make Scene.errand none (.builtin "" "" {})).play
      [.call .start, .settle 0, .call (.send "yes")] = some x ∧
    (make (Scene.errand.under .halt) none (.builtin "http://localhost/update" "key" {})).play
      [.call .start, .settle 0, .call (.send "yes")] = some y ∧
    x.gateway.sent = [] ∧ y.gateway.sent = [] ∧ x.outcomes.length = 1 ∧
    x.scene.session.current.status = .completed ∧
    y.scene.session.current = x.scene.session.current := by
  obtain ⟨x, hx, hend⟩ := Option.map_eq_some_iff.mp (show ((make Scene.errand none
    (.builtin "" "" {})).play [.call .start, .settle 0, .call (.send "yes")]).map
      (fun x => (x.outcomes.length, x.scene.session.current.status)) = some (1, .completed) by
    decide)
  simp only [Prod.mk.injEq] at hend
  obtain ⟨hplay, hsame⟩ := play_simulated (e := Scene.errand) rfl rfl none "" "" {}
    [.call .start, .settle 0, .call (.send "yes")]
  have hother := hsame .halt "http://localhost/update" "key" {}
  rw [hx] at hother
  exact ⟨x, _, hx, hother, (hplay x hx).1, rfl, hend.1, hend.2, rfl⟩

end Exchange
end Dialogue
