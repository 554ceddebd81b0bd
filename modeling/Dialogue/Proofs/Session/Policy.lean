import Dialogue.Proofs.Run.Policy
import Dialogue.Proofs.Session.Breakdown
import Dialogue.Proofs.Session.Reentrancy

/-!
# A session under either policy

Calls that are made one after another come to the same run under either policy as long as every
effect succeeds. The first effect that fails cuts the run short that it halts: up to there it is the
run that goes on, and there it stays (`play_cut`).
-/
namespace Dialogue

namespace Session

variable {e : Engine} {run : Run}

theorem opening_under (e : Engine) (policy : FailurePolicy) (run : Run) :
    opening (e.under policy) run = opening e run := by
  unfold opening
  simp only [Engine.continueFrom_under]
  rfl

theorem take_under (e : Engine) (policy : FailurePolicy) (node : Node) (run : Run) (text : String) :
    take (e.under policy) node run text = take e node run text := by
  simp only [take, Engine.bindInput, Engine.routeCondition, Engine.branchTaken,
    Engine.firstWayOut, Engine.under]

theorem reply_under (e : Engine) (policy : FailurePolicy) (run : Run) (text : String) :
    reply (e.under policy) run text = reply e run text := by
  unfold reply
  simp only [Engine.continueFrom_under, take_under]
  rfl

/-- The session with another engine and another store. -/
def refit (s : Session) (e : Engine) (store : Option RunStore) (persisted : Nat) : Session :=
  { s with engine := e, store := store, persisted := persisted }

theorem setRun_refit (s : Session) (e : Engine) (store : Option RunStore) (persisted : Nat)
    (run : Run) : (s.refit e store persisted).setRun run =
      (s.setRun run).refit e store persisted := by
  by_cases hid : run.id = s.current.id
  · rw [setRun_current hid]
    exact setRun_current (s := s.refit e store persisted) hid
  · rw [setRun_discarded hid]
    exact setRun_discarded (s := s.refit e store persisted) hid

/-- The engine and the store are of no concern to what is made of a leg. -/
theorem absorb_refit (s : Session) (e : Engine) (store : Option RunStore) (persisted : Nat)
    (leg : Leg) : ∃ store' persisted', (s.refit e store persisted).absorb leg =
      ((s.absorb leg).1.refit e store' persisted', (s.absorb leg).2) := by
  have hset : ((s.refit e store persisted).emit leg.events).setRun leg.run =
      ((s.emit leg.events).setRun leg.run).refit e store persisted :=
    (s.emit leg.events).setRun_refit e store persisted leg.run
  cases hstop : leg.stop with
  | returned =>
      obtain ⟨kept, count, hkept⟩ := (((s.emit leg.events).setRun leg.run).refit e store
        persisted).persist_frame leg.run.id
      obtain ⟨kept', count', hkept'⟩ := ((s.emit leg.events).setRun leg.run).persist_frame
        leg.run.id
      refine ⟨kept, count, ?_⟩
      simp only [absorb, hstop, finish, hset, hkept, hkept']
      rfl
  | awaiting node request =>
      refine ⟨store, persisted, ?_⟩
      simp only [absorb, hstop, hset]
      rfl
  | endless =>
      refine ⟨store, persisted, ?_⟩
      simp only [absorb, hstop, hset]

end Session

/-- The effect of a request succeeds. -/
def Serving.Succeeds (serve : Serving) (number : Nat) (request : EffectRequest) : Prop :=
  ∃ result, serve number request = .ok result ∧ result.success = true

namespace Scene

variable {serve : Serving} {e : Engine} {h h' s t next : Scene} {cue : Cue} {calls : List Call}

/-! ### What stays -/

/-- What was said, noted and asked for is not lost. -/
structure Extends (h s : Scene) : Prop where
  messages : h.session.current.messages <+: s.session.current.messages
  log : h.session.current.log <+: s.session.current.log
  requests : h.session.requests <+: s.session.requests

theorem Extends.refl (h : Scene) : h.Extends h :=
  ⟨List.prefix_rfl, List.prefix_rfl, List.prefix_rfl⟩

theorem Extends.trans (h₁ : h.Extends s) (h₂ : s.Extends t) : h.Extends t :=
  ⟨h₁.messages.trans h₂.messages, h₁.log.trans h₂.log, h₁.requests.trans h₂.requests⟩

theorem Lone.extends (hl : h.Lone e) (hh : e.handlers = []) (hc : cue ≠ .reset)
    (hstep : h.step serve cue = some next) : h.Extends next := by
  have hm := hl.sound.moves (Engine.loyal_of_nil hh) hstep
  have hmessages {s : Session} {held : List Held} {leg : Leg} (ho : h.Opens serve cue s held leg) :=
    hl.sound.toTracked.opens_keeps Run.Speaks.lasting (Engine.keeping_of_nil hh _)
      (fun _ => .of_messages rfl) (fun _ _ => List.prefix_append _ _) ho
  have hlog {s : Session} {held : List Held} {leg : Leg} (ho : h.Opens serve cue s held leg) :=
    hl.sound.toTracked.opens_keeps Run.Grows.lasting (Engine.keeping_of_nil hh _)
      (fun _ => .of_log rfl) (fun _ _ => .of_log rfl) ho
  cases hm with
  | refused => exact .refl h
  | reset => exact absurd rfl hc
  | @returned _ s _ leg ho hr =>
      refine ⟨?_, ?_, ?_⟩
      · rw [Session.persist_current]
        exact hmessages ho
      · rw [Session.persist_current]
        exact hlog ho
      · rw [Session.persist_requests, ho.frame]
        exact List.prefix_rfl
  | asks ho hr =>
      refine ⟨hmessages ho, hlog ho, ?_⟩
      rw [ho.frame]
      exact List.prefix_append _ _
  | drained hw hrun =>
      rw [hl.alone] at hrun
      cases hrun

theorem Lone.extends_inTurn (hl : h.Lone e) (ha : e.flow.Accepted) (hh : e.handlers = [])
    (hturn : InTurn serve h calls s) : h.Extends s := by
  induction hturn with
  | finished => exact .refl _
  | call hheld hstep hrest ih =>
      exact (hl.extends hh (by simp) hstep).trans (ih (hl.step ha hh (by simp) hstep))
  | settle hstep hrest ih =>
      exact (hl.extends hh (by simp) hstep).trans (ih (hl.step ha hh (by simp) hstep))

/-! ### In step -/

/-- The same scene but for the engine and the store. -/
def Twin (e : Engine) (h h' : Scene) : Prop :=
  ∃ store persisted, h' = ⟨h.session.refit e store persisted, h.held⟩

private theorem after_refit {s : Session} {leg : Leg} {held : List Held} {n : Nat}
    (e : Engine) (store : Option RunStore) (persisted : Nat)
    (hnext : after held n (s.absorb leg) = some next) :
    ∃ next', after held n ((s.refit e store persisted).absorb leg) = some next' ∧
      next.Twin e next' := by
  obtain ⟨kept, count, habsorb⟩ := s.absorb_refit e store persisted leg
  rw [habsorb]
  generalize s.absorb leg = done at hnext ⊢
  obtain ⟨s', outcome⟩ := done
  cases outcome with
  | returned snapshot =>
      cases hnext
      exact ⟨_, rfl, kept, count, rfl⟩
  | waiting p =>
      cases hnext
      exact ⟨_, rfl, kept, count, rfl⟩
  | endless => cases hnext

theorem Twin.call (ht : h.Twin (e.under .halt) h') (he : h.session.engine = e.under .proceed)
    {c : Call} (hstep : h.step serve (.call c) = some next) :
    ∃ next', h'.step serve (.call c) = some next' ∧ next.Twin (e.under .halt) next' := by
  obtain ⟨store, persisted, rfl⟩ := ht
  by_cases hf : c.FitsRun h.session.current
  · cases c with
    | start =>
        rw [(Opens.start hf).step_eq, he, Session.opening_under] at hstep
        rw [(Opens.start (h := ⟨h.session.refit _ store persisted, h.held⟩) hf).step_eq]
        show ∃ next', after h.held h.session.requests.length
          ((Session.refit { h.session with observed := h.session.current.id } (e.under .halt) store
            persisted).absorb (Session.opening (e.under .halt) h.session.current)) = some next' ∧ _
        rw [Session.opening_under]
        exact after_refit _ store persisted hstep
    | send text =>
        rw [(Opens.send hf).step_eq, he, Session.reply_under] at hstep
        rw [(Opens.send (h := ⟨h.session.refit _ store persisted, h.held⟩) hf).step_eq]
        show ∃ next', after h.held h.session.requests.length
          ((h.session.refit (e.under .halt) store persisted).absorb
            (Session.reply (e.under .halt) h.session.current text)) = some next' ∧ _
        rw [Session.reply_under]
        exact after_refit _ store persisted hstep
  · rw [step, Session.call_of_not_fitsRun hf] at hstep
    rw [step, Session.call_of_not_fitsRun (s := h.session.refit _ store persisted) hf]
    cases hstep
    exact ⟨_, rfl, store, persisted, rfl⟩

theorem Twin.settle (ht : h.Twin (e.under .halt) h') (he : h.session.engine = e.under .proceed)
    {w : Held} (hw : h.held[0]? = some w) (hown : w.pending.run = h.session.current.id)
    {result : EffectResult} (hresult : w.outcome serve = .ok result)
    (hs : result.success = true) (hstep : h.step serve (.settle 0) = some next) :
    ∃ next', h'.step serve (.settle 0) = some next' ∧ next.Twin (e.under .halt) next' := by
  obtain ⟨store, persisted, rfl⟩ := ht
  rw [(Opens.settle hw hown).step_eq, he, Held.leg, hresult, Engine.takeUp_under e _ hs] at hstep
  rw [(Opens.settle (h := ⟨h.session.refit _ store persisted, h.held⟩) hw hown).step_eq]
  show ∃ next', after (h.held.eraseIdx 0) h.session.requests.length
    (((h.session.measure serve w).refit (e.under .halt) store persisted).absorb
      ((e.under .halt).takeUp _ _ (w.outcome serve) h.session.current)) = some next' ∧ _
  rw [hresult, Engine.takeUp_under e _ hs]
  exact after_refit _ store persisted hstep

theorem Twin.settle_failed (ht : h.Twin (e.under .halt) h') {w : Held} (hheld : h.held = [w])
    (hown : w.pending.run = h.session.current.id) {run : Run} {events : List Event}
    (hid : run.id = h.session.current.id)
    (hleg : w.leg serve (e.under .halt) h.session.current = .returned run events) :
    ∃ t, h'.step serve (.settle 0) = some t ∧ t.session.current = run.released ∧
      t.session.requests = h.session.requests ∧ t.held = [] := by
  obtain ⟨store, persisted, rfl⟩ := ht
  have hw : h.held[0]? = some w := by
    rw [hheld]
    rfl
  rw [(Opens.settle (h := ⟨h.session.refit _ store persisted, h.held⟩) hw hown).step_eq]
  show ∃ t, after (h.held.eraseIdx 0) h.session.requests.length
    (((h.session.measure serve w).refit (e.under .halt) store persisted).absorb
      (w.leg serve (e.under .halt) h.session.current)) = some t ∧ _
  rw [hleg, Session.absorb_returned hid rfl]
  refine ⟨_, rfl, Session.persist_current _ _, Session.persist_requests _ _, ?_⟩
  rw [hheld]
  rfl

/-- Of the effects that were asked for, all that are not still to come succeeded. -/
def Tally (serve : Serving) (h : Scene) : Prop :=
  ∃ served, h.session.requests = served ++ h.held.map (·.pending.request) ∧
    (∀ w ∈ h.held, w.number = served.length) ∧
    ∀ n request, served[n]? = some request → serve.Succeeds n request

theorem Tally.length_of_singleton (ht : h.Tally serve) {w : Held} (hheld : h.held = [w]) :
    h.session.requests.length = w.number + 1 := by
  obtain ⟨served, hrequests, hnumber, -⟩ := ht
  rw [hrequests, hheld, hnumber w (hheld ▸ List.mem_singleton_self w)]
  simp

/-- Every effect that was asked for succeeds. -/
def Flawless (serve : Serving) (h : Scene) : Prop :=
  ∀ n request, h.session.requests[n]? = some request → serve.Succeeds n request

theorem Tally.flawless_of_nil (ht : h.Tally serve) (hheld : h.held = []) : h.Flawless serve := by
  obtain ⟨served, hrequests, -, hall⟩ := ht
  rw [hheld, List.map_nil, List.append_nil] at hrequests
  rw [Flawless, hrequests]
  exact hall

theorem Tally.flawless_of_singleton (ht : h.Tally serve) {w : Held} (hheld : h.held = [w])
    (hw : serve.Succeeds w.number w.pending.request) : h.Flawless serve := by
  obtain ⟨served, hrequests, hnumber, hall⟩ := ht
  rw [hheld] at hrequests hnumber
  intro n request hn
  rw [hrequests, List.map_singleton, List.getElem?_append] at hn
  split at hn
  · exact hall n request hn
  · rename_i hlate
    cases hsub : n - served.length with
    | zero =>
        rw [hsub] at hn
        cases hn
        have hlast : n = w.number := by
          rw [hnumber w (List.mem_singleton_self w)]
          omega
        exact hlast ▸ hw
    | succ m => simp [hsub] at hn

theorem Moves.tally (hm : h.Moves serve cue next) (hl : h.Lone e) (hc : cue ≠ .reset)
    (ht : h.Tally serve) (hall : h.Flawless serve) : next.Tally serve := by
  cases hm with
  | refused => exact ht
  | reset => exact absurd rfl hc
  | returned ho hr =>
      refine ⟨h.session.requests, ?_, ?_, hall⟩
      · rw [hl.opens_held ho, Session.persist_requests, ho.frame]
        exact (List.append_nil _).symm
      · simp [hl.opens_held ho]
  | asks ho hr =>
      refine ⟨h.session.requests, ?_, ?_, hall⟩
      · rw [hl.opens_held ho, ho.frame]
        rfl
      · rw [hl.opens_held ho, ho.frame]
        simp
  | drained hw hrun =>
      rw [hl.alone] at hrun
      cases hrun

/-! ### The cut -/

/-- The scene `mid` is come to while calls are made in turn, and `rest` of them are still to be
made then. -/
inductive Meets (serve : Serving) : Scene → List Call → Scene → List Call → Prop where
  | here (h : Scene) (calls : List Call) : Meets serve h calls h calls
  | call {h h' mid : Scene} {c : Call} {calls rest : List Call} (hheld : h.held = [])
      (hstep : h.step serve (.call c) = some h') (hlater : Meets serve h' calls mid rest) :
      Meets serve h (c :: calls) mid rest
  | settle {h h' mid : Scene} {calls rest : List Call} (hstep : h.step serve (.settle 0) = some h')
      (hlater : Meets serve h' calls mid rest) : Meets serve h calls mid rest

/-- The request with number `k` is the first whose effect failed, with `result`. -/
structure FailsFirst (serve : Serving) (s : Scene) (k : Nat) (result : EffectResult) : Prop where
  fails : ∃ request, s.session.requests[k]? = some request ∧ serve k request = .ok result
  failed : result.success = false
  before : ∀ n < k, ∀ request, s.session.requests[n]? = some request → serve.Succeeds n request

/-- How the scene `t` in which a run was halted stands to the scene `s` that going on led to, where
`w` was held in the scene `mid` when its effect failed. -/
structure CutShort (mid : Scene) (w : Held) (result : EffectResult) (s t : Scene) : Prop where
  requests : t.session.requests = s.session.requests.take (w.number + 1)
  messages : t.session.current.messages <+: s.session.current.messages
  log : t.session.current.log <+: s.session.current.log
  last : ∃ x, t.session.current.log = mid.session.current.log ++ [x] ∧
    x.nodeId = w.pending.node.id ∧ x.nodeType = w.pending.node.type ∧
    x.nodeLabel = w.pending.node.label ∧ x.success = false
  status : t.session.current.status = .failed
  failure : t.session.current.failure = some result.reason
  vars : t.session.current.vars = mid.session.current.vars
  later : ∀ c : Call, c.on t.session = t.session.unchanged

theorem Stuck.inTurn {r : Run} (hk : t.Stuck r) (hheld : t.held = []) (calls : List Call) :
    InTurn serve t calls t := by
  induction calls with
  | nil => exact .finished hheld
  | cons c calls ih =>
      refine .call hheld ?_ ih
      rw [step, Session.call_of_not_fitsRun (hk.not_fitsRun c)]
      rfl

/-- Two scenes that only the policy and the store tell apart, when no effect has failed yet. -/
structure Abreast (e : Engine) (serve : Serving) (h h' : Scene) : Prop where
  lone : h.Lone (e.under .proceed)
  twin : h.Twin (e.under .halt) h'
  tally : h.Tally serve

/-- How two scenes fare that are called in turn: they stay abreast, or one is cut short by an effect
that fails. -/
inductive Fate (e : Engine) (serve : Serving) (h : Scene) (calls : List Call) (s t : Scene) :
    Prop where
  | abreast (hkept : s.Abreast e serve t) (hheld : s.held = []) : Fate e serve h calls s t
  | severed {mid : Scene} {rest : List Call} {w : Held} {result : EffectResult}
      (hmeets : Meets serve h calls mid rest) (hheld : mid.held = [w]) (htally : mid.Tally serve)
      (hresult : w.outcome serve = .ok result) (hf : result.success = false)
      (hextends : mid.Extends s) (hcut : CutShort mid w result s t) : Fate e serve h calls s t

theorem Fate.of_meets {earlier : Scene} {all : List Call} (hfate : Fate e serve h calls s t)
    (hmeets : ∀ mid rest, Meets serve h calls mid rest → Meets serve earlier all mid rest) :
    Fate e serve earlier all s t := by
  cases hfate with
  | abreast hkept hheld => exact .abreast hkept hheld
  | severed hm hheld htally hresult hf hextends hcut =>
      exact .severed (hmeets _ _ hm) hheld htally hresult hf hextends hcut

namespace Abreast

theorem make (e : Engine) (serve : Serving) (store twin : Option RunStore) :
    (Scene.make (e.under .proceed) store).Abreast e serve (.make (e.under .halt) twin) where
  lone := .make _ store
  twin := ⟨twin, 0, rfl⟩
  tally := ⟨[], rfl, by simp [Scene.make], by simp⟩

theorem engine (hab : h.Abreast e serve h') : h.session.engine = e.under .proceed :=
  hab.lone.sound.engine

theorem onward (hab : h.Abreast e serve h') (ha : e.flow.Accepted) (hh : e.handlers = [])
    (hc : cue ≠ .reset) (hall : h.Flawless serve) (hstep : h.step serve cue = some next)
    {next' : Scene} (htwin : next.Twin (e.under .halt) next') : next.Abreast e serve next' where
  lone := hab.lone.step ha hh hc hstep
  twin := htwin
  tally := (hab.lone.sound.moves (Engine.loyal_of_nil hh) hstep).tally hab.lone hc hab.tally hall

/-- An effect that fails cuts the run short that it halts. -/
theorem cut (hab : h.Abreast e serve h') (ha : e.flow.Accepted) (hh : e.handlers = []) {w : Held}
    (hheld : h.held = [w]) {result : EffectResult} (hresult : w.outcome serve = .ok result)
    (hf : result.success = false) (hstep : h.step serve (.settle 0) = some next)
    (hrest : InTurn serve next calls s) :
    ∃ t, InTurn serve h' calls t ∧ CutShort h w result s t ∧ h.Extends s := by
  have hmem : w ∈ h.held := hheld ▸ List.mem_singleton_self w
  have hw : h.held[0]? = some w := by
    rw [hheld]
    rfl
  have hown := hab.lone.held_run hmem
  obtain ⟨r, events, hr, hhalt, hproceed⟩ := e.takeUp_failed (hab.lone.sound.held w hmem).1 hf
    w.pending.request h.session.current
  rw [← hresult] at hhalt hproceed
  -- the run that goes on keeps what the step said and noted
  have hopens : h.Opens serve (.settle 0) _ _ _ := .settle hw hown
  have hid := hab.lone.sound.id_of_opens (Engine.loyal_of_nil hh) hopens
  have hnext := hopens.current_of_step hid hstep
  rw [hab.engine] at hnext
  have hnextLone := hab.lone.step ha hh (by simp) hstep
  have hlater := hnextLone.extends_inTurn ha hh hrest
  have hextends := (hab.lone.extends hh (by simp) hstep).trans hlater
  have hmessages : r.messages <+: next.session.current.messages :=
    hnext ▸ hproceed _ Run.Speaks.lasting (Engine.keeping_of_nil hh _)
  have hlog : r.log <+: next.session.current.log :=
    hnext ▸ hproceed _ Run.Grows.lasting (Engine.keeping_of_nil hh _)
  -- the run that is halted stays as the step left it
  have hfailed : (r.fail result.reason).id = h.session.current.id := by
    show r.id = _
    rw [hr.frame]
  obtain ⟨t, hstep', hcurrent, hrequests, hfree⟩ := hab.twin.settle_failed hheld hown hfailed hhalt
  have hstatus : t.session.current.status = .failed := by
    rw [hcurrent]
    rfl
  have hstuck : t.Stuck t.session.current := ⟨rfl, hstatus, by simp [hfree]⟩
  refine ⟨t, .settle hstep' (hstuck.inTurn hfree calls), ?_, hextends⟩
  refine ⟨?_, ?_, ?_, ?_, hstatus, ?_, ?_,
    fun c => Session.call_of_not_fitsRun (hstuck.not_fitsRun c)⟩
  · rw [hrequests, ← hab.tally.length_of_singleton hheld]
    exact List.prefix_iff_eq_take.mp hextends.requests
  · rw [hcurrent]
    exact hmessages.trans hlater.messages
  · rw [hcurrent]
    exact hlog.trans hlater.log
  · rw [hcurrent]
    exact hr.noted
  · rw [hcurrent]
    rfl
  · rw [hcurrent]
    exact hr.vars

/-- Calls in turn keep the scenes abreast, or an effect fails on the way. -/
theorem inTurn (hab : h.Abreast e serve h') (ha : e.flow.Accepted) (hh : e.handlers = [])
    (hserve : ∀ n request, ∃ result, serve n request = .ok result)
    (hturn : InTurn serve h calls s) : ∃ t, InTurn serve h' calls t ∧ Fate e serve h calls s t := by
  -- on the calls in turn; only where an effect is settled can the two come apart
  induction hturn generalizing h' with
  | finished hheld =>
      obtain ⟨store, persisted, rfl⟩ := hab.twin
      exact ⟨_, .finished hheld, .abreast hab hheld⟩
  | @call h _ _ c calls hheld hstep hrest ih =>
      obtain ⟨next', hstep', htwin⟩ := hab.twin.call hab.engine hstep
      have hall := hab.tally.flawless_of_nil hheld
      obtain ⟨t, hturn, hfate⟩ := ih (hab.onward ha hh (by simp) hall hstep htwin)
      refine ⟨t, .call ?_ hstep' hturn, hfate.of_meets fun _ _ => .call hheld hstep⟩
      obtain ⟨store, persisted, rfl⟩ := hab.twin
      exact hheld
  | @settle h _ _ calls hstep hrest ih =>
      obtain ⟨w, hw, -⟩ := Option.bind_eq_some_iff.mp hstep
      have hheld := hab.lone.held_eq hw
      obtain ⟨result, hresult⟩ := hserve w.number w.pending.request
      cases hsuccess : result.success with
      | true =>
          have hown := hab.lone.held_run (List.mem_of_getElem? hw)
          obtain ⟨next', hstep', htwin⟩ := hab.twin.settle hab.engine hw hown hresult hsuccess hstep
          have hall := hab.tally.flawless_of_singleton hheld ⟨result, hresult, hsuccess⟩
          obtain ⟨t, hturn, hfate⟩ := ih (hab.onward ha hh (by simp) hall hstep htwin)
          exact ⟨t, .settle hstep' hturn, hfate.of_meets fun _ _ => .settle hstep⟩
      | false =>
          obtain ⟨t, hturn, hcut, hextends⟩ := hab.cut ha hh hheld hresult hsuccess hstep hrest
          exact ⟨t, hturn, .severed (.here h calls) hheld hab.tally hresult hsuccess hextends hcut⟩

end Abreast

theorem Tally.failsFirst {mid : Scene} (ht : mid.Tally serve) {w : Held} (hheld : mid.held = [w])
    {result : EffectResult} (hresult : w.outcome serve = .ok result) (hf : result.success = false)
    (hextends : mid.Extends s) : s.FailsFirst serve w.number result := by
  obtain ⟨served, hrequests, hnumber, hall⟩ := ht
  rw [hheld] at hrequests hnumber
  have hlength := hnumber w (List.mem_singleton_self w)
  obtain ⟨more, hmore⟩ := hextends.requests
  rw [hrequests] at hmore
  refine ⟨⟨w.pending.request, ?_, hresult⟩, hf, ?_⟩
  · rw [← hmore, hlength]
    simp
  · intro n hn request hrequest
    rw [← hmore, List.append_assoc, List.getElem?_append_left (hlength ▸ hn)] at hrequest
    exact hall n request hrequest

theorem FailsFirst.not_flawless {k : Nat} {result : EffectResult}
    (hf : s.FailsFirst serve k result) : ¬ s.Flawless serve := by
  intro hall
  obtain ⟨request, hrequest, hresult⟩ := hf.fails
  obtain ⟨other, hother, hsuccess⟩ := hall k request hrequest
  rw [hresult] at hother
  cases hother
  simp [hf.failed] at hsuccess

theorem FailsFirst.not_lt {k l : Nat} {result other : EffectResult}
    (hk : s.FailsFirst serve k result) (hl : s.FailsFirst serve l other) : ¬ k < l := by
  intro hlt
  obtain ⟨request, hrequest, hresult⟩ := hk.fails
  obtain ⟨good, hgood, hsuccess⟩ := hl.before k hlt request hrequest
  rw [hresult] at hgood
  cases hgood
  simp [hk.failed] at hsuccess

theorem FailsFirst.unique {k l : Nat} {result other : EffectResult}
    (hk : s.FailsFirst serve k result) (hl : s.FailsFirst serve l other) :
    k = l ∧ result = other := by
  have hkl := hk.not_lt hl
  have hlk := hl.not_lt hk
  obtain rfl : k = l := by omega
  obtain ⟨request, hrequest, hresult⟩ := hk.fails
  obtain ⟨request', hrequest', hresult'⟩ := hl.fails
  rw [hrequest] at hrequest'
  cases hrequest'
  rw [hresult] at hresult'
  exact ⟨rfl, Except.ok.inj hresult'⟩

/-- Where a gateway always answers and calls are made one after another, the policy that halts comes
to what the policy that goes on comes to, after each of the calls, until an effect fails; then it
is the policy that goes on, cut short at the first effect that failed. -/
theorem play_cut (ha : e.flow.Accepted) (hh : e.handlers = []) (store twin : Option RunStore)
    (hserve : ∀ n request, ∃ result, serve n request = .ok result) {before : List Call}
    (hturn : InTurn serve (Scene.make (e.under .proceed) store) calls h)
    (hbefore : before <+: calls) :
    ∃ s t, InTurn serve (Scene.make (e.under .proceed) store) before s ∧
      InTurn serve (Scene.make (e.under .halt) twin) before t ∧
      (s.Flawless serve → t.session.current = s.session.current ∧
        t.session.requests = s.session.requests) ∧
      ∀ k result, s.FailsFirst serve k result → ∃ mid rest w,
        Meets serve (Scene.make (e.under .proceed) store) before mid rest ∧
          mid.held = [w] ∧ w.number = k ∧ CutShort mid w result s t := by
  obtain ⟨rest, rfl⟩ := hbefore
  obtain ⟨s, hs, -⟩ := hturn.split
  obtain ⟨t, ht, hfate⟩ := (Abreast.make e serve store twin).inTurn ha hh hserve hs
  refine ⟨s, t, hs, ht, ?_, ?_⟩
  · intro hall
    cases hfate with
    | abreast hkept hheld =>
        obtain ⟨store, persisted, rfl⟩ := hkept.twin
        exact ⟨rfl, rfl⟩
    | severed hmeets hheld htally hresult hf hextends hcut =>
        exact absurd hall (htally.failsFirst hheld hresult hf hextends).not_flawless
  · intro k result hfirst
    cases hfate with
    | abreast hkept hheld => exact absurd (hkept.tally.flawless_of_nil hheld) hfirst.not_flawless
    | severed hmeets hheld htally hresult hf hextends hcut =>
        obtain ⟨rfl, rfl⟩ := hfirst.unique (htally.failsFirst hheld hresult hf hextends)
        exact ⟨_, _, _, hmeets, hheld, rfl, hcut⟩

/-- Where no update is carried out, a run comes to its end or is halted at the update. -/
theorem errand_cut : ∃ s t,
    InTurn (fun _ _ => .ok { success := false }) (Scene.make (errand.under .proceed) none)
      [.start, .send "yes"] s ∧
    InTurn (fun _ _ => .ok { success := false }) (Scene.make (errand.under .halt) none)
      [.start, .send "yes"] t ∧
    s.session.current.status = .completed ∧ t.session.current.status = .failed ∧
    t.session.current.failure = some "Falha em efeito externo" ∧ t.session.requests.length = 1 := by
  obtain ⟨s, hplay, hend⟩ := Option.map_eq_some_iff.mp (show ((Scene.make (errand.under .proceed)
    none).play (fun _ _ => .ok { success := false })
      [.call .start, .settle 0, .call (.send "yes")]).map (fun s => (s.held.length,
        s.session.requests.length, s.session.current.status)) = some (0, 1, .completed) by
          decide +kernel)
  simp only [Prod.mk.injEq] at hend
  obtain ⟨hheld, hcount, hstatus⟩ := hend
  have haccepted : (Scene.make (errand.under .proceed) none).accepted
    (fun _ _ => .ok { success := false }) [.call .start, .settle 0, .call (.send "yes")] =
      [.start, .send "yes"] := by decide +kernel
  have hturn := (Lone.make (errand.under .proceed) none).inTurn errand_accepted rfl (by decide)
    hplay (List.length_eq_zero_iff.mp hheld)
  rw [haccepted] at hturn
  obtain ⟨s', t, hs, ht, -, hcut⟩ := play_cut errand_accepted rfl none none
    (fun _ _ => ⟨_, rfl⟩) hturn List.prefix_rfl
  obtain rfl := hs.unique hturn
  obtain ⟨request, hrequest⟩ := List.length_eq_one_iff.mp hcount
  obtain ⟨mid, rest, w, -, -, hnumber, hshort⟩ := hcut 0 { success := false }
    ⟨⟨request, by rw [hrequest]; rfl, rfl⟩, rfl, by simp⟩
  refine ⟨_, t, hturn, ht, hstatus, hshort.status, hshort.failure.trans (by decide), ?_⟩
  rw [hshort.requests, hnumber, List.length_take, hcount]
  rfl

end Scene
end Dialogue
