import Dialogue.Conversation
import Dialogue.Proofs.Session.Tracking

/-!
# Operations that are carried through

A call of a conversation is carried through with all its effects. It goes on with the current run
and touches no other, and nothing that the run has said is lost (`carry_continues`).
-/
namespace Dialogue

open Run (Follows Speaks)

namespace Session

/-- What an operation on the current run of a session leaves. -/
structure Continues (s : Session) (done : Session × Outcome) : Prop where
  engine : done.1.engine = s.engine
  discarded : done.1.discarded = s.discarded
  id : done.1.current.id = s.current.id
  speaks : Speaks s.current done.1.current
  waiting : ∀ p, done.2 = .waiting p → p.run = s.current.id ∧ p.node.SeeksEffect

variable {s s' : Session} {done : Session × Outcome} {leg : Leg}

theorem Continues.unchanged (s : Session) : s.Continues s.unchanged :=
  ⟨rfl, rfl, rfl, .of_messages rfl, by simp [Session.unchanged]⟩

theorem Continues.trans {o : Outcome} (h : s.Continues (s', o)) (h' : s'.Continues done) :
    s.Continues done where
  engine := h'.engine.trans h.engine
  discarded := h'.discarded.trans h.discarded
  id := h'.id.trans h.id
  speaks := h.speaks.trans h'.speaks
  waiting p hp := by
    obtain ⟨hrun, hseeks⟩ := h'.waiting p hp
    exact ⟨hrun.trans h.id, hseeks⟩

theorem absorb_continues (hf : leg.Follows s.current) (hs : Speaks s.current leg.run) :
    s.Continues (s.absorb leg) := by
  have hid := hf.run.id
  cases hstop : leg.stop with
  | returned =>
      rw [absorb_returned hid hstop]
      exact ⟨persist_engine _ _, persist_discarded _ _, by rw [persist_current]; exact hid,
        by rw [persist_current]; exact hs, by simp⟩
  | awaiting node request =>
      rw [absorb_awaiting hid hstop]
      refine ⟨rfl, rfl, hid, hs, ?_⟩
      rintro _ ⟨⟩
      exact ⟨hid, hf.seeks node request hstop⟩
  | endless =>
      have hset : (s.emit leg.events).setRun leg.run = s.moved leg := setRun_current hid
      simp only [absorb, hstop, hset]
      exact ⟨rfl, rfl, hid, hs, by simp⟩

theorem call_continues (hh : s.engine.handlers = []) (c : Call) : s.Continues (c.on s) := by
  have hrunning : Status.running ≠ .idle := by decide
  by_cases hf : c.FitsRun s.current
  · cases c with
    | start =>
        have hbegun : Follows s.current (begun s.engine s.current) :=
          ⟨rfl, rfl, fun _ => hrunning⟩
        have hleg := (opening_keeps Follows.lasting (Engine.loyal_of_nil hh) s.current).of_run
          Follows.lasting hbegun
        have hspeaks := opening_keeps Speaks.lasting (Engine.keeping_of_nil hh _) s.current
        rw [Call.on, start_of_idle hf]
        have h : Continues { s with observed := s.current.id } _ :=
          absorb_continues hleg.follows hspeaks.run
        exact ⟨h.engine, h.discarded, h.id, h.speaks, h.waiting⟩
    | send text =>
        have hanswered : Follows s.current (answered s.current text) :=
          ⟨rfl, rfl, fun _ => hrunning⟩
        have hleg := reply_keeps Follows.lasting (Engine.loyal_of_nil hh) hanswered
        have hspeaks := reply_keeps Speaks.lasting (Engine.keeping_of_nil hh _)
          (show Speaks s.current (answered s.current text) from List.prefix_append _ _)
        rw [Call.on, send_of_waiting hf]
        exact absorb_continues hleg.follows hspeaks.run
  · rw [call_of_not_fitsRun hf]
    exact .unchanged s

theorem answer_continues (hh : s.engine.handlers = []) {p : Pending}
    (hrun : p.run = s.current.id) (hs : p.node.SeeksEffect) (outcome : EffectOutcome) :
    s.Continues (s.answer p outcome) := by
  have hfound : s.run? p.run = some s.current := by rw [run?, if_pos hrun.symm]
  have hleg := Engine.takeUp_keeps Follows.lasting (Engine.loyal_of_nil hh) hs p.request outcome
    s.current
  have hspeaks := Engine.takeUp_keeps Speaks.lasting (Engine.keeping_of_nil hh _) hs p.request
    outcome s.current
  simp only [answer, hfound]
  have h := absorb_continues
    (s := s.emitFor p.observed [Engine.measured p.node p.request outcome]) hleg.follows hspeaks.run
  exact ⟨h.engine, h.discarded, h.id, h.speaks, h.waiting⟩

end Session

namespace Conversation

theorem serve_continues {s : Session} (hh : s.engine.handlers = []) (effects : Nat) (g : Gateway)
    {done : Session × Outcome} (h : s.Continues done) : s.Continues (serve effects g done).2 := by
  induction effects generalizing g done with
  | zero => exact h
  | succ effects ih =>
      obtain ⟨s', outcome⟩ := done
      cases outcome with
      | returned snapshot => exact h
      | endless => exact h
      | waiting p =>
          obtain ⟨hrun, hseeks⟩ := h.waiting p rfl
          have hh' : s'.engine.handlers = [] := by
            rw [h.engine]
            exact hh
          exact ih _ (h.trans (Session.answer_continues hh' (hrun.trans h.id.symm) hseeks _))

theorem carry_continues (c : Conversation) (hh : c.session.engine.handlers = []) (call : Call) :
    c.session.Continues ((c.carry call.on).1.session, (c.carry call.on).2) :=
  serve_continues hh c.bound c.gateway (Session.call_continues hh call)

end Conversation
end Dialogue
