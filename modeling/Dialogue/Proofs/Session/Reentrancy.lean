import Dialogue.Proofs.Session.Invariant

/-!
# Calls that come in between

A call may come at any moment while an earlier one waits for the gateway. It changes nothing then,
and a schedule without resets comes to the same scene as its accepted calls one after another.
-/
namespace Dialogue.Scene

/-- The call of a cue, if it finds the run in the state that it requires. -/
def taken (h : Scene) : Cue → List Call
  | .call c => if c.FitsRun h.session.current then [c] else []
  | _ => []

/-- The calls of a schedule that find the run in the state that they require. -/
def accepted (serve : Serving) (h : Scene) : List Cue → List Call
  | [] => []
  | cue :: cues =>
    h.taken cue ++ ((h.step serve cue).map fun h => h.accepted serve cues).getD []

/-- Calls that are made one after another, each when the gateway holds nothing more. -/
inductive InTurn (serve : Serving) : Scene → List Call → Scene → Prop where
  | finished {h : Scene} (hheld : h.held = []) : InTurn serve h [] h
  | call {h h' h'' : Scene} {c : Call} {calls : List Call} (hheld : h.held = [])
      (hstep : h.step serve (.call c) = some h') (hrest : InTurn serve h' calls h'') :
      InTurn serve h (c :: calls) h''
  | settle {h h' h'' : Scene} {calls : List Call} (hstep : h.step serve (.settle 0) = some h')
      (hrest : InTurn serve h' calls h'') : InTurn serve h calls h''

variable {serve : Serving} {e : Engine} {h h' : Scene} {cue : Cue}

theorem held_ne_nil_of_settle {place : Nat} (hstep : h.step serve (.settle place) = some h') :
    h.held ≠ [] := by
  intro hheld
  simp [step, hheld] at hstep

theorem InTurn.unique {calls : List Call} {h₁ h₂ : Scene} (hl : InTurn serve h calls h₁)
    (hr : InTurn serve h calls h₂) : h₁ = h₂ := by
  induction hl with
  | finished hheld =>
      cases hr with
      | finished => rfl
      | settle hstep => exact absurd hheld (held_ne_nil_of_settle hstep)
  | call hheld hstep hrest ih =>
      cases hr with
      | call hheld' hstep' hrest' =>
          rw [hstep] at hstep'
          cases hstep'
          exact ih hrest'
      | settle hstep' => exact absurd hheld (held_ne_nil_of_settle hstep')
  | settle hstep hrest ih =>
      cases hr with
      | finished hheld => exact absurd hheld (held_ne_nil_of_settle hstep)
      | call hheld => exact absurd hheld (held_ne_nil_of_settle hstep)
      | settle hstep' hrest' =>
          rw [hstep] at hstep'
          cases hstep'
          exact ih hrest'

theorem InTurn.split {before rest : List Call} (hturn : InTurn serve h (before ++ rest) h') :
    ∃ mid, InTurn serve h before mid ∧ InTurn serve mid rest h' := by
  generalize hcalls : before ++ rest = calls at hturn
  induction hturn generalizing before with
  | @finished h hheld =>
      obtain ⟨rfl, rfl⟩ := List.append_eq_nil_iff.mp hcalls
      exact ⟨h, .finished hheld, .finished hheld⟩
  | @call h _ _ c calls hheld hstep hrest ih =>
      cases before with
      | nil =>
          rw [List.nil_append] at hcalls
          exact ⟨h, .finished hheld, hcalls ▸ .call hheld hstep hrest⟩
      | cons first before =>
          obtain ⟨rfl, hlater⟩ := List.cons.inj hcalls
          obtain ⟨mid, hbefore, hafter⟩ := ih hlater
          exact ⟨mid, .call hheld hstep hbefore, hafter⟩
  | settle hstep hrest ih =>
      obtain ⟨mid, hbefore, hafter⟩ := ih hcalls
      exact ⟨mid, .settle hstep hbefore, hafter⟩

/-- A scene on which nothing was reset. -/
structure Lone (e : Engine) (h : Scene) : Prop where
  sound : h.Sound e
  alone : h.session.discarded = []

namespace Lone

theorem held_run (hl : h.Lone e) {w : Held} (hw : w ∈ h.held) :
    w.pending.run = h.session.current.id := by
  obtain ⟨-, r, hr, hid, -⟩ := hl.sound.held w hw
  rw [Session.runs, hl.alone, List.mem_singleton] at hr
  rw [← hid, hr]

theorem held_length (hl : h.Lone e) : h.held.length ≤ 1 :=
  hl.sound.length_le_one (.refl _) fun _ hw => hl.held_run hw

theorem held_eq (hl : h.Lone e) {w : Held} (hw : h.held[0]? = some w) : h.held = [w] := by
  have hlt := (List.getElem?_eq_some_iff.mp hw).1
  have hle := hl.held_length
  obtain ⟨v, hv⟩ := List.length_eq_one_iff.mp (by omega : h.held.length = 1)
  rw [hv] at hw
  cases hw
  exact hv

theorem place_eq_zero (hl : h.Lone e) {place : Nat} {w : Held} (hw : h.held[place]? = some w) :
    place = 0 := by
  have hlt := (List.getElem?_eq_some_iff.mp hw).1
  have hle := hl.held_length
  omega

theorem held_nil (hl : h.Lone e) {c : Call} (hc : c.FitsRun h.session.current) : h.held = [] := by
  rw [List.eq_nil_iff_forall_not_mem]
  intro w hw
  have hat := (hl.sound.atStep hw List.mem_cons_self (hl.held_run hw).symm).status
  cases c with
  | start =>
      rw [Call.FitsRun, hat] at hc
      cases hc
  | send text =>
      have := hat.symm.trans hc.1
      cases this

theorem opens_held (hl : h.Lone e) {s : Session} {held : List Held} {leg : Leg}
    (ho : h.Opens serve cue s held leg) : held = [] := by
  rw [List.eq_nil_iff_forall_not_mem]
  intro w hw
  exact hl.sound.free ho w hw (hl.held_run (ho.held_sublist.subset hw))

theorem step (hl : h.Lone e) (ha : e.flow.Accepted) (hh : e.handlers = []) (hc : cue ≠ .reset)
    (hstep : h.step serve cue = some h') : h'.Lone e := by
  have hm := hl.sound.moves (Engine.loyal_of_nil hh) hstep
  refine ⟨hl.sound.kept ha hh hm, ?_⟩
  cases hm with
  | refused => exact hl.alone
  | reset => exact absurd rfl hc
  | returned ho hr =>
      rw [Session.persist_discarded, ho.frame]
      exact hl.alone
  | asks ho hr =>
      rw [ho.frame]
      exact hl.alone
  | drained hw hrun =>
      rw [hl.alone] at hrun
      cases hrun

end Lone

theorem Moves.answers (hm : h.Moves serve cue h') (hs : h.Sound e) (ha : e.flow.Accepted)
    (hh : e.handlers = []) (hc : cue ≠ .reset) : h'.session.current.answers =
      h.session.current.answers ++ (h.taken cue).flatMap Call.said := by
  have hopened {s : Session} {held : List Held} {leg : Leg} (ho : h.Opens serve cue s held leg) :
      leg.run.answers = h.session.current.answers ++ (h.taken cue).flatMap Call.said := by
    have hsaid : cue.said = (h.taken cue).flatMap Call.said := by
      cases ho with
      | start hidle => simp [Cue.said, taken, Call.FitsRun, hidle]
      | send hf => simp [Cue.said, taken, hf]
      | settle hw hown => rfl
    rw [(hs.opens ha hh ho).answers, hsaid]
  cases hm with
  | refused hc' => simp [taken, hc']
  | reset => exact absurd rfl hc
  | returned ho hr =>
      rw [Session.persist_current]
      exact hopened ho
  | asks ho hr => exact hopened ho
  | drained hw hrun => exact (List.append_nil _).symm

theorem accepted_cons {cues : List Cue} (hstep : h.step serve cue = some h') :
    h.accepted serve (cue :: cues) = h.taken cue ++ h'.accepted serve cues := by
  simp [accepted, hstep]

/-- Of a schedule without resets only the accepted calls matter. -/
theorem Lone.inTurn (hl : h.Lone e) (ha : e.flow.Accepted) (hh : e.handlers = [])
    {cues : List Cue} (hc : .reset ∉ cues) (hplay : h.play serve cues = some h')
    (hheld : h'.held = []) : InTurn serve h (h.accepted serve cues) h' := by
  induction cues generalizing h with
  | nil =>
      cases hplay
      exact .finished hheld
  | cons cue cues ih =>
      rw [play_cons] at hplay
      obtain ⟨next, hnext, hrest⟩ := Option.bind_eq_some_iff.mp hplay
      rw [List.mem_cons, not_or] at hc
      obtain ⟨hcue, hcues⟩ := hc
      have hlater := ih (hl.step ha hh (Ne.symm hcue) hnext) hcues hrest
      rw [accepted_cons hnext]
      cases cue with
      | call c =>
          by_cases hf : c.FitsRun h.session.current
          · rw [taken, if_pos hf]
            exact .call (hl.held_nil hf) hnext hlater
          -- what does not fit is not among the accepted calls and leaves the scene as it is
          · rw [Scene.step, Session.call_of_not_fitsRun hf] at hnext
            cases hnext
            rw [taken, if_neg hf]
            exact hlater
      | reset => exact absurd rfl hcue
      | settle place =>
          obtain ⟨w, hw, -⟩ := Option.bind_eq_some_iff.mp hnext
          rw [hl.place_eq_zero hw] at hnext
          exact .settle hnext hlater

theorem Lone.answers (hl : h.Lone e) (ha : e.flow.Accepted) (hh : e.handlers = [])
    {cues : List Cue} (hc : .reset ∉ cues) (hplay : h.play serve cues = some h') :
    h'.session.current.answers =
      h.session.current.answers ++ (h.accepted serve cues).flatMap Call.said := by
  induction cues generalizing h with
  | nil =>
      cases hplay
      simp [accepted]
  | cons cue cues ih =>
      rw [play_cons] at hplay
      obtain ⟨next, hnext, hrest⟩ := Option.bind_eq_some_iff.mp hplay
      rw [List.mem_cons, not_or] at hc
      obtain ⟨hcue, hcues⟩ := hc
      rw [ih (hl.step ha hh (Ne.symm hcue) hnext) hcues hrest, accepted_cons hnext,
        (hl.sound.moves (Engine.loyal_of_nil hh) hnext).answers hl.sound ha hh (Ne.symm hcue),
        List.flatMap_append, List.append_assoc]

theorem Lone.make (e : Engine) (store : Option RunStore) : (Scene.make e store).Lone e :=
  ⟨.make e store, rfl⟩

/-- Whatever comes in between changes nothing: a call that does not fit the run leaves the scene
as it is, and once every call has returned, the scene is the one that the accepted calls lead to
when they are made one after another. The contact has said just what these calls say. -/
theorem play_inTurn (ha : e.flow.Accepted) (hh : e.handlers = []) (store : Option RunStore)
    (serve : Serving) (cues : List Cue) (hc : .reset ∉ cues) :
    (∀ (c : Call) (h : Scene), ¬ c.FitsRun h.session.current →
      c.on h.session = (h.session, .returned h.session.current.snapshot) ∧
        h.step serve (.call c) = some h) ∧
    ∀ h, (Scene.make e store).play serve cues = some h → h.held = [] →
      InTurn serve (Scene.make e store) ((Scene.make e store).accepted serve cues) h ∧
      (∀ h', InTurn serve (Scene.make e store) ((Scene.make e store).accepted serve cues) h' →
        h' = h) ∧
      h.session.current.answers =
        ((Scene.make e store).accepted serve cues).flatMap Call.said := by
  refine ⟨?_, ?_⟩
  · intro c h hf
    have hrefused := Session.call_of_not_fitsRun hf
    refine ⟨hrefused, ?_⟩
    rw [step, hrefused]
    rfl
  · intro h hplay hheld
    have hturn := (Lone.make e store).inTurn ha hh hc hplay hheld
    exact ⟨hturn, fun h' h'turn => h'turn.unique hturn, (Lone.make e store).answers ha hh hc hplay⟩

/-- An answer that comes too early is not said twice. -/
theorem errand_inTurn : ∃ h,
    (Scene.make errand none).play (fun _ => granting) [.call .start, .call (.send "now"), .settle 0,
      .call (.send "yes")] = some h ∧
    InTurn (fun _ => granting) (Scene.make errand none) [.start, .send "yes"] h ∧
    h.session.current.answers = ["yes"] := by
  obtain ⟨h, hplay, hheld⟩ := Option.map_eq_some_iff.mp (show ((Scene.make errand none).play
    (fun _ => granting) [.call .start, .call (.send "now"), .settle 0, .call (.send "yes")]).map
      (·.held.length) = some 0 by decide)
  have haccepted : (Scene.make errand none).accepted (fun _ => granting) [.call .start,
    .call (.send "now"), .settle 0, .call (.send "yes")] = [.start, .send "yes"] := by decide
  obtain ⟨hturn, -, hsaid⟩ := (play_inTurn errand_accepted rfl none (fun _ => granting) _
    (by decide)).2 h hplay (List.length_eq_zero_iff.mp hheld)
  rw [haccepted] at hturn hsaid
  exact ⟨h, hplay, hturn, hsaid⟩

end Dialogue.Scene
