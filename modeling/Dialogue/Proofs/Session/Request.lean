import Dialogue.Proofs.Run.Request
import Dialogue.Proofs.Session.Tracking

/-!
# What a session has asked for

Whatever the schedule, an operation that is held waits for the outcome of one of the requests that
were made, and that request is its step's (`Requests.kept`). So nothing keeps its step from being
concluded where the gateway tells the steps of the flow what has a text (`Requests.obstacle?`).
-/
namespace Dialogue

namespace Session

variable {e : Engine}

theorem opening_requests (e : Engine) (run : Run) : (opening e run).Requests e := by
  apply Leg.Requests.after
  split
  · exact Leg.requests_of_returned rfl
  · exact e.continueFrom_requests _ _

theorem reply_requests (e : Engine) (run : Run) (text : String) :
    (reply e run text).Requests e := by
  unfold reply
  split
  · exact Leg.requests_of_returned rfl
  · apply Leg.Requests.after
    split
    · exact e.continueFrom_requests _ _
    · exact Leg.requests_of_returned rfl
    · exact Leg.requests_of_returned rfl

end Session

namespace Scene

variable {serve : Serving} {e : Engine} {h h' : Scene} {cue : Cue} {s : Session}
  {held : List Held} {leg : Leg}

theorem Opens.requests (ho : h.Opens serve cue s held leg) : leg.Requests h.session.engine := by
  cases ho with
  | start hidle => exact Session.opening_requests _ _
  | send hf => exact Session.reply_requests _ _ _
  | settle hw hown => exact Engine.takeUp_requests _ _ _ _ _

/-- What the steps of an engine have asked for. An operation that is held waits for the outcome of
one of the requests, by its number. -/
structure Requests (e : Engine) (h : Scene) : Prop extends Tracked e h where
  made : ∀ r ∈ h.session.requests, ∃ node run, e.Asking node run r
  placed : ∀ w ∈ h.held, h.session.requests[w.number]? = some w.pending.request
  asked : ∀ w ∈ h.held, ∃ run, e.Asking w.pending.node run w.pending.request

theorem Requests.make (e : Engine) (store : Option RunStore) : (Scene.make e store).Requests e where
  toTracked := .make e store
  made := by simp [Scene.make, Session.make]
  placed := by simp [Scene.make]
  asked := by simp [Scene.make]

theorem Moves.requests_extend (hm : h.Moves serve cue h') :
    h.session.requests <+: h'.session.requests := by
  cases hm with
  | refused => exact List.prefix_rfl
  | reset => exact List.prefix_rfl
  | returned ho hr =>
      rw [Session.persist_requests, ho.frame]
      exact List.prefix_rfl
  | asks ho hr =>
      rw [ho.frame]
      exact List.prefix_append _ _
  | drained hw hrun => exact List.prefix_rfl

theorem Requests.kept (hq : h.Requests e) (hl : e.Loyal) (hm : h.Moves serve cue h') :
    h'.Requests e := by
  have ht := hq.toTracked.kept hl hm
  have hold : ∀ w ∈ h.held, h'.session.requests[w.number]? = some w.pending.request := by
    intro w hw
    obtain ⟨more, hmore⟩ := hm.requests_extend
    have hnumber := hq.placed w hw
    rw [← hmore, List.getElem?_append_left (List.getElem?_eq_some_iff.mp hnumber).1]
    exact hnumber
  cases hm with
  | refused => exact hq
  | reset => exact ⟨ht, hq.made, hold, hq.asked⟩
  | returned ho hr =>
      refine ⟨ht, ?_, fun w hw => hold w (ho.held_sublist.subset hw),
        fun w hw => hq.asked w (ho.held_sublist.subset hw)⟩
      rw [Session.persist_requests, ho.frame]
      exact hq.made
  | asks ho hr =>
      obtain ⟨run, hrequest⟩ := ho.requests _ _ hr
      rw [hq.engine] at hrequest
      refine ⟨ht, ?_, ?_, ?_⟩
      · rw [ho.frame]
        intro r hmem
        rcases List.mem_append.mp hmem with hmem | hmem
        · exact hq.made r hmem
        · exact List.mem_singleton.mp hmem ▸ ⟨_, run, hrequest⟩
      · intro w hw
        rcases List.mem_append.mp hw with hw | hw
        · exact hold w (ho.held_sublist.subset hw)
        · rw [List.mem_singleton.mp hw]
          exact List.getElem?_concat_length
      · intro w hw
        rcases List.mem_append.mp hw with hw | hw
        · exact hq.asked w (ho.held_sublist.subset hw)
        · rw [List.mem_singleton.mp hw]
          exact ⟨run, hrequest⟩
  | drained hw hrun =>
      have hsub := List.eraseIdx_sublist h.held
      exact ⟨ht, hq.made, fun w hw => hold w ((hsub _).subset hw),
        fun w hw => hq.asked w ((hsub _).subset hw)⟩

end Scene

/-- The updates that the steps of an engine's flow ask for come to what can be told. -/
def Serving.Tells (serve : Serving) (e : Engine) : Prop :=
  ∀ n, ∀ node ∈ e.flow.nodes, ∀ run request, e.Asking node run request →
    request.effect = updateVista → Tellable e.mode (serve n request)

theorem Scene.Requests.obstacle? {e : Engine} {serve : Serving} {h : Scene} (hq : h.Requests e)
    (htells : serve.Tells e) {w : Held} (hw : w ∈ h.held) (hn : w.pending.node ∈ e.flow.nodes)
    {result : EffectResult} (hresult : w.outcome serve = .ok result) :
    e.obstacle? w.pending.node (.ok result) = none := by
  obtain ⟨run, hasking⟩ := hq.asked w hw
  have htellable := htells w.number _ hn _ _ hasking
  rw [Held.outcome] at hresult
  rw [hresult] at htellable
  generalize w.pending.request = request at hasking htellable
  cases hasking with
  | vista hc => exact Engine.obstacle?_of_tellable _ (htellable rfl)
  | integration hc => simp [Engine.obstacle?, hc]

end Dialogue
