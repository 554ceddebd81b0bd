import Dialogue.Proofs.Flow.Graph
import Dialogue.Run.Visit

/-!
# What a run is told

The processing of a step adds to the transcript and to the log and may bind a variable (`Told`);
the rest of a run moves only by its transitions, so what none of these breaks lasts (`Lasting`): a
run keeps its id, and once started it stays so (`Follows`). Nothing but an answer adds to what the
contact has said (`answers`).
-/
namespace Dialogue.Run

/-- What the contact has said. -/
def answers (r : Run) : List String :=
  (r.messages.filter (·.speaker = .user)).map (·.content)

/-- `r'` is `r` after `n` entries were noted at a step and things were said there. -/
structure Told (node : Node) (n : Nat) (r r' : Run) : Prop where
  frame : r' = { r with vars := r'.vars, messages := r'.messages, log := r'.log }
  said : ∃ ms, r'.messages = r.messages ++ ms ∧ ∀ m ∈ ms, m.speaker ≠ .user
  noted : ∃ es, r'.log = r.log ++ es ∧ es.length = n ∧ ∀ x ∈ es, x.nodeId = node.id

namespace Told

variable {node : Node} {n : Nat} {r s t : Run}

theorem refl (node : Node) (r : Run) : Told node 0 r r :=
  ⟨rfl, ⟨[], by simp⟩, ⟨[], by simp⟩⟩

theorem say (h : Told node n r s) {speaker : Speaker} (hs : speaker ≠ .user) (content : String)
    (nodeId : Option String) : Told node n r (s.say speaker content nodeId) := by
  obtain ⟨ms, hms, hall⟩ := h.said
  refine ⟨?_, ⟨ms ++ [⟨speaker, content, nodeId, .midnight⟩], ?_, ?_⟩, h.noted⟩
  · rw [h.frame]
    rfl
  · simp only [Run.say, hms, List.append_assoc]
  · intro m hm
    rcases List.mem_append.mp hm with hm | hm
    · exact hall m hm
    · rw [List.mem_singleton.mp hm]
      exact hs

theorem note (h : Told node n r s) (action : String) (success : Bool) (input output : Json) :
    Told node (n + 1) r (s.note node action success input output) := by
  obtain ⟨es, hes, hlen, hall⟩ := h.noted
  refine ⟨?_, h.said, ⟨es ++ [⟨node.id, node.type, node.label, action, input, output, .zero,
    success⟩], ?_, by simp [hlen], ?_⟩⟩
  · rw [h.frame]
    rfl
  · simp only [Run.note, hes, List.append_assoc]
  · intro x hx
    rcases List.mem_append.mp hx with hx | hx
    · exact hall x hx
    · rw [List.mem_singleton.mp hx]

theorem bind (h : Told node n r s) {name : String} {value : Json}
    (hv : s.setVariable? name value = .ok t) : Told node n r t := by
  unfold setVariable? at hv
  split at hv
  · injection hv with hv
    subst hv
    refine ⟨?_, h.said, h.noted⟩
    rw [h.frame]
  · cases hv

theorem failAt (h : Told node n r s) (f : Failure) :
    ∃ t, Told node (n + 1) r t ∧ s.failAt node f = t.fail f.report :=
  ⟨_, (h.note s!"Erro: {f.report}" false .null .null).say (by decide) _ _, rfl⟩

theorem status (h : Told node n r s) : s.status = r.status := by rw [h.frame]

theorem current (h : Told node n r s) : s.current = r.current := by rw [h.frame]

theorem failure (h : Told node n r s) : s.failure = r.failure := by rw [h.frame]

theorem visited (h : Told node n r s) : s.visited = r.visited := by rw [h.frame]

theorem processing (h : Told node n r s) : s.processing = r.processing := by rw [h.frame]

end Told

theorem isTerminal_complete (r : Run) : r.complete.isTerminal = true := by
  unfold complete
  split
  · assumption
  · rfl

/-- `r'` is the run `r` at a later moment. -/
structure Follows (r r' : Run) : Prop where
  id : r'.id = r.id
  cancelled : r'.cancelled = r.cancelled
  started : r.status ≠ .idle → r'.status ≠ .idle

namespace Follows

variable {r s t : Run}

theorem refl (r : Run) : Follows r r := ⟨rfl, rfl, fun hr => hr⟩

theorem trans (h : Follows r s) (h' : Follows s t) : Follows r t :=
  ⟨h'.id.trans h.id, h'.cancelled.trans h.cancelled, fun hr => h'.started (h.started hr)⟩

theorem enter (r : Run) (id : String) : Follows r (r.enter id) := ⟨rfl, rfl, fun hr => hr⟩

theorem say (r : Run) (speaker : Speaker) (content : String) (nodeId : Option String) :
    Follows r (r.say speaker content nodeId) := ⟨rfl, rfl, fun hr => hr⟩

theorem suspend (r : Run) : Follows r r.suspend := by
  unfold Run.suspend
  split
  · exact ⟨rfl, rfl, fun _ => (by decide : Status.waiting ≠ .idle)⟩
  · exact .refl r

theorem complete (r : Run) : Follows r r.complete := by
  unfold Run.complete
  split
  · exact .refl r
  · exact ⟨rfl, rfl, fun _ => (by decide : Status.completed ≠ .idle)⟩

theorem fail (r : Run) (error : String) : Follows r (r.fail error) :=
  ⟨rfl, rfl, fun _ => (by decide : Status.failed ≠ .idle)⟩

end Follows

theorem Told.follows {node : Node} {n : Nat} {r s : Run} (h : Told node n r s) : Follows r s :=
  ⟨by rw [h.frame], by rw [h.frame], fun hr => h.status.symm ▸ hr⟩

/-- A relation of a run to itself at a later moment that no transition breaks. -/
structure Lasting (R : Run → Run → Prop) : Prop where
  refl (r : Run) : R r r
  trans {r s t : Run} (h : R r s) (h' : R s t) : R r t
  enter (r : Run) (id : String) : R r (r.enter id)
  say (r : Run) (speaker : Speaker) (content : String) (nodeId : Option String) :
    R r (r.say speaker content nodeId)
  told {node : Node} {n : Nat} {r s : Run} (h : Told node n r s) : R r s
  suspend (r : Run) : R r r.suspend
  complete (r : Run) : R r r.complete
  fail (r : Run) (error : String) : R r (r.fail error)
  process (r : Run) (processing : Bool) : R r { r with processing := processing }

theorem Follows.lasting : Lasting Follows where
  refl := .refl
  trans := .trans
  enter := .enter
  say := .say
  told := Told.follows
  suspend := .suspend
  complete := .complete
  fail := .fail
  process _ _ := ⟨rfl, rfl, fun hr => hr⟩

/-- Nothing that was noted is lost or comes to stand elsewhere. -/
def Grows (r r' : Run) : Prop := r.log <+: r'.log

theorem Grows.of_log {r s : Run} (h : s.log = r.log) : Grows r s := ⟨[], by rw [h, List.append_nil]⟩

theorem Grows.lasting : Lasting Grows where
  refl _ := .of_log rfl
  trans := List.IsPrefix.trans
  enter _ _ := .of_log rfl
  say _ _ _ _ := .of_log rfl
  told h := by
    obtain ⟨es, hes, -⟩ := h.noted
    exact ⟨es, hes.symm⟩
  suspend r := .of_log (by unfold Run.suspend; split <;> rfl)
  complete r := .of_log (by unfold Run.complete; split <;> rfl)
  fail _ _ := .of_log rfl
  process _ _ := .of_log rfl

/-- Nothing that was said is lost or comes to stand elsewhere. -/
def Speaks (r r' : Run) : Prop := r.messages <+: r'.messages

theorem Speaks.of_messages {r s : Run} (h : s.messages = r.messages) : Speaks r s :=
  ⟨[], by rw [h, List.append_nil]⟩

theorem Speaks.lasting : Lasting Speaks where
  refl _ := .of_messages rfl
  trans := List.IsPrefix.trans
  enter _ _ := .of_messages rfl
  say _ _ _ _ := List.prefix_append _ _
  told h := by
    obtain ⟨ms, hms, -⟩ := h.said
    exact ⟨ms, hms.symm⟩
  suspend r := .of_messages (by unfold Run.suspend; split <;> rfl)
  complete r := .of_messages (by unfold Run.complete; split <;> rfl)
  fail _ _ := .of_messages rfl
  process _ _ := .of_messages rfl

/-! ### What the contact has said -/

variable {node : Node} {n : Nat} {r s : Run}

@[simp] theorem answers_suspend (r : Run) : r.suspend.answers = r.answers := by
  unfold suspend
  split <;> rfl

@[simp] theorem answers_complete (r : Run) : r.complete.answers = r.answers := by
  unfold complete
  split <;> rfl

theorem answers_say_of_ne (r : Run) {speaker : Speaker} (hs : speaker ≠ .user) (content : String)
    (nodeId : Option String) : (r.say speaker content nodeId).answers = r.answers := by
  simp [answers, say, List.filter_append, hs]

theorem answers_say_user (r : Run) (text : String) (nodeId : Option String) :
    (r.say .user text nodeId).answers = r.answers ++ [text] := by
  simp [answers, say, List.filter_append]

theorem Told.answers (h : Told node n r s) : s.answers = r.answers := by
  obtain ⟨ms, hms, hall⟩ := h.said
  have hnone : ms.filter (·.speaker = .user) = [] := by
    rw [List.filter_eq_nil_iff]
    intro m hm
    simpa using hall m hm
  simp only [Run.answers, hms, List.filter_append, hnone, List.append_nil]

end Dialogue.Run
