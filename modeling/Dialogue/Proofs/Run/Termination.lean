import Dialogue.Proofs.Flow.Course
import Dialogue.Proofs.Run.Policy
import Dialogue.Proofs.Run.Walk

/-!
# Walks that come to an end

Where every cycle of unconditional ways that can be reached from a step is cut, whatever a run holds
and whatever its effects answer, a walk from there visits no step twice and ends at a step that asks
or ends the run, at a dead end, or with a failure (`continueFrom_terminates`).
-/
namespace Dialogue

open Run (Told Remarked)
open Dialogue.Flow (Course)

namespace Run

/-- A run that a walk goes on with until something stops it. -/
structure Live (r : Run) : Prop where
  status : r.status = .running
  cancelled : r.cancelled = false

variable {node : Node} {n : Nat} {r s : Run}

theorem Live.told (h : r.Live) (ht : Told node n r s) : s.Live :=
  ⟨ht.status.trans h.status, ht.follows.cancelled.trans h.cancelled⟩

theorem Live.not_terminal (h : r.Live) : r.isTerminal = false := by
  simp [isTerminal, h.status, Status.isTerminal]

end Run

namespace Engine

/-- How a run stands once a walk came to its last step. -/
inductive Rests (e : Engine) (node : Node) (r : Run) : Prop where
  | suspended (ha : node.Asks) (hs : r.status = .waiting)
  | finished (hk : node.kind? = some .finish) (hs : r.status = .completed)
  | deadEnd (hn : e.flow.next? node = none) (hs : r.status = .completed)
  /-- The step failed, or its effect did under the halting policy. -/
  | failed {x : LogEntry} (hs : r.status = .failed) (hx : r.log.getLast? = some x)
      (hid : x.nodeId = node.id) (hf : x.success = false)
      (hr : (∃ f : Failure, x.action = s!"Erro: {f.report}" ∧ r.failure = some f.report) ∨
        e.settings.failurePolicy = .halt)

/-- What a leg that visits `walked` after `path` comes to. -/
structure Ends (e : Engine) (origin : Node) (live : Prop) (path walked : List Node) (leg : Leg) :
    Prop where
  finite : leg.stop = .returned ∨ ∃ node request, leg.stop = .awaiting node request
  nodup : (path ++ walked).Nodup
  known : ∀ node ∈ walked, node ∈ e.flow.nodes
  awaiting : ∀ node request, leg.stop = .awaiting node request →
    e.flow.Course origin (path ++ walked) ∧ (path ++ walked).getLast? = some node ∧
      walked ≠ [] ∧ node.SeeksEffect ∧ (live → leg.run.Live)
  rests : leg.stop = .returned → live → ∀ last, (path ++ walked).getLast? = some last →
    e.Rests last leg.run

variable {e : Engine} {origin node : Node} {path walked : List Node} {run r : Run} {leg : Leg}
  {live : Prop}

theorem Rests.of_failAt (e : Engine) (node : Node) (run : Run) (f : Failure) :
    e.Rests node (run.failAt node f) :=
  .failed rfl (List.getLast?_concat ..) rfl rfl (.inl ⟨f, rfl, rfl⟩)

theorem Rests.released (h : e.Rests node r) : e.Rests node r.released := by
  cases h with
  | suspended ha hs => exact .suspended ha hs
  | finished hk hs => exact .finished hk hs
  | deadEnd hn hs => exact .deadEnd hn hs
  | failed hs hx hid hf hr => exact .failed hs hx hid hf hr

theorem Ends.after (h : Ends e origin live path walked leg) (events : List Event) :
    Ends e origin live path walked (leg.after events) :=
  ⟨h.finite, h.nodup, h.known, h.awaiting, h.rests⟩

/-- What a leg visits counts from an earlier point on the same course, too. -/
theorem Ends.append {more : List Node} (h : Ends e origin live (path ++ walked) more leg)
    (hw : ∀ node ∈ walked, node ∈ e.flow.nodes) : Ends e origin live path (walked ++ more) leg := by
  have hjoin : path ++ (walked ++ more) = path ++ walked ++ more := (List.append_assoc ..).symm
  refine ⟨h.finite, hjoin ▸ h.nodup, ?_, ?_, hjoin ▸ h.rests⟩
  · intro m hm
    rcases List.mem_append.mp hm with hm | hm
    · exact hw m hm
    · exact h.known m hm
  · intro asker request hstop
    obtain ⟨hcourse, hlast, hne, hs, hlive⟩ := h.awaiting asker request hstop
    rw [hjoin]
    exact ⟨hcourse, hlast, fun hnil => hne (List.append_eq_nil_iff.mp hnil).2, hs, hlive⟩

theorem Ends.of_returned (events : List Event) (hd : path.Nodup)
    (hr : live → ∀ last, path.getLast? = some last → e.Rests last run) :
    Ends e origin live path [] (.returned run events) := by
  refine ⟨.inl rfl, by rwa [List.append_nil], by simp, by simp [Leg.returned], ?_⟩
  intro _ hlive last hlast
  rw [List.append_nil] at hlast
  exact (hr hlive last hlast).released

theorem Ends.of_rests (events : List Event) (hd : (path ++ [node]).Nodup)
    (hr : live → e.Rests node run) :
    Ends e origin live (path ++ [node]) [] (.returned run events) := by
  refine .of_returned events hd fun hlive last hlast => ?_
  rw [List.getLast?_concat] at hlast
  cases hlast
  exact hr hlive

theorem endOfFlow_ends (hcut : e.flow.Cut origin) (hc : e.flow.Course origin path)
    (hn : e.flow.ahead path.length origin = none) (hl : live → run.Live) :
    Ends e origin live path [] (endOfFlow run) := by
  have hd := hcut.nodup_path hc
  have hrests : live → ∀ last, path.getLast? = some last →
      e.Rests last (run.say .system "Fluxo concluído (sem mais nós)" none).complete := by
    intro hlive last hlast
    obtain ⟨init, rfl⟩ := List.getLast?_eq_some_iff.mp hlast
    rw [hc.ahead_length] at hn
    have hopen : (run.say .system "Fluxo concluído (sem mais nós)" none).isTerminal = false :=
      (hl hlive).not_terminal
    refine .deadEnd hn ?_
    simp [Run.complete, hopen]
  unfold endOfFlow
  split
  · exact .of_returned _ hd hrests
  · rename_i hnot
    refine .of_returned _ hd fun hlive => ?_
    exact absurd ⟨(hl hlive).status, (hl hlive).cancelled⟩ hnot

theorem proceed_ends (hd : path.Nodup) (hl : live → r.Live) (events : List Event) {steps : Nat}
    (hw : Ends e origin live path ((e.stages steps (e.flow.next? node) r).map Stage.node)
      (e.walk steps (e.flow.next? node) r)) :
    Ends e origin live path ((beyond (e.stages steps) r (e.onward node)).map Stage.node)
      (proceed (e.walk steps) node r events (e.onward node)) := by
  simp only [proceed, beyond, onward, Bool.false_eq_true, if_false]
  split
  · rename_i hterminal
    refine .of_returned _ hd fun hlive => ?_
    rw [(hl hlive).not_terminal] at hterminal
    cases hterminal
  · exact hw.after events

theorem proceed_ends_of_terminal (hd : (path ++ [node]).Nodup) (ht : r.isTerminal = true)
    (hr : live → e.Rests node r) (events : List Event) (steps : Nat) :
    Ends e origin live (path ++ [node]) ((beyond (e.stages steps) r {}).map Stage.node)
      (proceed (e.walk steps) node r events {}) := by
  simp only [proceed, beyond, Bool.false_eq_true, if_false, ht, if_true]
  exact .of_rests _ hd hr

/-- A walk from a step ends, if it does so wherever that step is passed. -/
theorem visit_ends (hh : e.handlers = []) (hcut : e.flow.Cut origin) (ho : origin ∈ e.flow.nodes)
    (hc : e.flow.Course origin path) (hn : e.flow.ahead path.length origin = some node)
    {steps : Nat} (run : Run) (hl : live → run.Live)
    (hwalk : ∀ {r : Run}, e.flow.Course origin (path ++ [node]) → (live → r.Live) →
      Ends e origin live (path ++ [node])
        ((e.stages steps (e.flow.next? node) r).map Stage.node)
        (e.walk steps (e.flow.next? node) r)) :
    Ends e origin live path ((e.stages (steps + 1) (some node) run).map Stage.node)
      (e.walk (steps + 1) (some node) run) := by
  have hmem : ∀ m ∈ [node], m ∈ e.flow.nodes := by
    intro m hm
    rw [List.mem_singleton.mp hm]
    exact Flow.mem_of_ahead ho hn
  have hd := hcut.nodup hc hn
  have hattempt := attempt_attempted (unhandled hh node) (run.enter node.id)
  have hentered : live → (run.enter node.id).Live := fun hlive =>
    ⟨(hl hlive).status, (hl hlive).cancelled⟩
  simp only [walk, stages, visit]
  split
  · rename_i hcancelled
    refine .of_returned _ (hcut.nodup_path hc) fun hlive => ?_
    rw [(hl hlive).cancelled] at hcancelled
    cases hcancelled
  · generalize e.attempt node (run.enter node.id) = attempt at hattempt ⊢
    cases hattempt with
    | @onward r h hv hpass =>
        have htold : live → r.Live := fun hlive => (hentered hlive).told h
        exact (proceed_ends hd htold _ (hwalk (hc.snoc hn hpass) htold)).append hmem
    | waits h hv ha =>
        refine Ends.append (.of_rests _ hd fun hlive => ?_) hmem
        refine .suspended ha ?_
        simp [Run.suspend, ((hentered hlive).told h).status]
    | @completes r h hv hk =>
        refine (proceed_ends_of_terminal hd r.isTerminal_complete
          (fun hlive => ?_) _ _).append hmem
        refine .finished hk ?_
        rw [Run.complete_eq ((hentered hlive).told h).not_terminal]
    | @asking r request h hv hs hpass =>
        refine ⟨.inr ⟨node, request, rfl⟩, hd, hmem, ?_, by simp [Visit.caught]⟩
        rintro asker request' ⟨⟩
        exact ⟨hc.snoc hn hpass, List.getLast?_concat .., List.cons_ne_nil _ _, hs,
          fun hlive => (hentered hlive).told h⟩
    | @raised r failure h =>
        exact (proceed_ends_of_terminal hd rfl (fun _ => .of_failAt e node r failure) _ _).append
          hmem

/-- A walk that has steps enough for what is left of the flow ends. -/
theorem walk_ends (hh : e.handlers = []) (hcut : e.flow.Cut origin) (ho : origin ∈ e.flow.nodes)
    (hc : e.flow.Course origin path) {steps : Nat}
    (hsteps : e.flow.nodes.length < path.length + steps) (run : Run) (hl : live → run.Live) :
    Ends e origin live path
      ((e.stages steps (e.flow.ahead path.length origin) run).map Stage.node)
      (e.walk steps (e.flow.ahead path.length origin) run) := by
  -- on the bound; each step that the walk goes beyond makes the course one longer
  induction steps generalizing path run with
  | zero =>
      cases hn : e.flow.ahead path.length origin with
      | none => exact endOfFlow_ends hcut hc hn hl
      | some node =>
          have hlength := hcut.length_lt ho hc hn
          omega
  | succ steps ih =>
      cases hn : e.flow.ahead path.length origin with
      | none => exact endOfFlow_ends hcut hc hn hl
      | some node =>
          refine visit_ends hh hcut ho hc hn run hl fun {r} hcourse hlive => ?_
          have hsteps' : e.flow.nodes.length < (path ++ [node]).length + steps := by
            rw [List.length_append, List.length_singleton]
            omega
          have hrest := ih hcourse hsteps' r hlive
          rwa [hcourse.ahead_length] at hrest

theorem takeUp_ends (hh : e.handlers = []) (hcut : e.flow.Cut origin) (ho : origin ∈ e.flow.nodes)
    (hc : e.flow.Course origin path) (hlast : path.getLast? = some node) (hs : node.SeeksEffect)
    (request : EffectRequest) (outcome : EffectOutcome) (hl : live → run.Live) :
    Ends e origin live path ((e.stagesUpon node request outcome run).map Stage.node)
      (e.takeUp node request outcome run) := by
  obtain ⟨init, rfl⟩ := List.getLast?_eq_some_iff.mp hlast
  have hd := hcut.nodup_path hc
  have hserved := conclude_served e hs request outcome run
  unfold takeUp stagesUpon
  generalize e.conclude node request outcome run = left at hserved ⊢
  cases hserved with
  | @onward r result h =>
      have htold : live → r.Live := fun hlive => (hl hlive).told h.told
      have hsteps : e.flow.nodes.length < (init ++ [node]).length + e.bound := by
        unfold bound
        omega
      have hrest := walk_ends hh hcut ho hc hsteps r htold
      rw [hc.ahead_length] at hrest
      exact proceed_ends hd htold _ hrest
  | @halts r result reason h hf hr =>
      refine proceed_ends_of_terminal hd rfl (fun _ => ?_) _ _
      obtain ⟨x, hx, hid, -, -, hfalse⟩ := h.noted
      have hentry : (r.fail reason).log.getLast? = some x := by
        show r.log.getLast? = some x
        rw [hx, List.getLast?_concat]
      have hpolicy : e.settings.failurePolicy = .halt := by
        unfold haltsOn at hr
        split at hr
        · assumption
        · cases hr
      exact .failed rfl hentry hid hfalse (.inr hpolicy)
  | @breaks _ failure h =>
      exact proceed_ends_of_terminal hd rfl (fun _ => .of_failAt e node run failure) _ _

/-! ### The whole walk -/

/-- What becomes of a leg while a gateway serves the effects from a number on: the steps that are
visited after those of the leg, and the leg at the end of which the walk is over. -/
inductive Performs (e : Engine) (serve : Nat → EffectRequest → EffectOutcome) :
    Nat → Leg → List Node → Leg → Prop where
  | returned {n : Nat} {leg : Leg} (h : leg.stop = .returned) : Performs e serve n leg [] leg
  | served {n : Nat} {leg last : Leg} {node : Node} {request : EffectRequest} {more : List Node}
      (h : leg.stop = .awaiting node request)
      (hrest : Performs e serve (n + 1) (e.takeUp node request (serve n request) leg.run) more
        last) :
      Performs e serve n leg
        ((e.stagesUpon node request (serve n request) leg.run).map Stage.node ++ more) last

/-- A walk from a step is over after it visited certain steps, and leaves a run. -/
def Completes (e : Engine) (serve : Nat → EffectRequest → EffectOutcome) (node : Node) (run : Run)
    (visited : List Node) (left : Run) : Prop :=
  ∃ more last, Performs e serve 0 (e.continueFrom (some node) run) more last ∧
    visited = (e.stagesFrom (some node) run).map Stage.node ++ more ∧ left = last.run

variable {serve : Nat → EffectRequest → EffectOutcome}

theorem Ends.performs (hh : e.handlers = []) (hcut : e.flow.Cut origin)
    (ho : origin ∈ e.flow.nodes) (serve : Nat → EffectRequest → EffectOutcome) (k n : Nat)
    (h : Ends e origin live path walked leg)
    (hk : leg.stop = .returned ∨ e.flow.nodes.length < (path ++ walked).length + k) :
    ∃ more last, Performs e serve n leg more last ∧ last.stop = .returned ∧
      Ends e origin live path (walked ++ more) last := by
  -- on the steps that are left of the flow: each leg but the last visits one at least
  induction k generalizing n leg path walked with
  | zero =>
      rcases h.finite with hstop | ⟨node, request, hstop⟩
      · exact ⟨[], leg, .returned hstop, hstop, by rwa [List.append_nil]⟩
      · have hlength := hcut.length_le ho (h.awaiting node request hstop).1
        have hmore : e.flow.nodes.length < (path ++ walked).length + 0 := by
          rcases hk with hr | hk
          · simp [hstop] at hr
          · exact hk
        omega
  | succ k ih =>
      rcases h.finite with hstop | ⟨node, request, hstop⟩
      · exact ⟨[], leg, .returned hstop, hstop, by rwa [List.append_nil]⟩
      · obtain ⟨hc, hlast, hne, hs, hl⟩ := h.awaiting node request hstop
        have hnext := takeUp_ends hh hcut ho hc hlast hs request (serve n request) hl
        have hmore : e.flow.nodes.length < (path ++ walked).length + (k + 1) := by
          rcases hk with hr | hk
          · simp [hstop] at hr
          · exact hk
        obtain ⟨more, last, hperforms, hreturned, hends⟩ := ih (n + 1) hnext (by
          rcases hnext.finite with hr | ⟨asker, asked, hr⟩
          · exact .inl hr
          · have hpos := List.length_pos_iff.mpr (hnext.awaiting asker asked hr).2.2.1
            rw [List.length_append]
            omega)
        exact ⟨_, last, .served hstop hperforms, hreturned, hends.append h.known⟩

/-! ### Steps to spare

A walk that comes to its end is the same whatever steps it has to spare. -/

theorem proceed_congr {walk walk' : Option Node → Run → Leg}
    {stages stages' : Option Node → Run → List Stage}
    (hw : ∀ next r, (walk next r).stop ≠ .endless →
      walk' next r = walk next r ∧ stages' next r = stages next r)
    {events : List Event} {step : Step} (h : (proceed walk node run events step).stop ≠ .endless) :
    proceed walk' node run events step = proceed walk node run events step ∧
      beyond stages' run step = beyond stages run step := by
  unfold proceed at h
  unfold proceed beyond
  split
  · exact ⟨rfl, rfl⟩
  · rename_i hwait
    rw [if_neg hwait] at h
    split
    · exact ⟨rfl, rfl⟩
    · rename_i hopen
      rw [if_neg hopen] at h
      obtain ⟨hleg, hstages⟩ := hw step.next run h
      rw [hleg, hstages]
      exact ⟨rfl, rfl⟩

theorem walk_add (e : Engine) (steps k : Nat) (next : Option Node) (run : Run)
    (h : (e.walk steps next run).stop ≠ .endless) :
    e.walk (steps + k) next run = e.walk steps next run ∧
      e.stages (steps + k) next run = e.stages steps next run := by
  induction steps generalizing next run with
  | zero =>
      cases next with
      | none => cases k <;> exact ⟨rfl, rfl⟩
      | some node => exact absurd rfl h
  | succ steps ih =>
      rw [Nat.succ_add]
      cases next with
      | none => exact ⟨rfl, rfl⟩
      | some node =>
          simp only [walk, stages] at h ⊢
          split
          · exact ⟨rfl, rfl⟩
          · rename_i hlive
            rw [if_neg hlive] at h
            cases hvisit : e.visit node run with
            | asking => exact ⟨rfl, rfl⟩
            | done r events step =>
                rw [hvisit] at h
                obtain ⟨hleg, hstages⟩ := proceed_congr ih h
                exact ⟨hleg, congrArg _ hstages⟩

def roomy (e : Engine) (k : Nat) : Engine := { e with spare := k }

theorem Rests.of_roomy {k : Nat} (h : (e.roomy k).Rests node r) : e.Rests node r := by
  cases h with
  | suspended ha hs => exact .suspended ha hs
  | finished hk hs => exact .finished hk hs
  | deadEnd hn hs => exact .deadEnd hn hs
  | failed hs hx hid hf hr => exact .failed hs hx hid hf hr

theorem agrees_roomy (e : Engine) (k : Nat) : e.Agrees (e.roomy k) := ⟨rfl, rfl, rfl, rfl⟩

/-- A walk sees what it has to spare in its bound only. -/
theorem walk_roomy (e : Engine) (k steps : Nat) :
    (e.roomy k).walk steps = e.walk steps ∧ (e.roomy k).stages steps = e.stages steps :=
  ⟨(e.agrees_roomy k).walk steps, (e.agrees_roomy k).stages steps⟩

theorem walk_bound (e : Engine) (k : Nat) (next : Option Node) (run : Run)
    (h : ((e.roomy 0).walk (e.roomy 0).bound next run).stop ≠ .endless) :
    (e.roomy k).walk (e.roomy k).bound next run = (e.roomy 0).walk (e.roomy 0).bound next run ∧
      (e.roomy k).stages (e.roomy k).bound next run =
        (e.roomy 0).stages (e.roomy 0).bound next run := by
  have hbound : (e.roomy k).bound = (e.roomy 0).bound + k := by
    simp only [bound, roomy]
    omega
  rw [hbound, (walk_roomy e k _).1, (walk_roomy e k _).2, (walk_roomy e 0 _).1,
    (walk_roomy e 0 _).2]
  rw [(walk_roomy e 0 _).1] at h
  exact walk_add e _ k next run h

theorem continueFrom_roomy (k : Nat) {next : Option Node}
    (h : ((e.roomy 0).continueFrom next run).stop ≠ .endless) :
    (e.roomy k).continueFrom next run = (e.roomy 0).continueFrom next run ∧
      (e.roomy k).stagesFrom next run = (e.roomy 0).stagesFrom next run := by
  unfold continueFrom at h
  unfold continueFrom stagesFrom
  split
  · exact ⟨rfl, rfl⟩
  · rename_i hidle
    rw [if_neg hidle] at h
    exact walk_bound e k next _ h

theorem takeUp_roomy (k : Nat) {request : EffectRequest} {outcome : EffectOutcome}
    (h : ((e.roomy 0).takeUp node request outcome run).stop ≠ .endless) :
    (e.roomy k).takeUp node request outcome run = (e.roomy 0).takeUp node request outcome run ∧
      (e.roomy k).stagesUpon node request outcome run =
        (e.roomy 0).stagesUpon node request outcome run :=
  proceed_congr (walk_bound e k) h

theorem Performs.stop_ne {n : Nat} {more : List Node} {last : Leg}
    (h : Performs e serve n leg more last) : leg.stop ≠ .endless := by
  cases h with
  | returned h => simp [h]
  | served h => simp [h]

theorem Performs.roomy {n : Nat} {more : List Node} {last : Leg}
    (h : Performs (e.roomy 0) serve n leg more last) (k : Nat) :
    Performs (e.roomy k) serve n leg more last := by
  induction h with
  | returned h => exact .returned h
  | @served n leg last node request more h hrest ih =>
      obtain ⟨hleg, hstages⟩ := takeUp_roomy k hrest.stop_ne
      rw [← hleg] at ih
      rw [← hstages]
      exact .served h ih

theorem Completes.roomy {visited : List Node} {left : Run}
    (h : (e.roomy 0).Completes serve node run visited left) (k : Nat) :
    (e.roomy k).Completes serve node run visited left := by
  obtain ⟨more, last, hperforms, hvisited, hleft⟩ := h
  obtain ⟨hleg, hstages⟩ := continueFrom_roomy k hperforms.stop_ne
  refine ⟨more, last, ?_, ?_, hleft⟩
  · rw [hleg]
    exact hperforms.roomy k
  · rw [hstages]
    exact hvisited

/-! ### Every walk through a flow whose cycles are cut -/

theorem continueFrom_ends (hh : e.handlers = []) (hcut : e.flow.Cut node) (hn : node ∈ e.flow.nodes)
    (run : Run) : Ends e node (run.Live ∧ run.processing = false) []
      ((e.stagesFrom (some node) run).map Stage.node) (e.continueFrom (some node) run) := by
  unfold stagesFrom continueFrom
  split
  · exact ⟨.inl rfl, List.nodup_nil, by simp, by simp, by simp⟩
  · have hsteps : e.flow.nodes.length < ([] : List Node).length + e.bound := by
      unfold bound
      rw [List.length_nil]
      omega
    exact walk_ends hh hcut hn (.nil e.flow node) hsteps _ fun h => ⟨h.1.status, h.1.cancelled⟩

theorem stagesFrom_eq_cons (e : Engine) (node : Node) (hl : run.Live)
    (hp : run.processing = false) : ∃ rest, e.stagesFrom (some node) run = .visit node :: rest := by
  simp only [stagesFrom, hp, Bool.false_eq_true, if_false, bound, stages, hl.cancelled]
  split
  · exact ⟨_, rfl⟩
  · exact ⟨_, rfl⟩

/-- A walk from a step at which every cycle is cut comes to its end, whatever the run holds and the
gateway answers, without visiting a step twice; what it has to spare does not matter. -/
theorem continueFrom_terminates (ha : e.flow.Accepted) (hh : e.handlers = [])
    (hn : node ∈ e.flow.nodes) (hcut : e.flow.Cut node) (run : Run)
    (serve : Nat → EffectRequest → EffectOutcome) :
    ∃ visited left, (∀ spare, (e.roomy spare).Completes serve node run visited left) ∧
      visited ⊆ e.flow.nodes ∧ (visited.map (·.id)).Nodup ∧
      visited.length ≤ e.flow.nodes.length ∧
      (run.Live → run.processing = false → visited.head? = some node ∧
        ∃ last, visited.getLast? = some last ∧ e.Rests last left) := by
  have hfirst := continueFrom_ends (e := e.roomy 0) hh hcut hn run
  obtain ⟨more, last, hperforms, hstop, hends⟩ := hfirst.performs (e := e.roomy 0) hh hcut hn serve
    (e.flow.nodes.length + 1) 0 (.inr (Nat.lt_add_left _ (Nat.lt_succ_self _)))
  have hnodup := hends.nodup
  refine ⟨_, last.run, fun spare => Completes.roomy ⟨more, last, hperforms, rfl, rfl⟩ spare,
    hends.known, ?_, (List.subperm_of_subset hnodup hends.known).length_le, ?_⟩
  · exact hnodup.map_on fun m hm m' hm' hid => List.inj_on_of_nodup_map ha.nodup_ids
      (hends.known m hm) (hends.known m' hm') hid
  · intro hl hp
    obtain ⟨rest, hrest⟩ := stagesFrom_eq_cons (e.roomy 0) node hl hp
    have hrests := hends.rests hstop ⟨hl, hp⟩
    rw [hrest] at hrests ⊢
    refine ⟨rfl, _, List.getLast?_eq_some_getLast (List.cons_ne_nil _ _), ?_⟩
    exact (hrests _ (List.getLast?_eq_some_getLast (List.cons_ne_nil _ _))).of_roomy

end Engine

/-! A flow that updates a property again after each answer. -/

namespace Survey

def entry : Node := ⟨"entry", "start", "", .start ⟨"first_message", [], none⟩⟩

def update : Node :=
  ⟨"update", "action", "", .action ⟨updateVista, none, .null, [], none, []⟩⟩

def question : Node := ⟨"question", "input", "", .input ⟨"", "answer", .text⟩⟩

def engine : Engine where
  flow := {
    id := "survey", name := "Survey", description := "", department := none
    nodes := [entry, update, question]
    edges := [
      ⟨none, "entry", "update", none, none⟩,
      ⟨none, "update", "question", none, none⟩,
      ⟨none, "question", "update", none, none⟩] }
  settings := default

theorem cut {origin : Node} (ho : origin ∈ engine.flow.nodes) : engine.flow.Cut origin := by
  intro i node hn p hp hround
  have hstops : question.Stops := .inl (.inl rfl)
  have hmem : node ∈ [entry, update, question] := Flow.mem_of_ahead ho hn
  simp only [List.mem_cons, List.not_mem_nil, or_false] at hmem
  rcases hmem with rfl | rfl | rfl
  · exact ⟨2, question, by decide, hstops⟩
  · exact ⟨1, question, by decide, hstops⟩
  · exact ⟨0, question, rfl, hstops⟩

/-- The flow goes round, and yet a walk from its start ends. -/
theorem survey_terminates : engine.flow.ahead 2 update = some update ∧ ∃ visited left,
    engine.Completes (fun _ _ => .ok { success := true }) entry
        { id := "run-0", status := .running } visited left ∧
      visited.head? = some entry ∧ (visited.map (·.id)).Nodup ∧
      ∃ last, visited.getLast? = some last ∧ engine.Rests last left := by
  have hmem : entry ∈ engine.flow.nodes := List.mem_cons_self
  obtain ⟨visited, left, hcompletes, -, hnodup, -, hlive⟩ :=
    Engine.continueFrom_terminates (e := engine) rfl rfl hmem (cut hmem)
      { id := "run-0", status := .running } fun _ _ => .ok { success := true }
  obtain ⟨hhead, hlast⟩ := hlive ⟨rfl, rfl⟩ rfl
  exact ⟨by decide, visited, left, hcompletes 0, hhead, hnodup, hlast⟩

end Survey
end Dialogue
