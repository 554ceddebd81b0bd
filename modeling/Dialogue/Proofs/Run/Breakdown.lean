import Dialogue.Proofs.Run.Lifecycle

/-!
# Steps that break down

Under handlers of the host that only add to the transcript and to the log, a walk that comes to a
step which cannot be carried out ends there (`walk_broken`). The run fails with what was reported,
and keeps the variables and the steps that it had when the step began.
-/
namespace Dialogue

/-- A step that could not be carried out: the run when its processing began, and where that broke
off. -/
structure Breakdown where
  node : Node
  before : Run
  raised : Raised

namespace Breakdown

def report (b : Breakdown) : String := b.raised.failure.report

/-- How the log tells of it. -/
def entry (b : Breakdown) : LogEntry :=
  ⟨b.node.id, b.node.type, b.node.label, s!"Erro: {b.report}", .null, .null, .zero, false⟩

/-- How the transcript tells of it. -/
def line (b : Breakdown) : Message :=
  ⟨.system, s!"Erro no nó \x27{b.node.label}\x27: {b.report}", some b.node.id, .midnight⟩

/-- What a built-in step has added by the time it breaks down: one message at most, where a value
has no text, and otherwise nothing. -/
def Foreword (b : Breakdown) (ms : List Message) (es : List LogEntry) : Prop :=
  es = [] ∧ (ms = [] ∨ (∃ t, b.raised.failure = .unsayable t) ∧
    ∃ speaker text, ms = [⟨speaker, text, some b.node.id, .midnight⟩])

/-- What a step that broke down leaves of a run. The messages and entries `ms` and `es` are what it
had added before it gave up. -/
structure Leaves (b : Breakdown) (ms : List Message) (es : List LogEntry) (r : Run) : Prop where
  id : r.id = b.before.id
  status : r.status = .failed
  failure : r.failure = some b.report
  current : r.current = none
  processing : r.processing = false
  vars : r.vars = b.before.vars
  visited : r.visited = b.before.visited
  messages : r.messages = b.before.messages ++ ms ++ [b.line]
  log : r.log = b.before.log ++ es ++ [b.entry]

end Breakdown

namespace Leg

/-- A leg that ends where a step broke down. -/
structure Broken (e : Engine) (b : Breakdown) (leg : Leg) : Prop where
  stop : leg.stop = .returned
  leaves : ∃ ms es, b.Leaves ms es leg.run ∧
    (Bindings.get? b.node.type e.handlers = none → b.Foreword ms es)

variable {e : Engine} {b : Breakdown} {leg : Leg}

theorem Broken.after (h : leg.Broken e b) (events : List Event) : (leg.after events).Broken e b :=
  ⟨h.stop, h.leaves⟩

end Leg

namespace Engine

/-- Where the walk that follows a step breaks down. -/
def thereafter (walk : Option Node → Run → Option Breakdown) (run : Run) (step : Step) :
    Option Breakdown :=
  if step.wait then none else if run.isTerminal then none else walk step.next run

/-- Where a walk breaks down. -/
def breakdown? (e : Engine) : Nat → Option Node → Run → Option Breakdown
  | _, none, _ => none
  | 0, some _, _ => none
  | steps + 1, some node, run =>
    if run.cancelled then none
    else match e.attempt node (run.enter node.id) with
      | .error raised => some ⟨node, run.enter node.id, raised⟩
      | .ok (.asking _ _) => none
      | .ok (.done run _ step) => thereafter (e.breakdown? steps) run step

def breakdownFrom? (e : Engine) (node : Option Node) (run : Run) : Option Breakdown :=
  if run.processing then none else e.breakdown? e.bound node { run with processing := true }

/-- Where a walk breaks down that waited for an effect; a gateway may give up itself, and a success
may be one that cannot be told. -/
def breakdownUpon? (e : Engine) (node : Node) (request : EffectRequest) (outcome : EffectOutcome)
    (run : Run) : Option Breakdown :=
  match e.serve node request outcome run with
  | .error f => some ⟨node, run, ⟨run, f⟩⟩
  | .ok (run, step) => thereafter (e.breakdown? e.bound) run step

variable {e : Engine} {node : Node} {run : Run} {b : Breakdown} {events : List Event} {step : Step}

/-- Where a step raises, nothing is bound, and no step but itself is entered. -/
theorem attempt_raised (ha : e.Additive) {raised : Raised}
    (h : e.attempt node run = .error raised) :
    ∃ ms es, raised.run = run.extended ms es ∧
      (Bindings.get? node.type e.handlers = none →
        Breakdown.Foreword ⟨node, run, raised⟩ ms es) := by
  cases hh : Bindings.get? node.type e.handlers with
  | none =>
      have hattempt := attempt_attempted hh run
      rw [h] at hattempt
      cases hattempt with
      | raised hfoiled =>
          cases hfoiled with
          | silent f => exact ⟨[], [], by simp [Run.extended], fun _ => ⟨rfl, .inl rfl⟩⟩
          | @said speaker hs text t =>
              exact ⟨[⟨speaker, text, some node.id, .midnight⟩], [],
                by simp [Run.extended, Run.say],
                fun _ => ⟨rfl, .inr ⟨⟨t, rfl⟩, speaker, text, rfl⟩⟩⟩
  | some handler =>
      obtain ⟨ms, es, hadds⟩ := ha _ _ hh node run
      simp only [attempt, hh, visitHandled] at h
      generalize handler e.flow node run = handled at hadds h
      obtain ⟨r, reply⟩ := handled
      cases reply with
      | nothing => cases h
      | step s => cases h
      | value kind =>
          cases h
          exact ⟨ms, es, hadds, by simp⟩
      | raised f =>
          cases h
          exact ⟨ms, es, hadds, by simp⟩

theorem failAt_broken {raised : Raised} {ms : List Message} {es : List LogEntry}
    (hr : raised.run = run.extended ms es)
    (hn : Bindings.get? node.type e.handlers = none →
      Breakdown.Foreword ⟨node, run, raised⟩ ms es) (events : List Event) :
    (Leg.returned (raised.run.failAt node raised.failure) events).Broken e ⟨node, run, raised⟩ := by
  refine ⟨rfl, ms, es, ?_, hn⟩
  constructor <;> simp [Leg.returned, Run.released, Run.failAt, Run.fail, Run.failBy, Run.say,
    Run.note, hr, Run.extended, Breakdown.report, Breakdown.line, Breakdown.entry]

theorem proceed_broken {walk : Option Node → Run → Leg}
    {breaks : Option Node → Run → Option Breakdown}
    (hw : ∀ next r, breaks next r = some b → (walk next r).Broken e b)
    (h : thereafter breaks run step = some b) (events : List Event) :
    (proceed walk node run events step).Broken e b := by
  unfold thereafter at h
  unfold proceed
  split at h
  · cases h
  · rename_i hwait
    rw [if_neg hwait]
    split at h
    · cases h
    · rename_i hopen
      rw [if_neg hopen]
      exact (hw step.next run h).after events

theorem walk_broken (ha : e.Additive) (steps : Nat) (next : Option Node) (run : Run)
    (h : e.breakdown? steps next run = some b) : (e.walk steps next run).Broken e b := by
  induction steps generalizing next run with
  | zero => cases next <;> cases h
  | succ steps ih =>
      cases next with
      | none => cases h
      | some node =>
          simp only [breakdown?] at h
          simp only [walk, visit]
          split at h
          · cases h
          · rename_i hlive
            rw [if_neg hlive]
            cases hattempt : e.attempt node (run.enter node.id) with
            | error raised =>
                rw [hattempt] at h
                cases h
                obtain ⟨ms, es, hr, hn⟩ := attempt_raised ha hattempt
                have hterminal : (raised.run.failAt node raised.failure).isTerminal = true := rfl
                simp only [Visit.caught, Visit.failed, proceed, Bool.false_eq_true, if_false,
                  hterminal, if_true]
                exact failAt_broken hr hn _
            | ok visit =>
                rw [hattempt] at h
                cases visit with
                | asking r request => cases h
                | done r events step => exact proceed_broken ih h events

theorem continueFrom_broken (ha : e.Additive) {next : Option Node}
    (h : e.breakdownFrom? next run = some b) : (e.continueFrom next run).Broken e b := by
  unfold breakdownFrom? at h
  unfold continueFrom
  split at h
  · cases h
  · rename_i hidle
    rw [if_neg hidle]
    exact walk_broken ha e.bound next _ h

theorem takeUp_broken (ha : e.Additive) {request : EffectRequest} {outcome : EffectOutcome}
    (h : e.breakdownUpon? node request outcome run = some b) :
    (e.takeUp node request outcome run).Broken e b := by
  unfold breakdownUpon? at h
  unfold takeUp conclude
  cases hserve : e.serve node request outcome run with
  | error f =>
      rw [hserve] at h
      cases h
      have hkept : (⟨run, f⟩ : Raised).run = run.extended [] [] := by simp [Run.extended]
      exact failAt_broken hkept (fun _ => ⟨rfl, .inl rfl⟩) _
  | ok served =>
      rw [hserve] at h
      exact proceed_broken (walk_broken ha e.bound) h _

end Engine
end Dialogue
