import Dialogue.Proofs.Flow.Resolution
import Dialogue.Proofs.Run.Wording

/-!
# The type of a step and its configuration

The configuration of a step is read as that of the kind which its type names without the blanks
around it, but everything else about the step goes by the type as it is. The two agree just when
the type is not the name of a kind with blanks around it (`check_tagged`).
-/
namespace Dialogue

theorem NodeKind.trim_name (k : NodeKind) : Text.trim k.name = k.name := by
  cases k <;> decide

theorem NodeKind.ofName?_eq_some_iff {name : String} {k : NodeKind} :
    ofName? name = some k ↔ name = k.name := by
  constructor
  · intro h
    exact (name_of_ofName? h).symm
  · rintro rfl
    exact ofName?_name k

namespace NodeConfig

theorem kind?_of_check {kind : NodeKind} {v : Json} {c : NodeConfig} (h : check kind v = .ok c) :
    c.kind? = some kind := by
  have hmapped {α : Type} {x : Checked α} {f : α → NodeConfig} (hx : f <$> x = .ok c) :
      ∃ a, c = f a := by
    cases x with
    | error issues => cases hx
    | ok a => exact ⟨a, (Except.ok.inj hx).symm⟩
  cases kind <;> obtain ⟨a, rfl⟩ := hmapped h <;> rfl

end NodeConfig

namespace Node
open Check

variable {v : Json} {n : Node} {fs : Fields}

/-- A type that is the name of a kind but for blanks around it. -/
def Padded (n : Node) : Prop :=
  n.type ≠ Text.trim n.type ∧ ∃ k : NodeKind, Text.trim n.type = k.name

/-- The configuration that the fields of a step give; none and null are as good as an empty one. -/
def configGiven (fs : Fields) : Json :=
  match Bindings.get? "config" (flatten fs) with
  | none | some .null => .object []
  | some v => v

theorem get?_type_completed (type : String) (fs : Fields) :
    Bindings.get? "type" (completed type fs) = Bindings.get? "type" fs := by
  unfold completed
  rw [Bindings.get?_put_ne (by decide), Bindings.get?_put_ne (by decide)]

theorem get?_config_completed (type : String) (fs : Fields) :
    Bindings.get? "config" (completed type (flatten fs)) = some (configGiven fs) := by
  unfold completed
  rw [Bindings.get?_put_self]
  rfl

private theorem get?_of_requiredIn {whole : Given} {name s : String} {fs : Fields}
    (h : requiredIn whole [name] text fs = .ok s) : Bindings.get? name fs = some (.str s) := by
  unfold requiredIn pick at h
  cases hget : Bindings.get? name fs with
  | none => simp [hget, Checked.refuse, Checked.under] at h
  | some v =>
      cases v with
      | str t => simpa [hget, text, Checked.under] using h
      | _ => simp [hget, text, Checked.fault, Checked.refuse, Checked.under] at h

private theorem parts_of_made {whole : Given} {config : NodeConfig}
    (h : (((mk <$> requiredIn whole ["id"] text fs).both (requiredIn whole ["type"] text fs)).both
      (requiredIn whole ["label"] text fs)).both (.ok config) = .ok n) :
    Bindings.get? "type" fs = some (.str n.type) ∧ n.config = config := by
  obtain ⟨labelled, c, hlabelled, hc, hn⟩ := Checked.both_eq_ok.mp h
  obtain ⟨typed, label, htyped, -, hlabel⟩ := Checked.both_eq_ok.mp hlabelled
  obtain ⟨named, type, hnamed, htype, hmake⟩ := Checked.both_eq_ok.mp htyped
  cases hid : requiredIn whole ["id"] text fs with
  | error issues =>
      rw [hid] at hnamed
      cases hnamed
  | ok id =>
      rw [hid] at hnamed
      cases hnamed
      cases hc
      subst hmake hlabel hn
      exact ⟨get?_of_requiredIn htype, rfl⟩

theorem exists_of_check (h : check v = .ok n) : ∃ fs, v = .object fs ∧
    match NodeKind.ofName? (Text.trim n.type) with
    | some kind => NodeConfig.check kind (configGiven fs) = .ok n.config
    | none => n.config = .raw (configGiven fs) := by
  cases v with
  | object fs =>
      have htype {config : NodeConfig}
          (hparts : Bindings.get? "type" (completed (typeText (flatten fs)) (flatten fs)) =
            some (.str n.type) ∧ n.config = config) :
          typeText (flatten fs) = Text.trim n.type ∧ n.config = config := by
        rw [get?_type_completed] at hparts
        rw [typeText, hparts.1]
        exact ⟨rfl, hparts.2⟩
      refine ⟨fs, rfl, ?_⟩
      simp only [check, model] at h
      split at h
      · cases h
      · simp only [assembled] at h
        split at h
        · rename_i kind hkind
          obtain ⟨config, hconfig, hmade⟩ := exists_of_bind h
          obtain ⟨htrim, rfl⟩ := htype (parts_of_made hmade)
          rw [get?_config_completed] at hconfig
          rw [← htrim, hkind]
          exact hconfig
        · rename_i hkind
          obtain ⟨config, hconfig, hmade⟩ := exists_of_bind h
          obtain ⟨htrim, rfl⟩ := htype (parts_of_made hmade)
          rw [get?_config_completed] at hconfig
          rw [← htrim, hkind]
          exact (Except.ok.inj hconfig).symm
  | _ => simp [check, model, Checked.fault, Checked.refuse] at h

theorem kind?_config_of_check (h : check v = .ok n) :
    n.config.kind? = NodeKind.ofName? (Text.trim n.type) := by
  obtain ⟨fs, rfl, hconfig⟩ := exists_of_check h
  cases hkind : NodeKind.ofName? (Text.trim n.type) with
  | none =>
      rw [hkind] at hconfig
      rw [show n.config = .raw (configGiven fs) from hconfig]
      rfl
  | some kind =>
      rw [hkind] at hconfig
      exact NodeConfig.kind?_of_check hconfig

theorem config_of_check {fs : Fields} (h : check (.object fs) = .ok n)
    (hnone : n.config.kind? = none) : n.config = .raw (configGiven fs) := by
  obtain ⟨fs', hfs, hconfig⟩ := exists_of_check h
  cases hfs
  rw [← kind?_config_of_check h, hnone] at hconfig
  exact hconfig

theorem kind?_eq_some_iff {k : NodeKind} : n.kind? = some k ↔ n.type = k.name :=
  NodeKind.ofName?_eq_some_iff

theorem agrees_iff (h : check v = .ok n) :
    (∀ k : NodeKind, n.config.kind? = some k ↔ n.type = k.name) ↔ ¬ n.Padded := by
  have hkind (k : NodeKind) : n.config.kind? = some k ↔ Text.trim n.type = k.name := by
    rw [kind?_config_of_check h]
    exact NodeKind.ofName?_eq_some_iff
  constructor
  · rintro hagrees ⟨hblank, k, hk⟩
    apply hblank
    rw [hk]
    exact (hagrees k).mp ((hkind k).mpr hk)
  · intro hplain k
    rw [hkind k]
    constructor
    · intro htrim
      by_contra hne
      exact hplain ⟨fun htype => hne (htype.trans htrim), k, htrim⟩
    · intro htype
      rw [htype]
      exact k.trim_name

end Node

namespace Engine

variable {e : Engine} {node : Node} {run : Run}

theorem failure_of_prompt {v : Json} {f : Failure} (h : e.prompt node run v = .error f) :
    f = .unsearchable v.kindName ∨ ∃ t, f = .unsayable t := by
  unfold prompt at h
  split at h
  · rename_i htruthy
    cases htext : Untyped.searched v with
    | error g =>
        have hg : g = .unsearchable v.kindName := by
          unfold Untyped.searched at htext
          split at htext
          · cases htext
          · rw [if_pos htruthy] at htext
            exact (Except.error.inj htext).symm
        rw [htext] at h
        exact .inl ((Except.error.inj h).symm.trans hg)
    | ok text =>
        have hsaid : e.sayFilled node run text = .error f := by
          rw [htext] at h
          exact h
        rw [sayFilled, filled_eq] at hsaid
        cases hfault : e.fillFault? run text with
        | none =>
            rw [hfault] at hsaid
            cases hsaid
        | some t =>
            rw [hfault] at hsaid
            exact .inr ⟨t, (Except.error.inj hsaid).symm⟩
  · cases h

theorem visitInput_ne_wrongConfig {fields : InputFields} {r : Run} {config setting : String} :
    e.visitInput node fields run ≠ .error ⟨r, .wrongConfig config setting⟩ := by
  intro h
  unfold visitInput at h
  split at h
  · rename_i hprompt
    cases h
    rcases failure_of_prompt hprompt with hf | ⟨t, hf⟩ <;> cases hf
  · split at h
    · rename_i hname
      cases h
      obtain ⟨t, hf⟩ := Json.failure_of_said hname
      cases hf
    · cases h

theorem visitAction_ne_wrongConfig {c : ActionConfig} {r : Run} {config setting : String} :
    e.visitAction node c run ≠ .error ⟨r, .wrongConfig config setting⟩ := by
  intro h
  unfold visitAction at h
  split at h
  · simpa using ask_eq_error.mp h
  · split at h
    · have hraised := (visitAssignment_eq_error_iff.mp h).2
      cases hraised
    · cases h

/-- A step that is configured as the kind it is finds the settings of its kind. -/
theorem visitBuiltin_ne_wrongConfig {k : NodeKind} (hc : node.config.kind? = some k) {r : Run}
    {config setting : String} :
    e.visitBuiltin node k run ≠ .error ⟨r, .wrongConfig config setting⟩ := by
  intro h
  cases hconfig : node.config with
  | raw v =>
      rw [hconfig] at hc
      cases hc
  | message c =>
      rw [hconfig] at hc
      cases hc
      simp only [visitBuiltin, hconfig] at h
      simpa using visitMessage_eq_error_iff.mp h
  | input c =>
      rw [hconfig] at hc
      cases hc
      simp only [visitBuiltin, hconfig] at h
      exact visitInput_ne_wrongConfig h
  | unchecked fields =>
      rw [hconfig] at hc
      cases hc
      simp only [visitBuiltin, hconfig] at h
      exact visitInput_ne_wrongConfig h
  | action c =>
      rw [hconfig] at hc
      cases hc
      simp only [visitBuiltin, hconfig] at h
      exact visitAction_ne_wrongConfig h
  | integration c =>
      rw [hconfig] at hc
      cases hc
      simp only [visitBuiltin, hconfig, visitIntegration] at h
      simpa using ask_eq_error.mp h
  | finish c =>
      rw [hconfig] at hc
      cases hc
      simp only [visitBuiltin, hconfig] at h
      simpa using visitEnd_eq_error_iff.mp h
  | _ =>
      rw [hconfig] at hc
      cases hc
      simp [visitBuiltin, hconfig] at h

end Engine

namespace Flow

theorem Accepted.starts_length {flow : Flow} (h : flow.Accepted) :
    (flow.nodes.filter fun n => n.type = NodeKind.start.name).length ≤ 1 := by
  unfold Accepted breach? at h
  dsimp only at h
  split at h
  · cases h
  · split at h
    · cases h
    · obtain ⟨-, hstarts⟩ := Option.or_eq_none_iff.mp ((Option.orElse_eq_or ..).symm.trans h)
      rw [← List.length_map (fun n : Node => n.id)]
      split at hstarts
      · rename_i hnone
        simp [hnone]
      · rename_i start hone
        simp [hone]
      · cases hstarts

theorem Accepted.startNode?_iff {flow : Flow} (h : flow.Accepted) {node : Node}
    (hn : node ∈ flow.nodes) :
    flow.startNode? = some node ↔ node.type = NodeKind.start.name := by
  constructor
  · intro hstart
    simpa using List.find?_some hstart
  · intro htype
    have hmem : node ∈ flow.nodes.filter fun n => n.type = NodeKind.start.name :=
      List.mem_filter.mpr ⟨hn, by simpa using htype⟩
    obtain ⟨first, hfirst⟩ := List.length_eq_one_iff.mp
      (Nat.le_antisymm h.starts_length (List.length_pos_of_mem hmem))
    rw [hfirst, List.mem_singleton] at hmem
    rw [startNode?, ← List.head?_filter, hfirst, hmem]
    rfl

end Flow

namespace Node

/-- The configuration of a checked step is that of the kind which its type names without the blanks
around it, so it agrees with the type just when there are none. A step of a kind is carried out as
that kind by a configuration of that kind, and any other step, whatever its configuration, as one
that nobody knows. -/
theorem check_tagged {v : Json} {node : Node} (h : check v = .ok node) :
    (∀ k : NodeKind, node.config.kind? = some k ↔ Text.trim node.type = k.name) ∧
      ((∀ k : NodeKind, node.config.kind? = some k ↔ node.type = k.name) ↔ ¬ node.Padded) ∧
      (∀ fs, v = .object fs → node.config.kind? = none → node.config = .raw (configGiven fs)) ∧
      (∀ flow : Flow, flow.Accepted → node ∈ flow.nodes →
        (flow.startNode? = some node ↔ node.type = NodeKind.start.name)) ∧
      ∀ (e : Engine) (run : Run), Bindings.get? node.type e.handlers = none →
        (∀ k : NodeKind, node.type = k.name →
          e.attempt node run = e.visitBuiltin node k run ∧ node.config.kind? = some k ∧
          ∀ r config setting,
            e.attempt node run ≠ .error ⟨r, .wrongConfig config setting⟩) ∧
        ((∀ k : NodeKind, node.type ≠ k.name) →
          e.attempt node run = .ok (e.visitUnknown node run)) := by
  have hkind (k : NodeKind) : node.config.kind? = some k ↔ Text.trim node.type = k.name := by
    rw [kind?_config_of_check h]
    exact NodeKind.ofName?_eq_some_iff
  refine ⟨hkind, agrees_iff h, ?_, fun flow ha hn => ha.startNode?_iff hn, ?_⟩
  · rintro fs rfl hnone
    exact config_of_check h hnone
  · intro e run hh
    constructor
    · intro k htype
      have hconfig : node.config.kind? = some k := by
        rw [hkind k, htype]
        exact k.trim_name
      have hattempt : e.attempt node run = e.visitBuiltin node k run := by
        simp only [Engine.attempt, hh, kind?_eq_some_iff.mpr htype]
      refine ⟨hattempt, hconfig, ?_⟩
      intro r config setting
      rw [hattempt]
      exact Engine.visitBuiltin_ne_wrongConfig hconfig
    · intro hother
      have hnone : node.kind? = none := by
        rw [Option.eq_none_iff_forall_ne_some]
        intro k hk
        exact hother k (kind?_eq_some_iff.mp hk)
      simp only [Engine.attempt, hh, hnone]

/-- A step as an editor gives it. -/
def greeter : Json :=
  .object [("id", .str "hello"), ("type", .str "message"),
    ("data", .object [("label", .str "Hi"), ("config", .object [("text", .str "Hello")])])]

theorem greeter_tagged : ∃ node, check greeter = .ok node ∧ node.type = "message" ∧
    ∀ k : NodeKind, node.config.kind? = some k ↔ node.type = k.name := by
  have hnode : check greeter =
      .ok ⟨"hello", "message", "Hi", .message ⟨"Hello", .zero, false⟩⟩ := by rfl
  refine ⟨_, hnode, rfl, (check_tagged hnode).2.1.mpr ?_⟩
  rintro ⟨hblank, -⟩
  exact hblank (by decide)

/-- A step whose type has blanks around it. -/
def opener : Json := .object [("id", .str "entry"), ("type", .str " start ")]

/-- It is configured as a start but is none. -/
theorem opener_mistagged : ∃ node, check opener = .ok node ∧ node.config.kind? = some .start ∧
    node.type ≠ NodeKind.start.name ∧
    ({ id := "", name := "", description := "", department := none, nodes := [node],
       edges := [] } : Flow).startNode? = none ∧
    ¬ ∀ k : NodeKind, node.config.kind? = some k ↔ node.type = k.name := by
  have hnode : check opener =
      .ok ⟨"entry", " start ", "start", .start ⟨"first_message", [], none⟩⟩ := by rfl
  refine ⟨_, hnode, rfl, by decide, by decide, ?_⟩
  intro hagrees
  have htype := (hagrees .start).mp rfl
  revert htype
  decide

end Node
end Dialogue
