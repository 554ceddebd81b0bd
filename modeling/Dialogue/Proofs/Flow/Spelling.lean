import Dialogue.Flow.Accept
import Dialogue.Proofs.Bindings
import Dialogue.Proofs.Yields

/-!
# The names of fields

A field of a configuration goes by a name in snake case and by the same name in camel case. Where
no field is given under both, it makes no difference to what a check lets through which of them an
object uses (`check_respelled`).
-/
namespace Dialogue

namespace Checked

variable {α β : Type} {x y : Checked α} {f g : Checked (α → β)}

/-- Two checks that let the same through, whatever issues they find. -/
def Alike (x y : Checked α) : Prop := ∀ a, x = .ok a ↔ y = .ok a

theorem Alike.map (h : x.Alike y) (f : α → β) : Alike (f <$> x) (f <$> y) := by
  cases x with
  | error issues =>
      cases y with
      | error issues' => simp [Alike, Functor.map, Except.map]
      | ok b => exact absurd ((h b).mpr rfl) (by simp)
  | ok a =>
      cases (h a).mp rfl
      exact fun _ => Iff.rfl

theorem Alike.both (hf : f.Alike g) (h : x.Alike y) : Alike (both f x) (both g y) := by
  intro b
  rw [both_eq_ok, both_eq_ok]
  simp only [hf _, h _]

theorem Alike.bind {k l : α → Checked β} (h : x.Alike y) (hk : ∀ a, (k a).Alike (l a)) :
    Alike (x >>= k) (y >>= l) := by
  intro b
  constructor
  · intro hb
    obtain ⟨a, ha, hka⟩ := exists_of_bind hb
    rw [(h a).mp ha]
    exact (hk a b).mp hka
  · intro hb
    obtain ⟨a, ha, hla⟩ := exists_of_bind hb
    rw [(h a).mpr ha]
    exact (hk a b).mpr hla

theorem under_eq_ok {step : Check.Step} {a : α} : x.under step = .ok a ↔ x = .ok a := by
  cases x <;> simp [under]

end Checked

open Check

/-- The letter after an underscore becomes a capital, and the underscore goes. -/
def camelChars : List Char → List Char
  | [] => []
  | '_' :: c :: rest => c.toUpper :: camelChars rest
  | c :: rest => c :: camelChars rest

def camelCase (name : String) : String := String.ofList (camelChars name.toList)

/-- The names that a field goes by. -/
def spellings (name : String) : List String :=
  if camelCase name = name then [name] else [camelCase name, name]

namespace NodeKind

def fieldNames : NodeKind → List String
  | start => ["trigger", "keywords", "template_id"]
  | message => ["text", "delay", "use_client_name"]
  | input => ["prompt", "variable_name", "expected_type"]
  | condition => ["condition_type", "branches"]
  | action =>
    ["action_type", "variable_name", "variable_value", "vista_fields", "tag_id", "contact_fields"]
  | escalation => ["department", "priority", "reason"]
  | integration => ["integration_type", "url", "method", "headers", "body"]
  | delay => ["duration", "unit"]
  | finish => ["message", "close_conversation"]

theorem eq_of_mem_spellings (kind : NodeKind) : ∀ m ∈ kind.fieldNames, ∀ n ∈ kind.fieldNames,
    ∀ s ∈ spellings m, s ∈ spellings n → m = n := by
  cases kind <;> decide

/-- No field is given under two names. -/
def Single (kind : NodeKind) (fs : Fields) : Prop :=
  ∀ name ∈ kind.fieldNames, ∀ s ∈ spellings name, ∀ t ∈ spellings name,
    Bindings.has s fs = true → Bindings.has t fs = true → s = t

instance (kind : NodeKind) (fs : Fields) : Decidable (kind.Single fs) :=
  inferInstanceAs (Decidable (∀ name ∈ kind.fieldNames, ∀ s ∈ spellings name,
    ∀ t ∈ spellings name, Bindings.has s fs = true → Bindings.has t fs = true → s = t))

/-- Every name stays, or becomes another one of the same field. -/
def Respells (kind : NodeKind) (rename : String → String) : Prop :=
  ∀ s, rename s = s ∨ ∃ name ∈ kind.fieldNames, s ∈ spellings name ∧ rename s ∈ spellings name

/-- Every name of a field becomes the one of a given form. -/
def renamed (kind : NodeKind) (form : String → String) (s : String) : String :=
  ((kind.fieldNames.find? (s ∈ spellings ·)).map form).getD s

theorem respells_renamed (kind : NodeKind) {form : String → String}
    (hform : ∀ name ∈ kind.fieldNames, form name ∈ spellings name) :
    kind.Respells (kind.renamed form) := by
  intro s
  unfold renamed
  cases hfind : kind.fieldNames.find? (s ∈ spellings ·) with
  | none => exact .inl rfl
  | some name =>
      have hname := List.mem_of_find?_eq_some hfind
      exact .inr ⟨name, hname, by simpa using List.find?_some hfind, hform name hname⟩

theorem respells_snakeCase (kind : NodeKind) : kind.Respells (kind.renamed id) :=
  kind.respells_renamed fun name _ => by
    unfold spellings
    split <;> simp

theorem respells_camelCase (kind : NodeKind) : kind.Respells (kind.renamed camelCase) :=
  kind.respells_renamed fun name _ => by
    unfold spellings
    split <;> simp_all

end NodeKind

theorem NodeConfig.names_fields {c : NodeConfig} {kind : NodeKind} (h : c.kind? = some kind) :
    c.fields.map Prod.fst = kind.fieldNames := by
  cases c <;> cases h <;> rfl

def respelled (rename : String → String) (fs : Fields) : Fields :=
  fs.map fun f => (rename f.1, f.2)

variable {kind : NodeKind} {rename : String → String} {fs : Fields} {names : List String}

theorem NodeKind.Respells.mem_iff (hr : kind.Respells rename) {name : String}
    (hn : name ∈ kind.fieldNames) (s : String) :
    rename s ∈ spellings name ↔ s ∈ spellings name := by
  rcases hr s with hsame | ⟨other, ho, hs, hrs⟩
  · rw [hsame]
  · -- no name is one of two fields, so the other field is this one
    constructor
    · intro h
      rwa [kind.eq_of_mem_spellings name hn other ho _ h hrs]
    · intro h
      rwa [kind.eq_of_mem_spellings name hn other ho _ h hs]

theorem NodeKind.Single.respelled (hs : kind.Single fs) (hr : kind.Respells rename) :
    kind.Single (respelled rename fs) := by
  have hfrom {name : String} (hn : name ∈ kind.fieldNames) {s : String} (h : s ∈ spellings name)
      (hgiven : Bindings.has s (Dialogue.respelled rename fs) = true) :
      ∃ t ∈ spellings name, Bindings.has t fs = true ∧ rename t = s := by
    obtain ⟨f, hf, rfl⟩ := Bindings.has_eq_true.mp hgiven
    obtain ⟨g, hg, rfl⟩ := List.mem_map.mp hf
    exact ⟨g.1, (hr.mem_iff hn g.1).mp h, Bindings.has_eq_true.mpr ⟨g, hg, rfl⟩, rfl⟩
  intro name hn s h t h' hgiven hgiven'
  obtain ⟨s', hs', hhas, rfl⟩ := hfrom hn h hgiven
  obtain ⟨t', ht', hhas', rfl⟩ := hfrom hn h' hgiven'
  rw [hs name hn s' hs' t' ht' hhas hhas']

/-- Where one of the names at most is given, the value is that of the first field with any of
them. -/
theorem pick_eq_find? (h : ∀ s ∈ names, ∀ t ∈ names, Bindings.has s fs = true →
    Bindings.has t fs = true → s = t) :
    (pick names fs).map Prod.snd = (fs.find? (·.1 ∈ names)).map Prod.snd := by
  cases hfind : fs.find? (·.1 ∈ names) with
  | none =>
      have hnone : pick names fs = none := by
        refine List.findSome?_eq_none_iff.mpr fun n hn => ?_
        have hmissing : fs.find? (·.1 = n) = none := by
          refine List.find?_eq_none.mpr fun f hf heq => ?_
          have := List.find?_eq_none.mp hfind f hf
          simp only [decide_eq_true_eq] at heq this
          exact this (heq ▸ hn)
        rw [Bindings.get?_eq_find?, hmissing]
        rfl
      rw [hnone]
  | some f =>
      have hmem : f.1 ∈ names := by simpa using List.find?_some hfind
      have hhas : Bindings.has f.1 fs = true :=
        Bindings.has_eq_true.mpr ⟨f, List.mem_of_find?_eq_some hfind, rfl⟩
      have hget : Bindings.get? f.1 fs = some f.2 := by
        obtain ⟨-, before, after, rfl, hbefore⟩ := List.find?_eq_some_iff_append.mp hfind
        have hfirst : (before ++ f :: after).find? (·.1 = f.1) = some f := by
          refine List.find?_eq_some_iff_append.mpr ⟨by simp, before, after, rfl, fun g hg => ?_⟩
          have := hbefore g hg
          simp only [Bool.not_eq_true', decide_eq_false_iff_not] at this ⊢
          exact fun heq => this (heq ▸ hmem)
        rw [Bindings.get?_eq_find?, hfirst]
        rfl
      cases hpick : pick names fs with
      | none =>
          have := List.findSome?_eq_none_iff.mp hpick f.1 hmem
          rw [hget] at this
          cases this
      | some p =>
          obtain ⟨n, hn, hp⟩ := List.exists_of_findSome?_eq_some hpick
          obtain ⟨v, hv, rfl⟩ := Option.map_eq_some_iff.mp hp
          have hsame : n = f.1 := h n hn f.1 hmem (by simp [Bindings.has, hv]) hhas
          rw [hsame, hget] at hv
          cases hv
          rfl

theorem field_alike {α : Type} (hs : kind.Single fs) (hr : kind.Respells rename)
    (hn : ∃ name ∈ kind.fieldNames, spellings name = names) (check : Json → Checked α)
    (default : α) :
    (field names check default fs).Alike (field names check default (respelled rename fs)) := by
  obtain ⟨name, hname, rfl⟩ := hn
  have hpick : (pick (spellings name) (respelled rename fs)).map Prod.snd =
      (pick (spellings name) fs).map Prod.snd := by
    rw [pick_eq_find? (hs name hname), pick_eq_find? (hs.respelled hr name hname), respelled,
      List.find?_map]
    simp only [Function.comp_def, hr.mem_iff hname, Option.map_map]
  intro a
  unfold field
  cases hfs : pick (spellings name) fs with
  | none =>
      rw [hfs, Option.map_none, Option.map_eq_none_iff] at hpick
      rw [hpick]
  | some f =>
      rw [hfs, Option.map_some] at hpick
      obtain ⟨g, hg, hsame⟩ := Option.map_eq_some_iff.mp hpick
      simp only [hg, Checked.under_eq_ok, hsame]

/-- The check of a configuration lets the same through under whichever of its names each field is
given. -/
theorem NodeConfig.check_respelled (hs : kind.Single fs) (hr : kind.Respells rename) :
    (NodeConfig.check kind (.object fs)).Alike
      (NodeConfig.check kind (.object (respelled rename fs))) := by
  have hfield {α : Type} {names : List String}
      (hn : ∃ name ∈ kind.fieldNames, spellings name = names) (check : Json → Checked α)
      (default : α) := field_alike hs hr hn check default
  cases kind with
  | start =>
      exact .map ((((hfield (by decide) _ _).map _).both (hfield (by decide) _ _)).both
        (hfield (by decide) _ _)) _
  | message =>
      exact .map ((((hfield (by decide) _ _).map _).both (hfield (by decide) _ _)).both
        (hfield (by decide) _ _)) _
  | input =>
      exact .map ((((hfield (by decide) _ _).map _).both (hfield (by decide) _ _)).both
        (hfield (by decide) _ _)) _
  | condition =>
      -- what refuses branches of one id sees the fields, but only to show them
      refine .map (.bind (((hfield (by decide) _ _).map _).both (hfield (by decide) _ _)) ?_) _
      intro c a
      split
      · exact Iff.rfl
      · simp [Checked.fault, Checked.refuse]
  | action =>
      exact .map (((((((hfield (by decide) _ _).map _).both (hfield (by decide) _ _)).both
        (hfield (by decide) _ _)).both (hfield (by decide) _ _)).both
          (hfield (by decide) _ _)).both (hfield (by decide) _ _)) _
  | escalation =>
      exact .map ((((hfield (by decide) _ _).map _).both (hfield (by decide) _ _)).both
        (hfield (by decide) _ _)) _
  | integration =>
      exact .map ((((((hfield (by decide) _ _).map _).both (hfield (by decide) _ _)).both
        (hfield (by decide) _ _)).both (hfield (by decide) _ _)).both (hfield (by decide) _ _)) _
  | delay => exact .map (((hfield (by decide) _ _).map _).both (hfield (by decide) _ _)) _
  | finish => exact .map (((hfield (by decide) _ _).map _).both (hfield (by decide) _ _)) _

end Dialogue
