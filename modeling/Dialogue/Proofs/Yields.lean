/-!
# Computations that succeed

A computation that may fail succeeds where all its steps do, and its result has the properties that
the steps hand on.
-/
namespace Dialogue

/-- A computation succeeds with a result that has a property. -/
def Yields {ε α : Type} (x : Except ε α) (P : α → Prop) : Prop := ∃ a, x = .ok a ∧ P a

/-- A computation succeeds. -/
abbrev Succeeds {ε α : Type} (x : Except ε α) : Prop := Yields x fun _ => True

variable {ε ε' α β : Type} {P : α → Prop} {Q : β → Prop}

theorem Yields.bind {x : Except ε α} {f : α → Except ε β} (h : Yields x P)
    (hf : ∀ a, P a → Yields (f a) Q) : Yields (x >>= f) Q := by
  obtain ⟨a, rfl, ha⟩ := h
  exact hf a ha

theorem Yields.map {x : Except ε α} {f : α → β} (h : Yields x P) (hf : ∀ a, P a → Q (f a)) :
    Yields (f <$> x) Q := by
  obtain ⟨a, rfl, ha⟩ := h
  exact ⟨f a, rfl, hf a ha⟩

theorem Yields.mapError {x : Except ε α} (h : Yields x P) (f : ε → ε') :
    Yields (x.mapError f) P := by
  obtain ⟨a, rfl, ha⟩ := h
  exact ⟨a, rfl, ha⟩

theorem Yields.succeeds {x : Except ε α} (h : Yields x P) : Succeeds x := by
  obtain ⟨a, rfl, -⟩ := h
  exact ⟨a, rfl, trivial⟩

theorem bind_eq_ok_iff {x : Except ε α} {f : α → Except ε β} {b : β} :
    x >>= f = .ok b ↔ ∃ a, x = .ok a ∧ f a = .ok b := by
  constructor
  · intro h
    cases x with
    | error e => cases h
    | ok a => exact ⟨a, rfl, h⟩
  · rintro ⟨a, rfl, h⟩
    exact h

theorem exists_of_bind {x : Except ε α} {f : α → Except ε β} {b : β} (h : x >>= f = .ok b) :
    ∃ a, x = .ok a ∧ f a = .ok b := bind_eq_ok_iff.mp h

theorem map_eq_ok_iff {x : Except ε α} {f : α → β} {b : β} :
    f <$> x = .ok b ↔ ∃ a, x = .ok a ∧ f a = b := by
  cases x with
  | error e => exact iff_of_false nofun nofun
  | ok a => exact ⟨fun h => ⟨a, rfl, Except.ok.inj h⟩, fun ⟨_, h, hb⟩ => by cases h; rw [← hb]; rfl⟩

theorem yields_mapM {l : List α} {f : α → Except ε β} (h : ∀ a ∈ l, Yields (f a) Q) :
    Yields (l.mapM f) fun bs => ∀ b ∈ bs, Q b := by
  induction l with
  | nil => exact ⟨[], rfl, by simp⟩
  | cons a l ih =>
      obtain ⟨b, hb, hq⟩ := h a List.mem_cons_self
      obtain ⟨bs, hbs, hqs⟩ := ih fun a' ha' => h a' (List.mem_cons_of_mem _ ha')
      refine ⟨b :: bs, ?_, List.forall_mem_cons.mpr ⟨hq, hqs⟩⟩
      rw [List.mapM_cons, hb, hbs]
      rfl

theorem succeeds_mapM {l : List α} {f : α → Except ε β} (h : ∀ a ∈ l, Succeeds (f a)) :
    Succeeds (l.mapM f) := (yields_mapM h).succeeds

end Dialogue
