import Dialogue.Bindings
import Mathlib.Data.List.Nodup

/-!
# Lookups

Where the keys of a list are distinct, what is found under a key does not depend on the order of the
list, and the lookups tell the list up to its order (`Bindings.perm_of_get?`).
-/
namespace Dialogue

theorem find?_key {α : Type} (key : α → String) {l : List α} (h : (l.map key).Nodup) {a : α}
    (ha : a ∈ l) : l.find? (key · = key a) = some a := by
  cases hfind : l.find? (key · = key a) with
  | none =>
      have hne := List.find?_eq_none.mp hfind a ha
      simp at hne
  | some b =>
      have hkey : key b = key a := by simpa using List.find?_some hfind
      rw [List.inj_on_of_nodup_map h (List.mem_of_find?_eq_some hfind) ha hkey]

namespace Bindings

variable {α : Type} {name : String} {v : α} {bs cs : List (String × α)}

theorem get?_eq_find? (name : String) (bs : List (String × α)) :
    get? name bs = (bs.find? (·.1 = name)).map Prod.snd := by
  induction bs with
  | nil => rfl
  | cons b rest ih => by_cases h : b.1 = name <;> simp [get?, h, ih]

theorem has_eq_true : has name bs = true ↔ ∃ b ∈ bs, b.1 = name := by
  simp [has, get?_eq_find?]

theorem mem_of_get? (h : get? name bs = some v) : (name, v) ∈ bs := by
  rw [get?_eq_find?] at h
  obtain ⟨⟨other, w⟩, hfind, rfl⟩ := Option.map_eq_some_iff.mp h
  have hname : other = name := by simpa using List.find?_some hfind
  exact hname ▸ List.mem_of_find?_eq_some hfind

theorem eq_or_mem_of_put {b : String × α} (h : b ∈ put name v bs) : b = (name, v) ∨ b ∈ bs := by
  induction bs with
  | nil => exact .inl (List.mem_singleton.mp h)
  | cons c bs ih =>
      unfold put at h
      split at h
      · rename_i hname
        rcases List.mem_cons.mp h with rfl | hb
        · exact .inl (by rw [hname])
        · exact .inr (List.mem_cons_of_mem _ hb)
      · rcases List.mem_cons.mp h with rfl | hb
        · exact .inr List.mem_cons_self
        · exact (ih hb).imp_right (List.mem_cons_of_mem _)

theorem mem_of_merge {b : String × α} (h : b ∈ merge bs cs) : b ∈ bs ∨ b ∈ cs := by
  induction cs generalizing bs with
  | nil => exact .inl h
  | cons c cs ih =>
      rcases ih h with hput | hcs
      · exact (eq_or_mem_of_put hput).elim (fun hc => .inr (hc ▸ List.mem_cons_self)) .inl
      · exact .inr (List.mem_cons_of_mem _ hcs)

theorem mem_of_ofList {b : String × α} (h : b ∈ ofList bs) : b ∈ bs :=
  (mem_of_merge h).resolve_left List.not_mem_nil

theorem get?_append (name : String) (bs cs : List (String × α)) :
    get? name (bs ++ cs) = (get? name bs).or (get? name cs) := by
  induction bs with
  | nil => rfl
  | cons b rest ih => by_cases h : b.1 = name <;> simp [get?, h, ih]

theorem get?_map {β : Type} (f : α → β) (name : String) (bs : List (String × α)) :
    get? name (bs.map fun b => (b.1, f b.2)) = (get? name bs).map f := by
  induction bs with
  | nil => rfl
  | cons b rest ih => by_cases h : b.1 = name <;> simp [get?, h, ih]

theorem get?_merge_of_not_mem (h : ∀ v, (name, v) ∉ cs) :
    get? name (merge bs cs) = get? name bs := by
  have hnone : cs.reverse.lookup name = none := by
    rw [List.lookup_eq_none_iff]
    rintro ⟨other, v⟩ hb
    rw [List.mem_reverse] at hb
    simpa using fun hname : name = other => h v (hname ▸ hb)
  rw [get?_merge, hnone, Option.none_or]

theorem exists_get?_merge (h : ∃ v, (name, v) ∈ cs) (bs : List (String × α)) :
    ∃ v, (name, v) ∈ cs ∧ get? name (merge bs cs) = some v := by
  rw [get?_merge]
  cases hlookup : cs.reverse.lookup name with
  | none =>
      obtain ⟨v, hv⟩ := h
      have hne := List.lookup_eq_none_iff.mp hlookup (name, v) (List.mem_reverse.mpr hv)
      simp at hne
  | some v =>
      obtain ⟨before, after, hsplit, -⟩ := List.lookup_eq_some_iff.mp hlookup
      have hmem : (name, v) ∈ cs.reverse := hsplit ▸ List.mem_append_right _ List.mem_cons_self
      exact ⟨v, List.mem_reverse.mp hmem, rfl⟩

theorem get?_erase (name other : String) (bs : List (String × α)) :
    get? name (erase other bs) = if name = other then none else get? name bs := by
  induction bs with
  | nil => simp [erase, get?]
  | cons b rest ih =>
      have hrest : get? name (rest.filter fun b => b.1 ≠ other) =
          if name = other then none else get? name rest := ih
      by_cases hb : b.1 = other
      · by_cases hn : name = other
        · simpa [erase, hb, hn] using hrest
        · have hne : other ≠ name := fun h => hn h.symm
          simpa [erase, get?, hb, hn, hne] using hrest
      · by_cases hn : b.1 = name
        · have hne : name ≠ other := hn ▸ hb
          simp [erase, get?, hn, hne]
        · simpa [erase, get?, hb, hn] using hrest

theorem get?_eq_some_iff (h : (bs.map Prod.fst).Nodup) :
    get? name bs = some v ↔ (name, v) ∈ bs := by
  rw [get?_eq_find?]
  constructor
  · intro hv
    obtain ⟨b, hb, rfl⟩ := Option.map_eq_some_iff.mp hv
    have hname : b.1 = name := by simpa using List.find?_some hb
    exact hname ▸ List.mem_of_find?_eq_some hb
  · intro hv
    rw [find?_key (fun b : String × α => b.1) h hv]
    rfl

theorem get?_perm (h : bs.Perm cs) (hn : (bs.map Prod.fst).Nodup) (name : String) :
    get? name bs = get? name cs := by
  refine Option.ext fun v => ?_
  rw [get?_eq_some_iff hn, get?_eq_some_iff ((h.map Prod.fst).nodup hn), h.mem_iff]

theorem perm_of_get? (hb : (bs.map Prod.fst).Nodup) (hc : (cs.map Prod.fst).Nodup)
    (h : ∀ name, get? name bs = get? name cs) : bs.Perm cs := by
  refine (List.perm_ext_iff_of_nodup hb.of_map hc.of_map).mpr ?_
  rintro ⟨name, v⟩
  rw [← get?_eq_some_iff hb, ← get?_eq_some_iff hc, h]

theorem nodup_put (h : (bs.map Prod.fst).Nodup) (name : String) (v : α) :
    ((put name v bs).map Prod.fst).Nodup := by
  rw [keys_put]
  split
  · exact h
  · rename_i hnew
    exact List.nodup_append.mpr ⟨h, List.nodup_singleton name, by
      rintro m hm _ hname rfl
      exact hnew (List.mem_singleton.mp hname ▸ hm)⟩

theorem nodup_erase (h : (bs.map Prod.fst).Nodup) (name : String) :
    ((erase name bs).map Prod.fst).Nodup := h.sublist (List.filter_sublist.map _)

/-! ### Names changed -/

/-- No two of the names become one. -/
def Separates (f : String → String) (names : List String) : Prop :=
  ∀ a ∈ names, ∀ b ∈ names, f a = f b → a = b

instance (f : String → String) (names : List String) : Decidable (Separates f names) :=
  inferInstanceAs (Decidable (∀ a ∈ names, _))

/-- The same bindings under changed names, with values that are related. -/
def Renamed {β : Type} (f : String → String) (P : α → β → Prop) (bs : List (String × α))
    (cs : List (String × β)) : Prop :=
  List.Forall₂ (fun b c => c.1 = f b.1 ∧ P b.2 c.2) bs cs

section
variable {β : Type} {f : String → String} {P : α → β → Prop} {names : List String} {w : β}
  {cs ds : List (String × β)} {more : List (String × α)}

theorem Renamed.put (h : Renamed f P bs cs) (hf : Separates f names) (hbs : bs.map Prod.fst ⊆ names)
    (hname : name ∈ names) (hv : P v w) :
    Renamed f P (Bindings.put name v bs) (Bindings.put (f name) w cs) := by
  induction h with
  | nil => exact .cons ⟨rfl, hv⟩ .nil
  | @cons b c bs cs hbc hrest ih =>
      obtain ⟨hb, hbs⟩ := List.cons_subset.mp hbs
      by_cases hn : b.1 = name
      · have hc : c.1 = f name := hn ▸ hbc.1
        rw [Bindings.put, Bindings.put, if_pos hn, if_pos hc]
        exact .cons ⟨hn ▸ hbc.1, hv⟩ hrest
      · have hc : c.1 ≠ f name := fun hc => hn (hf _ hb _ hname (hbc.1.symm.trans hc))
        rw [Bindings.put, Bindings.put, if_neg hn, if_neg hc]
        exact .cons hbc (ih hbs)

theorem keys_put_subset (hbs : bs.map Prod.fst ⊆ names) (hname : name ∈ names) :
    (Bindings.put name v bs).map Prod.fst ⊆ names := by
  rw [keys_put]
  split
  · exact hbs
  · exact List.append_subset.mpr ⟨hbs, List.cons_subset.mpr ⟨hname, List.nil_subset _⟩⟩

theorem Renamed.merge (h : Renamed f P bs cs) (hmore : Renamed f P more ds)
    (hf : Separates f names) (hbs : bs.map Prod.fst ⊆ names) (hin : more.map Prod.fst ⊆ names) :
    Renamed f P (Bindings.merge bs more) (Bindings.merge cs ds) := by
  induction hmore generalizing bs cs with
  | nil => exact h
  | @cons b d more ds hbd _ ih =>
      obtain ⟨hb, hin⟩ := List.cons_subset.mp hin
      have hput := h.put hf hbs hb hbd.2
      rw [← hbd.1] at hput
      exact ih hput (keys_put_subset hbs hb) hin

/-- One binding for each name is one for each changed name where no two names become one. -/
theorem Renamed.ofList (h : Renamed f P bs cs) (hf : Separates f (bs.map Prod.fst)) :
    Renamed f P (Bindings.ofList bs) (Bindings.ofList cs) :=
  Renamed.merge .nil h hf (List.nil_subset _) (List.Subset.refl _)

end

end Bindings
end Dialogue
