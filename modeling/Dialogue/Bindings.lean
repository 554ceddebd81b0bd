/-!
# Bindings

Names bound to values, in the order in which the names were first bound. Binding a name again
keeps its place. The keys of `put` are the old ones, with a new name at the end.
-/
namespace Dialogue.Bindings

variable {α : Type _}

def get? (name : String) : List (String × α) → Option α
  | [] => none
  | (n, v) :: rest => if n = name then some v else get? name rest

def put (name : String) (value : α) : List (String × α) → List (String × α)
  | [] => [(name, value)]
  | (n, v) :: rest => if n = name then (n, value) :: rest else (n, v) :: put name value rest

/-- `bindings` followed by those of `more`, where a name bound in both keeps its first place and
takes its last value. -/
def merge (bindings more : List (String × α)) : List (String × α) :=
  more.foldl (fun acc b => put b.1 b.2 acc) bindings

/-- One binding for each name. -/
def ofList (bs : List (String × α)) : List (String × α) := merge [] bs

def erase (name : String) (bs : List (String × α)) : List (String × α) :=
  bs.filter fun b => b.1 ≠ name

def has (name : String) (bs : List (String × α)) : Bool := (get? name bs).isSome

theorem get?_put_self (name : String) (v : α) (bs : List (String × α)) :
    get? name (put name v bs) = some v := by
  induction bs with
  | nil => simp [put, get?]
  | cons b rest ih => by_cases h : b.1 = name <;> simp [put, get?, h, ih]

theorem get?_put_ne {name other : String} (h : other ≠ name) (v : α) (bs : List (String × α)) :
    get? other (put name v bs) = get? other bs := by
  induction bs with
  | nil => simp [put, get?, h.symm]
  | cons b rest ih =>
    by_cases hb : b.1 = name
    · simp [put, get?, hb, h.symm]
    · simp only [put, if_neg hb, get?, ih]

theorem keys_put (name : String) (v : α) (bs : List (String × α)) :
    (put name v bs).map Prod.fst =
      if name ∈ bs.map Prod.fst then bs.map Prod.fst else bs.map Prod.fst ++ [name] := by
  induction bs with
  | nil => simp [put]
  | cons b rest ih =>
    by_cases hb : b.1 = name
    · simp [put, hb]
    · have hb' : ¬ name = b.1 := fun h => hb h.symm
      by_cases hm : name ∈ rest.map Prod.fst <;>
        simp only [put, if_neg hb, List.map_cons, ih, hm, hb', List.mem_cons, false_or, if_true,
          if_false, List.cons_append]

theorem merge_append (bs xs ys : List (String × α)) :
    merge bs (xs ++ ys) = merge (merge bs xs) ys := List.foldl_append

theorem eraseDups_concat (l : List String) (a : String) :
    (l ++ [a]).eraseDups = if l.eraseDups.contains a then l.eraseDups else l.eraseDups ++ [a] := by
  rw [List.eraseDups_append]
  by_cases h : a ∈ l
  · simp [List.removeAll, h]
  · simp [List.removeAll, h, List.eraseDups_cons]

/-- The names come in the order in which they were first bound. -/
theorem keys_ofList (bs : List (String × α)) :
    (ofList bs).map Prod.fst = (bs.map Prod.fst).eraseDups := by
  -- from the end, as a binding is put after those before it
  rw [← List.reverse_reverse bs]
  induction bs.reverse with
  | nil => rfl
  | cons b rest ih =>
      rw [List.reverse_cons, List.map_append, List.map_singleton, eraseDups_concat]
      rw [ofList, merge_append]
      show (put b.1 b.2 (ofList rest.reverse)).map Prod.fst = _
      rw [keys_put, ih]
      simp only [List.contains_iff_mem]

theorem get?_merge (name : String) (bs more : List (String × α)) :
    get? name (merge bs more) = (more.reverse.lookup name).or (get? name bs) := by
  rw [← List.reverse_reverse more, List.reverse_reverse more.reverse]
  induction more.reverse with
  | nil => rfl
  | cons b rest ih =>
      rw [List.reverse_cons, merge_append]
      show get? name (put b.1 b.2 (merge bs rest.reverse)) = _
      by_cases h : name = b.1
      · subst h
        rw [get?_put_self, List.lookup_cons_self, Option.some_or]
      · rw [get?_put_ne h, ih, List.lookup_cons, beq_eq_false_iff_ne.mpr h]

theorem get?_ofList (name : String) (bs : List (String × α)) :
    get? name (ofList bs) = bs.reverse.lookup name := by
  rw [ofList, get?_merge, get?, Option.or_none]

end Dialogue.Bindings
