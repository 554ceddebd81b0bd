import Dialogue.RunStore
import Mathlib.Data.List.Basic

/-!
# The rows of a run

What the store is told of one run depends on the rows of that run alone, and leaves those of every
other run as they are.
-/
namespace Dialogue.RunStore

variable {store : RunStore} {id other : String}

/-- The store with the rows of one run only. -/
def only (store : RunStore) (id : String) : RunStore :=
  { store with
    runs := store.runs.filter (·.snapshot.runId = id)
    entries := store.entries.filter (·.run = id) }

@[simp] theorem only_closed (store : RunStore) (id : String) :
    (store.only id).closed = store.closed := rfl

theorem find?_only (store : RunStore) (id : String) :
    (store.only id).find? id = store.find? id := by
  simp [find?, only, List.find?_filter]

theorem filter_insert_self {new : StoredEntry} (hid : new.run = id) (l : List StoredEntry) :
    (insert new l).filter (·.run = id) = insert new (l.filter (·.run = id)) := by
  induction l with
  | nil => simp [insert, hid]
  | cons old rest ih =>
      by_cases hold : old.run = id
      · simp only [insert, hold, hid, true_and, List.filter_cons, decide_true, if_true]
        split
        · simp [hid]
        · split
          · simp [hid, hold]
          · simp [hold, ih]
      · simp [insert, hold, hid, ih]

theorem filter_insert_of_ne {new : StoredEntry} (hid : new.run ≠ id) (l : List StoredEntry) :
    (insert new l).filter (·.run = id) = l.filter (·.run = id) := by
  induction l with
  | nil => simp [insert, hid]
  | cons old rest ih =>
      simp only [insert]
      split
      · rename_i hsame
        simp [hid, hsame.1]
      · split
        · simp [hid]
        · simp [List.filter_cons, ih]

theorem only_insertAll_self (l : List StoredEntry) (store : RunStore)
    (hid : ∀ new ∈ l, new.run = id) :
    (store.only id).insertAll l = ((store.insertAll l).1.only id, (store.insertAll l).2) := by
  induction l generalizing store with
  | nil => rfl
  | cons new rest ih =>
      simp only [insertAll]
      split
      · rw [← ih _ fun n hn => hid n (List.mem_cons_of_mem _ hn)]
        simp only [only, filter_insert_self (hid new List.mem_cons_self)]
      · rfl

theorem only_insertAll_of_ne (l : List StoredEntry) (store : RunStore)
    (hid : ∀ new ∈ l, new.run ≠ id) : (store.insertAll l).1.only id = store.only id := by
  induction l generalizing store with
  | nil => rfl
  | cons new rest ih =>
      simp only [insertAll]
      split
      · rw [ih _ fun n hn => hid n (List.mem_cons_of_mem _ hn)]
        simp only [only, filter_insert_of_ne (hid new List.mem_cons_self)]
      · rfl

theorem only_append_self (store : RunStore) (id : String) (entries : List LogEntry) (start : Int) :
    (store.only id).append id entries start =
      ((store.append id entries start).1.only id, (store.append id entries start).2) := by
  unfold append
  split
  · apply only_insertAll_self
    intro new hnew
    obtain ⟨i, hi, rfl⟩ := List.mem_mapIdx.mp hnew
    rfl
  · rfl

theorem only_append_of_ne (store : RunStore) (hne : id ≠ other) (entries : List LogEntry)
    (start : Int) :
    (store.append id entries start).1.only other = store.only other := by
  unfold append
  split
  · apply only_insertAll_of_ne
    intro new hnew
    obtain ⟨i, hi, rfl⟩ := List.mem_mapIdx.mp hnew
    exact hne
  · rfl

theorem only_put_self (store : RunStore) (snapshot : Snapshot) (flowId : String) :
    (store.only snapshot.runId).put snapshot flowId =
      (store.put snapshot flowId).only snapshot.runId := by
  simp only [put, find?_only]
  simp [only, List.filter_filter]

theorem only_put_of_ne {snapshot : Snapshot} (hne : snapshot.runId ≠ other) (flowId : String) :
    (store.put snapshot flowId).only other = store.only other := by
  simp only [put, only, List.filter_cons, hne, decide_false, Bool.false_eq_true, if_false,
    List.filter_filter]
  congr 1
  apply List.filter_congr
  intro r _
  by_cases hr : r.snapshot.runId = other
  · simp [hr, hne.symm]
  · simp [hr]

theorem only_save_self (store : RunStore) (snapshot : Snapshot) (flowId : String) :
    (store.only snapshot.runId).save snapshot flowId =
      (store.save snapshot flowId).map (·.only snapshot.runId) := by
  unfold save
  split
  · exact congrArg Except.ok (only_put_self store snapshot.kept flowId)
  · rfl

theorem only_save_of_ne {snapshot : Snapshot} (hne : snapshot.runId ≠ other) {flowId : String}
    {saved : RunStore} (h : store.save snapshot flowId = .ok saved) :
    saved.only other = store.only other := by
  unfold save at h
  split at h
  · cases h
    have hkept : snapshot.kept.runId ≠ other := hne
    exact only_put_of_ne hkept flowId
  · cases h

end Dialogue.RunStore
