import Dialogue.Proofs.Store.Rows
import Mathlib.Data.List.Nodup

/-!
# The log of a run in the store

Entries that are appended under the next numbers come last in the log of their run, and a run that
is saved comes first among those of its flow. Values with finite doubles are read as they were.
-/
namespace Dialogue

namespace LogEntry

/-- No double in the entry's values is infinite or no number. -/
def isFinite (x : LogEntry) : Bool := x.input.isFinite && x.output.isFinite

theorem kept_of_isFinite {x : LogEntry} (h : x.isFinite = true) : x.kept = x := by
  simp only [isFinite, Bool.and_eq_true] at h
  simp only [kept, Json.kept_of_isFinite _ h.1, Json.kept_of_isFinite _ h.2]

theorem map_kept_of_isFinite {l : List LogEntry} (h : l.all isFinite = true) :
    l.map kept = l := by
  rw [List.all_eq_true] at h
  exact (List.map_congr_left fun x hx => kept_of_isFinite (h x hx)).trans (List.map_id l)

end LogEntry

namespace Snapshot

def isFinite (s : Snapshot) : Bool := s.vars.all (·.2.isFinite) && s.log.all LogEntry.isFinite

theorem kept_of_isFinite {s : Snapshot} (h : s.isFinite = true) : s.kept = s := by
  simp only [isFinite, Bool.and_eq_true] at h
  have hvars : s.vars.map (fun v => (v.1, v.2.kept)) = s.vars := by
    have hall := List.all_eq_true.mp h.1
    refine (List.map_congr_left fun v hv => ?_).trans (List.map_id s.vars)
    rw [Json.kept_of_isFinite _ (hall v hv)]
    rfl
  simp only [kept, hvars, LogEntry.map_kept_of_isFinite h.2]

theorem isStorable_of_mem_log {s : Snapshot} (h : s.isStorable = true) {x : LogEntry}
    (hx : x ∈ s.log) : x.isStorable = true := by
  rw [isStorable, values, List.all_append, List.all_flatMap, Bool.and_eq_true,
    List.all_eq_true] at h
  exact List.all_eq_true.mp h.2 x hx

end Snapshot

namespace RunStore

/-- Entries of a run as they are stored, numbered from `start`. -/
def filed (id : String) : Int → List LogEntry → List StoredEntry
  | _, [] => []
  | start, x :: rest => ⟨id, start, x.kept⟩ :: filed id (start + 1) rest

variable {store : RunStore} {id : String} {a b : List LogEntry}

theorem mapIdx_eq_filed (id : String) (start : Int) (l : List LogEntry) :
    (l.mapIdx fun i x => (⟨id, start + i, x.kept⟩ : StoredEntry)) = filed id start l := by
  induction l generalizing start with
  | nil => rfl
  | cons x rest ih =>
      rw [List.mapIdx_cons, filed, ← ih (start + 1)]
      have hshift (i : Nat) : start + ((i + 1 : Nat) : Int) = start + 1 + i := by omega
      simp only [hshift]
      simp

theorem filed_concat (id : String) (start : Int) (l : List LogEntry) (x : LogEntry) :
    filed id start (l ++ [x]) = filed id start l ++ [⟨id, start + l.length, x.kept⟩] := by
  induction l generalizing start with
  | nil => simp [filed]
  | cons y rest ih =>
      have hshift : start + 1 + (rest.length : Int) = start + ((y :: rest).length : Nat) := by
        rw [List.length_cons]
        omega
      rw [List.cons_append, filed, ih, hshift]
      rfl

theorem mem_filed {start : Int} {old : StoredEntry} (h : old ∈ filed id start a) :
    old.run = id ∧ old.number < start + a.length := by
  induction a generalizing start with
  | nil => cases h
  | cons x rest ih =>
      rw [List.length_cons]
      rcases List.mem_cons.mp h with rfl | h
      · exact ⟨rfl, by dsimp only; omega⟩
      · obtain ⟨hrun, hlt⟩ := ih h
        exact ⟨hrun, by omega⟩

theorem map_entry_filed (id : String) (start : Int) (l : List LogEntry) :
    (filed id start l).map (·.entry) = l.map LogEntry.kept := by
  induction l generalizing start with
  | nil => rfl
  | cons x rest ih => rw [filed, List.map_cons, List.map_cons, ih]

/-! ### Appending -/

theorem insert_last {new : StoredEntry} {l : List StoredEntry}
    (h : ∀ old ∈ l, old.run = new.run ∧ old.number < new.number) : insert new l = l ++ [new] := by
  induction l with
  | nil => rfl
  | cons old rest ih =>
      obtain ⟨hrun, hlt⟩ := h old List.mem_cons_self
      have hne : ¬ (old.run = new.run ∧ old.number = new.number) := fun heq => by omega
      have hnle : ¬ (old.run = new.run ∧ new.number < old.number) := fun heq => by omega
      rw [insert, if_neg hne, if_neg hnle, ih fun x hx => h x (List.mem_cons_of_mem _ hx)]
      rfl

theorem insertAll_frame (store : RunStore) (l : List StoredEntry) :
    (store.insertAll l).1.runs = store.runs ∧ (store.insertAll l).1.closed = store.closed := by
  induction l generalizing store with
  | nil => exact ⟨rfl, rfl⟩
  | cons new rest ih =>
      simp only [insertAll]
      split
      · exact ih _
      · exact ⟨rfl, rfl⟩

/-- How many entries of a run can be numbered, from zero. -/
def capacity : Nat := Nat.pow 2 63

theorem isNumber_of_lt {n : Nat} (h : n < capacity) : isNumber n = true := by
  simp only [isNumber, Bool.and_eq_true, decide_eq_true_eq]
  rw [capacity] at h
  omega

theorem toNat_lt_of_isNumber {number : Int} (h : isNumber number = true) :
    number.toNat < capacity := by
  simp only [isNumber, Bool.and_eq_true, decide_eq_true_eq] at h
  rw [capacity]
  have hpos : 0 < Nat.pow 2 63 := Nat.pow_pos (by decide)
  omega

theorem insertAll_filed (h : store.entries.filter (·.run = id) = filed id 0 a)
    (hlen : a.length + b.length ≤ capacity) :
    (store.insertAll (filed id a.length b)).2 = none ∧
      (store.insertAll (filed id a.length b)).1.entries.filter (·.run = id) =
        filed id 0 (a ++ b) := by
  -- on what is appended; each entry makes the log one longer
  induction b generalizing a store with
  | nil => simpa [filed, insertAll] using h
  | cons x b ih =>
      rw [List.length_cons] at hlen
      have hlast : insert ⟨id, a.length, x.kept⟩ (filed id 0 a) = filed id 0 (a ++ [x]) := by
        rw [filed_concat, Int.zero_add]
        apply insert_last
        intro old hold
        obtain ⟨hrun, hlt⟩ := mem_filed hold
        exact ⟨hrun, by rwa [Int.zero_add] at hlt⟩
      let grown : RunStore := { store with
        entries := insert ⟨id, a.length, x.kept⟩ store.entries }
      have hgrown : grown.entries.filter (·.run = id) = filed id 0 (a ++ [x]) := by
        have hnew : (⟨id, a.length, x.kept⟩ : StoredEntry).run = id := rfl
        rw [filter_insert_self hnew, h, hlast]
      have hlonger : (a ++ [x]).length + b.length ≤ capacity := by
        rw [List.length_append, List.length_singleton]
        omega
      have hrest := ih hgrown hlonger
      rw [List.append_assoc, List.length_append, List.length_singleton] at hrest
      rw [filed, insertAll, if_pos (isNumber_of_lt (by omega))]
      exact hrest

theorem append_eq (store : RunStore) (id : String) (l : List LogEntry) (start : Int) :
    store.append id l start =
      if l.all LogEntry.isStorable then store.insertAll (filed id start l)
      else (store, some (.ofValues ((l.find? (!·.isStorable)).elim [] LogEntry.values))) := by
  rw [append, mapIdx_eq_filed]

theorem append_frame (store : RunStore) (id : String) (l : List LogEntry) (start : Int) :
    (store.append id l start).1.runs = store.runs ∧
      (store.append id l start).1.closed = store.closed := by
  rw [append_eq]
  split
  · exact insertAll_frame _ _
  · exact ⟨rfl, rfl⟩

theorem log_of_filed (h : store.entries.filter (·.run = id) = filed id 0 a)
    (hfinite : a.all LogEntry.isFinite = true) (failedOnly : Bool) :
    store.log id failedOnly = a.filter fun x => !failedOnly || !x.success := by
  rw [log, h, map_entry_filed, LogEntry.map_kept_of_isFinite hfinite]

/-! ### Saving -/

variable {snapshot : Snapshot} {flowId : String}

theorem get?_put_self (store : RunStore) (snapshot : Snapshot) (flowId : String) :
    (store.put snapshot flowId).get? snapshot.runId = some snapshot := by
  simp [get?, find?, put]

theorem runs_put (h : ∀ row ∈ store.runs, row.snapshot.runId = snapshot.runId →
    row.flowId = flowId) : (store.put snapshot flowId).runs =
      ⟨flowId, snapshot⟩ :: store.runs.filter (·.snapshot.runId ≠ snapshot.runId) := by
  have hkept : ((store.find? snapshot.runId).map (·.flowId)).getD flowId = flowId := by
    cases hfind : store.find? snapshot.runId with
    | none => rfl
    | some row =>
        have hid : row.snapshot.runId = snapshot.runId := by simpa using List.find?_some hfind
        exact h row (List.mem_of_find?_eq_some hfind) hid
  rw [put, hkept]

theorem list_put (h : ∀ row ∈ store.runs, row.snapshot.runId = snapshot.runId →
    row.flowId = flowId) : (store.put snapshot flowId).list flowId =
      snapshot :: (store.list flowId).filter (·.runId ≠ snapshot.runId) := by
  simp only [list, runs_put h, List.filter_cons, decide_true, if_true, List.map_cons,
    List.filter_map, List.filter_filter]
  congr 2
  apply List.filter_congr
  intro row _
  simp [Bool.and_comm]

theorem nodup_put (h : ∀ row ∈ store.runs, row.snapshot.runId = snapshot.runId →
    row.flowId = flowId) (hn : (store.runs.map (·.snapshot.runId)).Nodup) :
    ((store.put snapshot flowId).runs.map (·.snapshot.runId)).Nodup := by
  rw [runs_put h, List.map_cons, List.nodup_cons]
  constructor
  · intro hmem
    obtain ⟨row, hrow, hid⟩ := List.mem_map.mp hmem
    simp [hid] at hrow
  · exact hn.sublist (List.filter_sublist.map _)

theorem nodup_list (hn : (store.runs.map (·.snapshot.runId)).Nodup) (flowId : String) :
    ((store.list flowId).map (·.runId)).Nodup := by
  rw [list, List.map_map]
  exact hn.sublist (List.filter_sublist.map _)

end RunStore
end Dialogue
