import Dialogue.Proofs.Flow.Graph
import Dialogue.Proofs.Store.Log
import Mathlib.Data.List.Induction
import Mathlib.Order.Basic

/-!
# A store as two maps

What a store holds after a history of writes: of each run the snapshot that was saved last, and
under each number the entry that was appended last (`written_holds`). A write whose values have too
many levels or no text is refused and leaves nothing.
-/
namespace Dialogue

/-- What a store is told. -/
inductive Write where
  | save (snapshot : Snapshot) (flowId : String)
  | append (run : String) (entries : List LogEntry) (start : Int)
  deriving DecidableEq

/-- The entry under a number, where entries are numbered from `start` as long as numbers last. -/
def RunStore.numbered (start : Int) (l : List LogEntry) (number : Int) : Option LogEntry :=
  if isNumber start ∧ isNumber number ∧ start ≤ number then l[(number - start).toNat]? else none

namespace Write

def isFinite : Write → Bool
  | save snapshot _ => snapshot.isFinite
  | append _ entries _ => entries.all LogEntry.isFinite

/-- What a write saves of a run, if it is taken: the snapshot, and the flow it is saved under. -/
def saved? (id : String) : Write → Option (Snapshot × String)
  | save snapshot flowId =>
    if snapshot.runId = id ∧ snapshot.isStorable then some (snapshot, flowId) else none
  | append .. => none

/-- The entry that a write puts under a number of a run, if it is taken. -/
def under? (id : String) (number : Int) : Write → Option LogEntry
  | save .. => none
  | append run entries start =>
    if run = id ∧ entries.all LogEntry.isStorable then RunStore.numbered start entries number
    else none

/-- Whether a write appends to the log of a run. -/
def appendsTo (id : String) : Write → Bool
  | save .. => false
  | append run .. => run = id

end Write

namespace RunStore

variable {store : RunStore} {id : String} {new : StoredEntry} {rows : List StoredEntry}
  {lookup : Int → Option LogEntry} {writes : List Write}

/-- The store after a write, whether it is taken or refused. -/
def write (store : RunStore) : Write → RunStore
  | .save snapshot flowId => match store.save snapshot flowId with
    | .ok saved => saved
    | .error _ => store
  | .append run entries start => (store.append run entries start).1

/-- A new store after a history of writes. -/
def written (writes : List Write) : RunStore := writes.foldl write {}

theorem written_concat (writes : List Write) (w : Write) :
    written (writes ++ [w]) = (written writes).write w := by
  rw [written, List.foldl_append]
  rfl

theorem write_save (store : RunStore) (snapshot : Snapshot) (flowId : String) :
    store.write (.save snapshot flowId) =
      if snapshot.isStorable then store.put snapshot.kept flowId else store := by
  rw [write, save]
  by_cases hs : snapshot.isStorable = true
  · rw [if_pos hs, if_pos hs]
  · rw [if_neg hs, if_neg hs]

/-! ### The runs -/

/-- What was saved of a run last. -/
def lastSaved (writes : List Write) (id : String) : Option Snapshot :=
  (writes.reverse.findSome? (Write.saved? id)).map Prod.fst

/-- The flow that a run was first saved under. -/
def firstFlow (writes : List Write) (id : String) : Option String :=
  (writes.findSome? (Write.saved? id)).map Prod.snd

/-- How many writes came after the last that saved a run. -/
def age (writes : List Write) (id : String) : Nat :=
  writes.reverse.findIdx fun w => (w.saved? id).isSome

theorem lastSaved_concat (writes : List Write) (w : Write) (id : String) :
    lastSaved (writes ++ [w]) id = ((w.saved? id).map Prod.fst).or (lastSaved writes id) := by
  rw [lastSaved, List.reverse_append, List.reverse_singleton, List.singleton_append,
    List.findSome?_cons]
  cases w.saved? id <;> rfl

theorem firstFlow_concat (writes : List Write) (w : Write) (id : String) :
    firstFlow (writes ++ [w]) id = (firstFlow writes id).or ((w.saved? id).map Prod.snd) := by
  rw [firstFlow, firstFlow, List.findSome?_append, List.findSome?_singleton]
  cases writes.findSome? (Write.saved? id) <;> rfl

theorem age_concat (writes : List Write) (w : Write) (id : String) :
    age (writes ++ [w]) id = if (w.saved? id).isSome then 0 else age writes id + 1 := by
  rw [age, List.reverse_append, List.reverse_singleton, List.singleton_append, List.findIdx_cons]
  cases (w.saved? id).isSome <;> rfl

theorem lastSaved_eq_none_iff : lastSaved writes id = none ↔ firstFlow writes id = none := by
  simp [lastSaved, firstFlow]

theorem find?_put (store : RunStore) (snapshot : Snapshot) (flowId id : String) :
    (store.put snapshot flowId).find? id =
      if snapshot.runId = id then
        some ⟨((store.find? id).map (·.flowId)).getD flowId, snapshot⟩
      else store.find? id := by
  split
  · rename_i hid
    simp [put, find?, hid]
  · rename_i hne
    rw [← find?_only, only_put_of_ne hne, find?_only]

/-- The rows of the runs hold what a history saved, the latest first. -/
structure Saves (writes : List Write) (store : RunStore) : Prop where
  find? : ∀ id, store.find? id =
    (lastSaved writes id).bind fun snapshot => (firstFlow writes id).map (⟨·, snapshot⟩)
  nodup : (store.runs.map (·.snapshot.runId)).Nodup
  ordered : store.runs.Pairwise fun row other =>
    age writes row.snapshot.runId < age writes other.snapshot.runId

namespace Saves

theorem of_unsaved (h : Saves writes store) {w : Write} (hw : ∀ id, w.saved? id = none)
    {kept : RunStore} (hruns : kept.runs = store.runs) : Saves (writes ++ [w]) kept where
  find? := by
    intro id
    rw [RunStore.find?, hruns, lastSaved_concat, firstFlow_concat, hw, Option.map_none,
      Option.map_none, Option.none_or, Option.or_none]
    exact h.find? id
  nodup := hruns ▸ h.nodup
  ordered := by
    rw [hruns]
    refine h.ordered.imp fun hage => ?_
    rw [age_concat, age_concat, hw, hw]
    exact Nat.succ_lt_succ hage

theorem put (h : Saves writes store) {snapshot : Snapshot} (hs : snapshot.isStorable = true)
    (flowId : String) : Saves (writes ++ [.save snapshot flowId]) (store.put snapshot flowId) where
  find? := by
    intro id
    rw [find?_put, lastSaved_concat, firstFlow_concat]
    by_cases hid : snapshot.runId = id
    · have hsaved : (Write.save snapshot flowId).saved? id = some (snapshot, flowId) :=
        if_pos ⟨hid, hs⟩
      rw [if_pos hid, hsaved, h.find? id]
      cases hfirst : firstFlow writes id with
      | none => rw [lastSaved_eq_none_iff.mpr hfirst]; rfl
      | some first =>
          obtain ⟨last, hlast⟩ := Option.ne_none_iff_exists'.mp fun hnone => by
            rw [lastSaved_eq_none_iff, hfirst] at hnone
            cases hnone
          rw [hlast]
          rfl
    · have hsaved : (Write.save snapshot flowId).saved? id = none := if_neg fun hboth => hid hboth.1
      rw [if_neg hid, hsaved, h.find? id, Option.map_none, Option.map_none, Option.none_or,
        Option.or_none]
  nodup := by
    rw [RunStore.put, List.map_cons, List.nodup_cons]
    refine ⟨?_, h.nodup.sublist (List.filter_sublist.map _)⟩
    intro hmem
    obtain ⟨row, hrow, hid⟩ := List.mem_map.mp hmem
    simp [hid] at hrow
  ordered := by
    have hself : age (writes ++ [.save snapshot flowId]) snapshot.runId = 0 := by
      simp [age_concat, Write.saved?, hs]
    have hother {id : String} (hid : id ≠ snapshot.runId) :
        age (writes ++ [.save snapshot flowId]) id = age writes id + 1 := by
      simp [age_concat, Write.saved?, hid.symm]
    rw [RunStore.put, List.pairwise_cons]
    constructor
    · intro row hrow
      have hid : row.snapshot.runId ≠ snapshot.runId := by simpa using List.of_mem_filter hrow
      rw [hself, hother hid]
      exact Nat.zero_lt_succ _
    · refine (h.ordered.filter _).imp_of_mem fun {row other} hrow hother' hage => ?_
      have hid : row.snapshot.runId ≠ snapshot.runId := by simpa using List.of_mem_filter hrow
      have hid' : other.snapshot.runId ≠ snapshot.runId := by
        simpa using List.of_mem_filter hother'
      rw [hother hid, hother hid']
      exact Nat.succ_lt_succ hage

theorem mem_list_iff (h : Saves writes store) {snapshot : Snapshot} {flowId : String} :
    snapshot ∈ store.list flowId ↔ lastSaved writes snapshot.runId = some snapshot ∧
      firstFlow writes snapshot.runId = some flowId := by
  have hfind := h.find? snapshot.runId
  simp only [list, List.mem_map, List.mem_filter, decide_eq_true_eq]
  constructor
  · rintro ⟨row, ⟨hrow, rfl⟩, rfl⟩
    rw [RunStore.find?, find?_key (·.snapshot.runId) h.nodup hrow] at hfind
    obtain ⟨last, hlast, hrest⟩ := Option.bind_eq_some_iff.mp hfind.symm
    obtain ⟨first, hfirst, rfl⟩ := Option.map_eq_some_iff.mp hrest
    exact ⟨hlast, hfirst⟩
  · rintro ⟨hlast, hfirst⟩
    rw [hlast, hfirst] at hfind
    exact ⟨⟨flowId, snapshot⟩, ⟨List.mem_of_find?_eq_some hfind, rfl⟩, rfl⟩

end Saves

theorem written_saves (hfinite : ∀ w ∈ writes, w.isFinite = true) :
    Saves writes (written writes) := by
  -- on the history from its end, as each write is made after those before it
  induction writes using List.reverseRecOn with
  | nil => exact ⟨fun _ => rfl, .nil, .nil⟩
  | append_singleton writes w ih =>
      have hkept := ih fun w hw => hfinite w (List.mem_append_left _ hw)
      have hw : w.isFinite = true := hfinite w (by simp)
      rw [written_concat]
      cases w with
      | save snapshot flowId =>
          rw [write_save, Snapshot.kept_of_isFinite hw]
          split
          · exact hkept.put ‹_› flowId
          · rename_i hs
            exact hkept.of_unsaved (w := .save snapshot flowId) (fun _ => if_neg (hs ·.2)) rfl
      | append run entries start =>
          exact hkept.of_unsaved (fun _ => rfl) (append_frame _ _ _ _).1

/-! ### The entries -/

/-- Rows of a run that hold a map from numbers to entries, in the order of the numbers. -/
structure Holds (id : String) (lookup : Int → Option LogEntry) (rows : List StoredEntry) :
    Prop where
  ordered : rows.Pairwise (·.number < ·.number)
  mem_iff : ∀ row, row ∈ rows ↔ row.run = id ∧ lookup row.number = some row.entry

theorem mem_insert_iff (hrun : ∀ row ∈ rows, row.run = new.run)
    (ho : rows.Pairwise (·.number < ·.number)) (row : StoredEntry) :
    row ∈ insert new rows ↔ row = new ∨ row ∈ rows ∧ row.number ≠ new.number := by
  induction rows with
  | nil => simp [insert]
  | cons old rest ih =>
      obtain ⟨hlt, hrest⟩ := List.pairwise_cons.mp ho
      have hold := hrun old List.mem_cons_self
      have htail := ih (fun r hr => hrun r (List.mem_cons_of_mem _ hr)) hrest
      -- a row past the first differs from the new one where the first is not before it
      have hpast (h : new.number ≤ old.number) (hr : row ∈ rest) : row.number ≠ new.number := by
        have := hlt row hr
        omega
      rw [insert]
      split
      · rename_i heq
        simp only [List.mem_cons]
        refine or_congr_right ⟨fun hr => ⟨.inr hr, hpast (by omega) hr⟩, ?_⟩
        rintro ⟨rfl | hr, hne⟩
        · exact absurd heq.2 hne
        · exact hr
      · split
        · rename_i hle
          simp only [List.mem_cons]
          refine or_congr_right ⟨fun hr => ⟨hr, ?_⟩, And.left⟩
          rcases hr with rfl | hr
          · omega
          · exact hpast (by omega) hr
        · have hne : old.number ≠ new.number := fun heq => by simp_all
          simp only [List.mem_cons, htail]
          constructor
          · rintro (rfl | rfl | ⟨hr, hrn⟩)
            · exact .inr ⟨.inl rfl, hne⟩
            · exact .inl rfl
            · exact .inr ⟨.inr hr, hrn⟩
          · rintro (rfl | ⟨rfl | hr, hrn⟩)
            · exact .inr (.inl rfl)
            · exact .inl rfl
            · exact .inr (.inr ⟨hr, hrn⟩)

theorem ordered_insert (hrun : ∀ row ∈ rows, row.run = new.run)
    (ho : rows.Pairwise (·.number < ·.number)) :
    (insert new rows).Pairwise (·.number < ·.number) := by
  induction rows with
  | nil => simp [insert]
  | cons old rest ih =>
      obtain ⟨hlt, hrest⟩ := List.pairwise_cons.mp ho
      have hrun' : ∀ row ∈ rest, row.run = new.run :=
        fun row hr => hrun row (List.mem_cons_of_mem _ hr)
      have hold := hrun old List.mem_cons_self
      rw [insert]
      split
      · rename_i heq
        exact List.pairwise_cons.mpr ⟨heq.2 ▸ hlt, hrest⟩
      · split
        · rename_i hle
          refine List.pairwise_cons.mpr ⟨fun row hr => ?_, ho⟩
          rcases List.mem_cons.mp hr with rfl | hr
          · exact hle.2
          · exact Int.lt_trans hle.2 (hlt row hr)
        · refine List.pairwise_cons.mpr ⟨fun row hr => ?_, ih hrun' hrest⟩
          rcases (mem_insert_iff hrun' hrest row).mp hr with rfl | ⟨hr, -⟩
          · grind
          · exact hlt row hr

theorem Holds.insert (h : Holds id lookup rows) (hrun : new.run = id) :
    Holds id (fun n => if n = new.number then some new.entry else lookup n)
      (insert new rows) := by
  have hruns : ∀ row ∈ rows, row.run = new.run :=
    fun row hr => ((h.mem_iff row).mp hr).1.trans hrun.symm
  refine ⟨ordered_insert hruns h.ordered, fun row => ?_⟩
  rw [mem_insert_iff hruns h.ordered, h.mem_iff]
  by_cases hn : row.number = new.number
  · rw [if_pos hn]
    constructor
    · rintro (rfl | ⟨-, hne⟩)
      · exact ⟨hrun, rfl⟩
      · exact absurd hn hne
    · rintro ⟨hid, hentry⟩
      obtain ⟨run, number, entry⟩ := row
      obtain ⟨run', number', entry'⟩ := new
      cases hentry
      cases hn
      exact .inl (by rw [show run = run' from hid.trans hrun.symm])
  · rw [if_neg hn]
    constructor
    · rintro (rfl | ⟨hmem, -⟩)
      · exact absurd rfl hn
      · exact hmem
    · exact fun hmem => .inr ⟨hmem, hn⟩

theorem numbered_cons {start : Int} (hs : isNumber start = true) (x : LogEntry)
    (rest : List LogEntry) (number : Int) : numbered start (x :: rest) number =
      (numbered (start + 1) rest number).or (if number = start then some x else none) := by
  simp only [isNumber, Bool.and_eq_true, decide_eq_true_eq] at hs
  simp only [numbered, isNumber, Bool.and_eq_true, decide_eq_true_eq]
  rcases Int.lt_trichotomy number start with hlt | rfl | hgt
  · rw [if_neg (by omega), if_neg (by omega), if_neg (by omega), Option.or_none]
  · rw [if_pos (by omega), if_neg (by omega), if_pos rfl, Int.sub_self]
    rfl
  · have hnext : (number - start).toNat = (number - (start + 1)).toNat + 1 := by omega
    rw [if_neg (by omega : ¬ number = start), Option.or_none, hnext, List.getElem?_cons_succ]
    split
    · rw [if_pos (by omega)]
    · rw [if_neg (by omega)]

/-- What is appended goes before what was there under the same numbers. -/
theorem Holds.insertAll (h : Holds id lookup (store.entries.filter (·.run = id))) (start : Int)
    (l : List LogEntry) :
    Holds id (fun n => (numbered start (l.map LogEntry.kept) n).or (lookup n))
      ((store.insertAll (filed id start l)).1.entries.filter (·.run = id)) := by
  induction l generalizing store start lookup with
  | nil => simpa [filed, RunStore.insertAll, numbered] using h
  | cons x rest ih =>
      rw [filed, RunStore.insertAll]
      by_cases hstart : isNumber start = true
      · have hnew : (⟨id, start, x.kept⟩ : StoredEntry).run = id := rfl
        let next : RunStore :=
          { store with entries := RunStore.insert ⟨id, start, x.kept⟩ store.entries }
        have hself : next.entries.filter (·.run = id) =
            RunStore.insert ⟨id, start, x.kept⟩ (store.entries.filter (·.run = id)) :=
          filter_insert_self hnew store.entries
        have hnext : Holds id (fun n => if n = start then some x.kept else lookup n)
            (next.entries.filter (·.run = id)) := by
          rw [hself]
          exact h.insert hnew
        have hrest := ih hnext (start + 1)
        rw [if_pos hstart]
        convert hrest using 2 with n
        rw [List.map_cons, numbered_cons hstart, Option.or_assoc]
        split <;> rfl
      · rw [if_neg hstart]
        simpa [numbered, hstart] using h

/-- The entry that was put last under a number of a run. -/
def lastEntry (writes : List Write) (id : String) (number : Int) : Option LogEntry :=
  writes.reverse.findSome? (Write.under? id number)

theorem lastEntry_concat (writes : List Write) (w : Write) (id : String) (number : Int) :
    lastEntry (writes ++ [w]) id number = (w.under? id number).or (lastEntry writes id number) := by
  rw [lastEntry, List.reverse_append, List.reverse_singleton, List.singleton_append,
    List.findSome?_cons]
  cases w.under? id number <;> rfl

theorem written_holds_entries (hfinite : ∀ w ∈ writes, w.isFinite = true) (id : String) :
    Holds id (lastEntry writes id) ((written writes).entries.filter (·.run = id)) := by
  induction writes using List.reverseRecOn with
  | nil => exact ⟨.nil, by simp [written, lastEntry]⟩
  | append_singleton writes w ih =>
      have hkept := ih fun w hw => hfinite w (List.mem_append_left _ hw)
      have hw : w.isFinite = true := hfinite w (by simp)
      have hlast : lastEntry (writes ++ [w]) id =
          fun number => (w.under? id number).or (lastEntry writes id number) :=
        funext fun number => lastEntry_concat writes w id number
      rw [written_concat, hlast]
      cases w with
      | save snapshot flowId =>
          rw [write_save]
          split
          · exact hkept
          · exact hkept
      | append run entries start =>
          by_cases hrun : run = id
          · subst hrun
            rw [write, append_eq]
            by_cases hs : entries.all LogEntry.isStorable = true
            · have hmade := hkept.insertAll start entries
              rw [LogEntry.map_kept_of_isFinite hw] at hmade
              simpa [Write.under?, hs] using hmade
            · simpa [Write.under?, hs] using hkept
          · have hrows := congrArg RunStore.entries
              (only_append_of_ne (written writes) hrun entries start)
            simp only [only] at hrows
            rw [write, hrows]
            simpa [Write.under?, hrun] using hkept

theorem Holds.unique {others : List StoredEntry} (h : Holds id lookup rows)
    (h' : Holds id lookup others) : rows = others := by
  have hnodup {l : List StoredEntry} (hl : l.Pairwise (·.number < ·.number)) : l.Nodup :=
    hl.imp fun hlt heq => by
      rw [heq] at hlt
      exact Int.lt_irrefl _ hlt
  have hperm : rows.Perm others := by
    rw [List.perm_ext_iff_of_nodup (hnodup h.ordered) (hnodup h'.ordered)]
    exact fun row => (h.mem_iff row).trans (h'.mem_iff row).symm
  refine hperm.eq_of_pairwise (fun row other _ _ hlt hgt => ?_) h.ordered h'.ordered
  exact absurd hgt (Int.lt_asymm hlt)

theorem holds_filed (id : String) {log : List LogEntry} (hlen : log.length ≤ capacity) :
    Holds id (numbered 0 (log.map LogEntry.kept)) (filed id 0 log) := by
  have hempty : Holds id (fun _ => none) (({} : RunStore).entries.filter (·.run = id)) :=
    ⟨.nil, by simp⟩
  have hrows := (@insertAll_filed {} id [] log rfl (by simpa)).2
  have hmade := hempty.insertAll 0 log
  rw [List.nil_append] at hrows
  rw [List.length_nil, Int.ofNat_zero] at hrows
  rw [hrows] at hmade
  simpa only [Option.or_none] using hmade

/-! ### One log in slices -/

/-- All that is appended to the log of a run are slices of one log, each under its own place, and
every entry of the log is in one of them. -/
structure Logs (writes : List Write) (id : String) (log : List LogEntry) : Prop where
  slices : ∀ entries (start : Int), .append id entries start ∈ writes →
    ∃ first last : Nat, start = first ∧ entries = (log.take last).drop first
  covers : ∀ place < log.length, ∃ entries, ∃ first : Nat, .append id entries first ∈ writes ∧
    first ≤ place ∧ place < first + entries.length

variable {log : List LogEntry}

theorem Logs.getElem?_of_under? (hl : Logs writes id log) {w : Write} (hw : w ∈ writes)
    {number : Int} {x : LogEntry} (hx : w.under? id number = some x) :
    isNumber number = true ∧ 0 ≤ number ∧ log[number.toNat]? = some x := by
  cases w with
  | save snapshot flowId => cases hx
  | append run entries start =>
      rw [Write.under?] at hx
      split at hx
      · rename_i htaken
        rw [htaken.1] at hw
        obtain ⟨first, last, rfl, rfl⟩ := hl.slices entries start hw
        rw [numbered] at hx
        split at hx
        · rename_i hnumber
          obtain ⟨-, hnumber, hle⟩ := hnumber
          have hplace : first + (number - first).toNat = number.toNat := by omega
          rw [List.getElem?_drop, hplace] at hx
          refine ⟨hnumber, by omega, ?_⟩
          rw [← hx, eq_comm, List.getElem?_take_of_lt]
          by_contra hlate
          rw [List.getElem?_take, if_neg hlate] at hx
          cases hx
        · cases hx
      · cases hx

/-- Slices in any order make up the log, as far as there are numbers. -/
theorem Logs.lastEntry_eq (hl : Logs writes id log) (hs : log.all LogEntry.isStorable = true) :
    lastEntry writes id = numbered 0 (log.take capacity) := by
  funext number
  cases hlast : lastEntry writes id number with
  | some x =>
      obtain ⟨w, hw, hx⟩ := List.exists_of_findSome?_eq_some hlast
      obtain ⟨hnumber, hle, hentry⟩ := hl.getElem?_of_under? (List.mem_reverse.mp hw) hx
      rw [numbered, if_pos ⟨by decide, hnumber, hle⟩, Int.sub_zero,
        List.getElem?_take_of_lt (toNat_lt_of_isNumber hnumber), hentry]
  | none =>
      rw [eq_comm, numbered]
      split
      · rename_i hnumber
        obtain ⟨-, hnumber, hle⟩ := hnumber
        rw [Int.sub_zero, List.getElem?_take_of_lt (toNat_lt_of_isNumber hnumber),
          List.getElem?_eq_none_iff]
        by_contra hlt
        obtain ⟨entries, first, hmem, hfirst, hend⟩ := hl.covers number.toNat (by omega)
        have hall : entries.all LogEntry.isStorable = true := by
          obtain ⟨-, last, -, rfl⟩ := hl.slices entries first hmem
          rw [List.all_eq_true] at hs ⊢
          exact fun x hx => hs x (List.mem_of_mem_take (List.mem_of_mem_drop hx))
        have hstart : isNumber first = true :=
          isNumber_of_lt (Nat.lt_of_le_of_lt hfirst (toNat_lt_of_isNumber hnumber))
        have hnumbered : isNumber first = true ∧ isNumber number = true ∧ (first : Int) ≤ number :=
          ⟨hstart, hnumber, by omega⟩
        have hnone := List.findSome?_eq_none_iff.mp hlast _ (List.mem_reverse.mpr hmem)
        rw [Write.under?, if_pos ⟨rfl, hall⟩, numbered, if_pos hnumbered,
          List.getElem?_eq_none_iff] at hnone
        omega
      · rfl

theorem Logs.all_isFinite (hl : Logs writes id log) (hfinite : ∀ w ∈ writes, w.isFinite = true) :
    log.all LogEntry.isFinite = true := by
  rw [List.all_eq_true]
  intro x hx
  obtain ⟨place, hplace, rfl⟩ := List.getElem_of_mem hx
  obtain ⟨entries, first, hmem, hle, hlt⟩ := hl.covers place hplace
  have hall : entries.all LogEntry.isFinite = true := hfinite _ hmem
  obtain ⟨first', last, hfirst, rfl⟩ := hl.slices entries first hmem
  obtain rfl : first = first' := Int.ofNat_inj.mp hfirst
  have hentry : ((log.take last).drop first).get ⟨place - first, by omega⟩ = log[place] := by
    simp [Nat.add_sub_cancel' hle]
  rw [← hentry]
  exact List.all_eq_true.mp hall _ (List.get_mem _ _)

theorem Logs.log_eq (hl : Logs writes id log) (hfinite : ∀ w ∈ writes, w.isFinite = true)
    (hs : log.all LogEntry.isStorable = true) (failedOnly : Bool) :
    (written writes).log id failedOnly =
      (log.take capacity).filter fun x => !failedOnly || !x.success := by
  have hlog : (log.take capacity).all LogEntry.isFinite = true := by
    have hall := hl.all_isFinite hfinite
    rw [List.all_eq_true] at hall ⊢
    exact fun x hx => hall x (List.mem_of_mem_take hx)
  have hrows := written_holds_entries hfinite id
  have hfiled := holds_filed id (List.length_take_le capacity log)
  rw [hl.lastEntry_eq hs] at hrows
  rw [LogEntry.map_kept_of_isFinite hlog] at hfiled
  exact log_of_filed (hrows.unique hfiled) hlog failedOnly

/-! ### Runs apart -/

theorem runs_write_congr {kept : RunStore} (h : kept.runs = store.runs) (w : Write) :
    (kept.write w).runs = (store.write w).runs := by
  cases w with
  | save snapshot flowId =>
      rw [write_save, write_save]
      split
      · simp only [put, find?, h]
      · exact h
  | append run entries start =>
      exact (append_frame _ _ _ _).1.trans (h.trans (append_frame _ _ _ _).1.symm)

theorem only_write_congr {kept : RunStore} (h : kept.only id = store.only id) (w : Write) :
    (kept.write w).only id = (store.write w).only id := by
  cases w with
  | save snapshot flowId =>
      rw [write_save, write_save]
      split
      · by_cases hid : snapshot.runId = id
        · subst hid
          have hself (store : RunStore) : (store.put snapshot.kept flowId).only snapshot.runId =
              (store.only snapshot.runId).put snapshot.kept flowId :=
            (only_put_self store snapshot.kept flowId).symm
          rw [hself, hself, h]
        · have hkept : snapshot.kept.runId ≠ id := hid
          rw [only_put_of_ne hkept, only_put_of_ne hkept, h]
      · exact h
  | append run entries start =>
      rw [write, write]
      by_cases hid : run = id
      · subst hid
        have hself (store : RunStore) : (store.append run entries start).1.only run =
            ((store.only run).append run entries start).1 :=
          (congrArg Prod.fst (only_append_self store run entries start)).symm
        rw [hself, hself, h]
      · rw [only_append_of_ne _ hid, only_append_of_ne _ hid, h]

theorem written_apart (writes : List Write) (other : String) :
    (written (writes.filter (!·.appendsTo other))).runs = (written writes).runs ∧
      ∀ id, id ≠ other →
        (written (writes.filter (!·.appendsTo other))).only id = (written writes).only id := by
  induction writes using List.reverseRecOn with
  | nil => exact ⟨rfl, fun _ _ => rfl⟩
  | append_singleton writes w ih =>
      obtain ⟨hruns, hrows⟩ := ih
      rw [List.filter_append, written_concat]
      by_cases hw : w.appendsTo other = true
      · rw [List.filter_cons_of_neg (by simp [hw]), List.filter_nil, List.append_nil]
        cases w with
        | save snapshot flowId => cases hw
        | append run entries start =>
            have hrun : run = other := of_decide_eq_true hw
            refine ⟨hruns.trans (append_frame _ _ _ _).1.symm, fun id hne => ?_⟩
            rw [hrows id hne]
            exact (only_append_of_ne _ (hrun.trans_ne hne.symm) entries start).symm
      · rw [List.filter_cons_of_pos (by simp [hw]), List.filter_nil, written_concat]
        exact ⟨runs_write_congr hruns w, fun id hne => only_write_congr (hrows id hne) w⟩

/-- A store is two maps: of each run it holds the snapshot that was saved last, and lists it under
the flow of the first, the latest first; and the slices of a log that are appended, in whatever
order and however often, are that log, as far as there are numbers for its entries. -/
theorem written_holds (hfinite : ∀ w ∈ writes, w.isFinite = true) :
    (∀ id, (written writes).get? id = lastSaved writes id) ∧
    (∀ flowId, (((written writes).list flowId).map (·.runId)).Nodup ∧
      (∀ snapshot, snapshot ∈ (written writes).list flowId ↔
        lastSaved writes snapshot.runId = some snapshot ∧
          firstFlow writes snapshot.runId = some flowId) ∧
      ((written writes).list flowId).Pairwise fun snapshot other =>
        age writes snapshot.runId < age writes other.runId) ∧
    (∀ id log, Logs writes id log → log.all LogEntry.isStorable = true →
      (written writes).log id false = log.take capacity ∧
        (written writes).log id true = (log.take capacity).filter (!·.success)) ∧
    ∀ id, (written (writes.filter (!·.appendsTo id))).runs = (written writes).runs ∧
      ∀ other, other ≠ id → ∀ failedOnly,
        (written (writes.filter (!·.appendsTo id))).log other failedOnly =
          (written writes).log other failedOnly := by
  have hsaves := written_saves hfinite
  refine ⟨fun id => ?_, fun flowId => ⟨nodup_list hsaves.nodup flowId, fun snapshot =>
    hsaves.mem_list_iff, ?_⟩, fun id log hl hs => ?_, fun id => ?_⟩
  · rw [get?, hsaves.find? id]
    cases hfirst : firstFlow writes id with
    | none => rw [lastSaved_eq_none_iff.mpr hfirst]; rfl
    | some flowId => cases lastSaved writes id <;> rfl
  · rw [list, List.pairwise_map]
    exact hsaves.ordered.filter _
  · exact ⟨(hl.log_eq hfinite hs false).trans (by simp), hl.log_eq hfinite hs true⟩
  · obtain ⟨hruns, hrows⟩ := written_apart writes id
    refine ⟨hruns, fun other hne failedOnly => ?_⟩
    have hentries := congrArg RunStore.entries (hrows other hne)
    simp only [only] at hentries
    rw [RunStore.log, RunStore.log, hentries]

/-- A log of three entries, the second of which failed. -/
def pages : List LogEntry := [
  ⟨"entry", "start", "start", "Fluxo iniciado", .null, .null, .zero, true⟩,
  ⟨"call", "integration", "call", "Erro na integração: webhook", .null, .null, .zero, false⟩,
  ⟨"exit", "end", "end", "Fluxo finalizado", .null, .bool true, .zero, true⟩]

/-- A run that is saved twice, under two flows, while its log comes in slices that overlap, the
later one first, and another run comes in between. -/
def ledger : List Write := [
  .save ⟨"run-0", .running, some "call", [], [], [], [], none⟩ "errand",
  .append "run-0" (pages.drop 1) 1,
  .save ⟨"run-1", .failed, none, [], [], [], [], some "no answer"⟩ "errand",
  .append "run-1" (pages.drop 2) 0,
  .append "run-0" (pages.take 2) 0,
  .save ⟨"run-0", .completed, none, [("answer", .bool true)], [], [], [], none⟩ "survey"]

theorem ledger_logs : Logs ledger "run-0" pages where
  slices := by
    intro entries start hmem
    simp only [ledger, List.mem_cons, reduceCtorEq, Write.append.injEq, false_or, or_false,
      List.not_mem_nil] at hmem
    rcases hmem with ⟨-, rfl, rfl⟩ | ⟨hrun, -⟩ | ⟨-, rfl, rfl⟩
    · exact ⟨1, 3, rfl, rfl⟩
    · exact absurd hrun (by decide)
    · exact ⟨0, 2, rfl, rfl⟩
  covers := by
    intro place hplace
    have hlen : pages.length = 3 := rfl
    rcases Nat.eq_zero_or_pos place with rfl | hpos
    · exact ⟨pages.take 2, 0, by simp [ledger], by simp, by simp [hlen]⟩
    · exact ⟨pages.drop 1, 1, by simp [ledger], hpos, by simp [hlen]; omega⟩

theorem ledger_holds : (∀ w ∈ ledger, w.isFinite = true) ∧ Logs ledger "run-0" pages ∧
    (written ledger).get? "run-0" =
      some ⟨"run-0", .completed, none, [("answer", .bool true)], [], [], [], none⟩ ∧
    ⟨"run-0", .completed, none, [("answer", .bool true)], [], [], [], none⟩ ∈
      (written ledger).list "errand" ∧
    (written ledger).log "run-0" false = pages ∧
    (written ledger).log "run-0" true = pages.filter (!·.success) := by
  have hfinite : ∀ w ∈ ledger, w.isFinite = true := by decide
  obtain ⟨hget, hlist, hlog, -⟩ := written_holds hfinite
  exact ⟨hfinite, ledger_logs, (hget "run-0").trans (by decide),
    ((hlist "errand").2.1 _).mpr ⟨by decide, by decide⟩,
    hlog "run-0" pages ledger_logs (by decide)⟩

theorem logs_singleton (id : String) (log : List LogEntry) : Logs [.append id log 0] id log where
  slices := by
    intro entries start hmem
    simp only [List.mem_singleton, Write.append.injEq] at hmem
    obtain ⟨-, rfl, rfl⟩ := hmem
    exact ⟨0, entries.length, rfl, by simp⟩
  covers := fun place hplace =>
    ⟨log, 0, List.mem_singleton_self _, Nat.zero_le _, by rwa [Nat.zero_add]⟩

/-- An entry of so many levels is refused, and with it the whole slice; so is an entry when the
numbers have run out. -/
theorem ledger_refuses :
    (∃ log : List LogEntry, Logs [.append "run-0" log 0] "run-0" log ∧
      (∀ w ∈ [Write.append "run-0" log 0], w.isFinite = true) ∧
      (written [.append "run-0" log 0]).log "run-0" false ≠ log) ∧
    ∃ log : List LogEntry, log.all LogEntry.isStorable = true ∧
      Logs [.append "run-0" log 0] "run-0" log ∧
      (∀ w ∈ [Write.append "run-0" log 0], w.isFinite = true) ∧
      (written [.append "run-0" log 0]).log "run-0" false ≠ log := by
  constructor
  · refine ⟨[⟨"call", "integration", "call", "Integração mock: webhook", .null,
      Nat.repeat (fun v => .list [v]) 280 .null, .zero, true⟩], logs_singleton _ _, ?_, ?_⟩
    · decide +kernel
    · decide +kernel
  · -- what follows goes by the length alone, for so many entries cannot be looked at
    obtain ⟨log, hlong, hall⟩ : ∃ log : List LogEntry, capacity < log.length ∧
        ∀ x ∈ log, x.isFinite = true ∧ x.isStorable = true := by
      refine ⟨List.replicate (capacity + 1)
        ⟨"entry", "start", "start", "Fluxo iniciado", .null, .null, .zero, true⟩, ?_, ?_⟩
      · rw [List.length_replicate]
        exact Nat.lt_succ_self _
      · intro x hx
        rw [List.eq_of_mem_replicate hx]
        decide
    have hs : log.all LogEntry.isStorable = true := List.all_eq_true.mpr fun x hx => (hall x hx).2
    have hfinite : ∀ w ∈ [Write.append "run-0" log 0], w.isFinite = true := by
      intro w hw
      rw [List.mem_singleton.mp hw]
      exact List.all_eq_true.mpr fun x hx => (hall x hx).1
    refine ⟨log, hs, logs_singleton _ _, hfinite, fun heq => ?_⟩
    rw [(logs_singleton _ _).log_eq hfinite hs] at heq
    have hlength := congrArg List.length heq
    simp only [Bool.not_false, Bool.true_or, List.filter_true, List.length_take] at hlength
    omega

end RunStore
end Dialogue
