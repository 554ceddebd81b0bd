import Dialogue.Json.Kept
import Dialogue.Run.Record

/-!
# The store of runs

The last snapshot of every run and the entries of its log. A run keeps the flow it was first saved
under; runs are listed by their last save, latest first. Entries are kept by run and number, and a
later entry takes the place of an earlier one of the same number. What cannot be written as a text
is refused.
-/
namespace Dialogue

/-- Why a store does not take a record. -/
inductive StorageError where
  /-- A value has too many levels. -/
  | tooDeep
  /-- A value has no text. -/
  | unwritable (f : TextFault)
  /-- A number is no integer of 64 bits. -/
  | numberTooLarge
  /-- A value at a place among those to be stored is of a kind that cannot be. -/
  | unsupported (place : Nat) (valueKind : String)
  /-- A value that must be given is not. -/
  | missing (column : String)
  deriving DecidableEq

def StorageError.message : StorageError → String
  | tooDeep => "Maximum serialization depth exceeded"
  | unwritable f => f.writing
  | numberTooLarge => "Python int too large to convert to SQLite INTEGER"
  | unsupported place kind => s!"Error binding parameter {place}: type \x27{kind}\x27 is not supported"
  | missing column => "NOT NULL constraint failed: " ++ column

/-- Why a record of values that cannot all be stored is not. Their levels are looked at first. -/
def StorageError.ofValues (values : List Json) : StorageError :=
  if values.all (·.levels ≤ Json.levelLimit) then
    match values.findSome? Json.fault? with
    | some f => unwritable f
    | none => tooDeep
  else tooDeep

namespace LogEntry

/-- An entry as it is read again. -/
def kept (e : LogEntry) : LogEntry := { e with input := e.input.kept, output := e.output.kept }

/-- The values of any kind in an entry. -/
def values (e : LogEntry) : List Json := [e.input, e.output]

def isStorable (e : LogEntry) : Bool := e.values.all Json.isStorable

end LogEntry

namespace Snapshot

/-- A snapshot as it is read again. -/
def kept (s : Snapshot) : Snapshot :=
  { s with vars := s.vars.map fun v => (v.1, v.2.kept), log := s.log.map LogEntry.kept }

def values (s : Snapshot) : List Json := s.vars.map (·.2) ++ s.log.flatMap LogEntry.values

def isStorable (s : Snapshot) : Bool := s.values.all Json.isStorable

end Snapshot

structure StoredRun where
  flowId : String
  snapshot : Snapshot
  deriving DecidableEq, Inhabited

structure StoredEntry where
  run : String
  number : Int
  entry : LogEntry
  deriving DecidableEq, Inhabited

structure RunStore where
  /-- The run that was saved last comes first. -/
  runs : List StoredRun := []
  /-- The entries of a run stand in the order of their numbers. -/
  entries : List StoredEntry := []
  closed : Bool := false
  deriving DecidableEq, Inhabited

namespace RunStore

def find? (store : RunStore) (run : String) : Option StoredRun :=
  store.runs.find? (·.snapshot.runId = run)

/-- Puts a snapshot in the place of the last one of its run. -/
def put (store : RunStore) (snapshot : Snapshot) (flowId : String) : RunStore :=
  let flowId := ((store.find? snapshot.runId).map (·.flowId)).getD flowId
  { store with
    runs := ⟨flowId, snapshot⟩ :: store.runs.filter (·.snapshot.runId ≠ snapshot.runId) }

def save (store : RunStore) (snapshot : Snapshot) (flowId : String) :
    Except StorageError RunStore :=
  if snapshot.isStorable then .ok (store.put snapshot.kept flowId)
  else .error (.ofValues snapshot.values)

def get? (store : RunStore) (run : String) : Option Snapshot :=
  (store.find? run).map (·.snapshot)

/-- The runs of a flow, the one that was saved last first. -/
def list (store : RunStore) (flowId : String) : List Snapshot :=
  (store.runs.filter (·.flowId = flowId)).map (·.snapshot)

/-- Puts an entry among those of its run. -/
def insert (new : StoredEntry) : List StoredEntry → List StoredEntry
  | [] => [new]
  | old :: rest =>
    if old.run = new.run ∧ old.number = new.number then new :: rest
    else if old.run = new.run ∧ new.number < old.number then new :: old :: rest
    else old :: insert new rest

/-- The numbers that entries may have. -/
def isNumber (n : Int) : Bool := -(Nat.pow 2 63 : Nat) ≤ n && n < (Nat.pow 2 63 : Nat)

/-- The text under which a value at a place is kept as an id; none for a value that is like
none. -/
def idText (place : Nat) : Json → Except StorageError (Option String)
  | .null | .float .nan => .ok none
  | .str s => .ok s
  | .bool b => .ok (if b then "1" else "0")
  | .int n => if isNumber n then .ok (toString n) else .error .numberTooLarge
  | .float x => .ok x.text
  | v => .error (.unsupported place v.kindName)

/-- Puts entries among those of their runs, up to one whose number is too large. -/
def insertAll (store : RunStore) : List StoredEntry → RunStore × Option StorageError
  | [] => (store, none)
  | new :: rest =>
    if isNumber new.number then
      { store with entries := insert new store.entries }.insertAll rest
    else (store, some .numberTooLarge)

/-- Appends entries to the log of a run, the first one under the number `start`. Either all of
them can be written, or none is looked at further. -/
def append (store : RunStore) (run : String) (entries : List LogEntry) (start : Int) :
    RunStore × Option StorageError :=
  if entries.all LogEntry.isStorable then
    store.insertAll (entries.mapIdx fun i e => ⟨run, start + i, e.kept⟩)
  else (store, some (.ofValues ((entries.find? (!·.isStorable)).elim [] LogEntry.values)))

/-- The log of a run, or only what failed in it. -/
def log (store : RunStore) (run : String) (failedOnly : Bool) : List LogEntry :=
  ((store.entries.filter (·.run = run)).map (·.entry)).filter fun e => !failedOnly || !e.success

def close (store : RunStore) : RunStore := { store with closed := true }

end RunStore
end Dialogue
