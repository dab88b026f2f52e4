import RecordSearch.Store.Basic

/-!
# Recorded calls

A store that keeps a log of the calls that it answered, for counting round trips. A call that is
refused leaves no trace.
-/

namespace RecordSearch

structure RecordedCall where
  table : String
  predicates : List Predicate
  skipPaging : Bool

structure Recorder where
  store : Store
  calls : List RecordedCall

namespace Recorder

def empty (defaults : PagingDefaults) : Recorder := ⟨.empty defaults, []⟩

def insert (r : Recorder) (table : String) (rows : List Json) : Recorder :=
  { r with store := r.store.insert table rows }

def record (r : Recorder) (call : RecordedCall) : Recorder :=
  { r with calls := r.calls ++ [call] }

def callsFor (r : Recorder) (table : String) : List RecordedCall :=
  r.calls.filter (·.table = table)

def clearCalls (r : Recorder) : Recorder :=
  { r with calls := [] }

def select (r : Recorder) (table : String) (predicates : List Predicate)
    (request : Option PageRequest) (skipPaging : Bool) :
    Except StoreError Selection × Recorder :=
  match r.store.select table predicates request skipPaging with
  | .ok found => (.ok found, r.record { table, predicates, skipPaging })
  | .error e => (.error e, r)

def selectById (r : Recorder) (table : String) (id : Value) :
    Except StoreError (Option Json) × Recorder :=
  match r.store.selectById table id with
  | .ok row =>
    (.ok row, r.record { table, predicates := [Store.keyPredicate id], skipPaging := true })
  | .error e => (.error e, r)

end Recorder

end RecordSearch
