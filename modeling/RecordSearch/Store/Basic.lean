import RecordSearch.Json.Printer
import RecordSearch.Paging
import RecordSearch.Predicate.Matching
import RecordSearch.StoreError

/-!
# Stores in memory

Tables of JSON rows. A selection keeps the rows that match, sorts them stably by one column, and
gives one page of them or all.
-/

namespace RecordSearch

structure Store where
  tables : List (String × List Json)
  defaults : PagingDefaults

structure Selection where
  rows : List Json
  paging : PageSummary

namespace Store

def empty (defaults : PagingDefaults) : Store := ⟨[], defaults⟩

/-- The rows of a table in the order of their insertion; none if nothing was inserted. -/
def rows (store : Store) (table : String) : List Json :=
  (store.tables.lookup table).getD []

def insert (store : Store) (table : String) (rows : List Json) : Store :=
  { store with tables := addTo store.tables }
where
  addTo : List (String × List Json) → List (String × List Json)
    | [] => [(table, rows)]
    | (name, old) :: rest =>
      if name = table then (name, old ++ rows) :: rest else (name, old) :: addTo rest

def matching (store : Store) (table : String) (predicates : List Predicate) : List Json :=
  (store.rows table).filter (Predicate.allMatch predicates)

/-- Rows sorted by a column; the descending order is the ascending one backwards. -/
def sorted (column : String) (order : SortOrder) (rows : List Json) : List Json :=
  let ascending := rows.mergeSort fun a b =>
    Json.compareFields (a.get? column) (b.get? column) != .gt
  match order with
  | .ascending => ascending
  | .descending => ascending.reverse

/-- The page for a request once its sort column is checked. -/
def pageFor (store : Store) (request : Option PageRequest) : Except StoreError Paging :=
  let paging := Paging.normalize request store.defaults
  match FieldName.check paging.sortBy with
  | .ok _ => .ok paging
  | .error fault => .error (.invalidSortColumn fault)

def checkTable (table : String) : Except StoreError TableName :=
  match TableName.check table with
  | .ok name => .ok name
  | .error fault => .error (.invalidTable fault)

def select (store : Store) (table : String) (predicates : List Predicate)
    (request : Option PageRequest) (skipPaging : Bool) : Except StoreError Selection := do
  let _ ← checkTable table
  let paging ← store.pageFor request
  let found := sorted paging.sortBy paging.sortOrder (store.matching table predicates)
  .ok
    { rows := if skipPaging then found else paging.slice found
      paging := paging.summary found.length }

def keyPredicate (id : Value) : Predicate :=
  { column := "id", test := .exact id, fold := false }

def selectById (store : Store) (table : String) (id : Value) : Except StoreError (Option Json) := do
  let _ ← checkTable table
  .ok (store.matching table [keyPredicate id]).head?

end Store

end RecordSearch
