import RecordSearch.Sql.Statement
import RecordSearch.Store.Basic

/-!
# Databases

What happens to a request before a database sees it: the table name is checked, the page is filled
in from the defaults, and the statement is made. A database whose pool of connections is closed
answers every statement with the same fault.
-/

namespace RecordSearch

structure Database where
  defaults : PagingDefaults

inductive Refusal where
  | store (error : StoreError)
  /-- The caller built a predicate that cannot be written as a condition. -/
  | misuse (misuse : Misuse)
  deriving DecidableEq, Repr

namespace Database

def statement (db : Database) (table : String) (predicates : List Predicate)
    (request : Option PageRequest) (skipPaging : Bool) : Except Refusal Sql.Query :=
  match Store.checkTable table with
  | .error e => .error (.store e)
  | .ok name =>
    match Sql.query name predicates (Paging.normalize request db.defaults) skipPaging with
    | .ok query => .ok query
    | .error (.sortColumn fault) => .error (.store (.invalidSortColumn fault))
    | .error (.misuse misuse) => .error (.misuse misuse)

def keyColumn : FieldName := ⟨"id", by decide⟩

def keyStatement (table : String) : Except StoreError String :=
  (Store.checkTable table).map fun name => Sql.selectByKey name keyColumn

/-- What a selection comes to when the pool is closed. -/
def refuseSelect (db : Database) (table : String) (predicates : List Predicate)
    (request : Option PageRequest) (skipPaging : Bool) : Refusal :=
  match db.statement table predicates request skipPaging with
  | .error refusal => refusal
  | .ok _ => .store (.database table .select .poolClosed)

/-- What looking one record up comes to when the pool is closed. -/
def refuseSelectById (table : String) : StoreError :=
  match keyStatement table with
  | .error e => e
  | .ok _ => .database table .selectById .poolClosed

end Database

end RecordSearch
