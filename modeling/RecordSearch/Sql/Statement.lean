import RecordSearch.Paging
import RecordSearch.Sql.Condition

/-!
# Statements

The statements that select records as JSON objects and count them.
-/

namespace RecordSearch.Sql

open Number (intDecimal)

/-- A selection from a table. Without a window it gives every record. -/
structure Select where
  table : TableName
  conditions : List Condition
  sortBy : FieldName
  sortOrder : SortOrder
  window : Option (Int × Int)

/-- A statement with the one that counts the records of all pages, which only a page needs, and the
values bound in both. -/
structure Query where
  select : Select
  bindings : Bindings

def whereClause (conditions : List Condition) : String :=
  match conditions with
  | [] => ""
  | conditions =>
    "WHERE " ++ " AND ".intercalate (conditions.map fun condition => "(" ++ condition.text ++ ")")

def orderClause (sortBy : FieldName) : SortOrder → String
  | .ascending => "ORDER BY " ++ sortBy.text
  | .descending => "ORDER BY " ++ sortBy.text ++ " " ++ SortOrder.descending.sql

def windowClause (offset length : Int) : String :=
  "OFFSET " ++ intDecimal offset ++ " LIMIT " ++ intDecimal length

/-- Clauses with a blank between them; empty ones are left out. -/
def joinClauses (clauses : List String) : String :=
  " ".intercalate (clauses.filter (· ≠ ""))

def Select.text (s : Select) : String :=
  joinClauses [
    "SELECT to_jsonb(r) AS record FROM " ++ s.table.text ++ " AS r",
    whereClause s.conditions,
    orderClause s.sortBy s.sortOrder,
    match s.window with
    | some (offset, length) => windowClause offset length
    | none => ""]

/-- The count over the same conditions, for a statement with a window. -/
def Select.countText? (s : Select) : Option String :=
  s.window.map fun _ => joinClauses [
    "SELECT COUNT(*) AS total FROM " ++ s.table.text ++ " AS r",
    whereClause s.conditions]

inductive QueryFault where
  | sortColumn (fault : NameFault)
  | misuse (misuse : Misuse)
  deriving DecidableEq, Repr

def query (table : TableName) (predicates : List Predicate) (paging : Paging) (skipPaging : Bool) :
    Except QueryFault Query :=
  match FieldName.check paging.sortBy with
  | .error fault => .error (.sortColumn fault)
  | .ok sortBy =>
    match compileAll .empty predicates with
    | .error misuse => .error (.misuse misuse)
    | .ok (conditions, bindings) =>
      .ok
        { select :=
            { table, conditions, sortBy, sortOrder := paging.sortOrder
              window := if skipPaging then none else some (paging.offset, paging.pageLength) }
          bindings }

def selectByKey (table : TableName) (key : FieldName) : String :=
  "SELECT to_jsonb(r) AS record FROM " ++ table.text ++ " AS r WHERE " ++ key.text ++
    " = $1 LIMIT 1"

end RecordSearch.Sql
