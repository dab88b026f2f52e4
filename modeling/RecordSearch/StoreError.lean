import RecordSearch.Name

/-!
# Errors of stores

With the durations that they tell of: spans of whole milliseconds, written in seconds from one
second on and in milliseconds below.
-/

namespace RecordSearch

structure Duration where
  millis : Nat
  deriving DecidableEq, Repr

namespace Duration

def dropTrailingZeros (cs : List Char) : List Char :=
  (cs.reverse.dropWhile (· = '0')).reverse

def text (d : Duration) : String :=
  if d.millis = 0 then "0ns"
  else if d.millis < 1000 then Number.decimal d.millis ++ "ms"
  else
    let fraction := dropTrailingZeros (Number.padded 3 (d.millis % 1000))
    let point := if fraction.isEmpty then [] else ['.']
    String.ofList (Number.digits (d.millis / 1000) ++ point ++ fraction ++ ['s'])

end Duration

inductive StoreOperation where
  | select
  | selectById
  deriving DecidableEq, Repr

def StoreOperation.name : StoreOperation → String
  | .select => "select"
  | .selectById => "select_by_id"

inductive DatabaseFault where
  | poolClosed
  deriving DecidableEq, Repr

def DatabaseFault.message : DatabaseFault → String
  | .poolClosed => "attempted to acquire a connection on a closed pool"

inductive StoreError where
  | database (table : String) (operation : StoreOperation) (fault : DatabaseFault)
  /-- A row does not have the form of a record. -/
  | malformedRow
  | invalidTable (fault : NameFault)
  | invalidSortColumn (fault : NameFault)
  /-- A request took longer than its deadline. -/
  | timeout (deadline : Duration)
  deriving DecidableEq, Repr

/-- The text of an error. What a malformed row lacks is not part of it. -/
def StoreError.message : StoreError → String
  | .database table operation fault =>
    "Database error on '" ++ table ++ "' during " ++ operation.name ++ ": " ++ fault.message
  | .malformedRow => "Serialization error"
  | .invalidTable fault => "Validation error: " ++ fault.message
  | .invalidSortColumn fault => "Invalid sort column: " ++ fault.message
  | .timeout deadline => "Request exceeded its deadline of " ++ deadline.text

end RecordSearch
