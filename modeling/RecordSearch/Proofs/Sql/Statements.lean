import RecordSearch.Database
import RecordSearch.Proofs.Sql.Reading

/-!
# Reading statements

How a database reads and answers a statement. After what is selected and the table come the clauses,
each of them up to the word that begins the next one. The rows on which the condition is true are
sorted, then those before the offset are left out, and no more are given than the limit says.

As with conditions the reading is partial: it knows the statements that select or count the records
of one table under the name `r`, and has no answer where the condition has no truth.
-/

namespace RecordSearch.Sql

/-! ### Words -/

/-- The words, signs and brackets of a text. -/
def words (text : String) : List String :=
  ((text.toList.splitBy joins).filter (· ≠ [' '])).map String.ofList

/-- Whether a word begins one of the clauses behind the condition. All of them are reserved, so that
none is the name of a column. -/
def isClauseWord (word : String) : Bool :=
  ["ORDER", "OFFSET", "LIMIT"].contains word

/-! ### Grammar -/

/-- What a statement selects. -/
inductive Target where
  | records
  | count
  deriving DecidableEq, Repr

/-- A statement as it was read. -/
structure Reading where
  target : Target
  table : String
  clause : Option Condition
  order : Option (String × SortOrder)
  offset : Nat
  limit : Option Nat
  deriving DecidableEq, Repr

def readTarget? : List String → Option (Target × List String)
  | "SELECT" :: "to_jsonb" :: "(" :: "r" :: ")" :: "AS" :: "record" :: rest => some (.records, rest)
  | "SELECT" :: "COUNT" :: "(" :: "*" :: ")" :: "AS" :: "total" :: rest => some (.count, rest)
  | _ => none

def readTable? : List String → Option (String × List String)
  | "FROM" :: schema :: "." :: table :: "AS" :: "r" :: rest =>
    if Name.fault? schema = none ∧ Name.fault? table = none then
      some (schema ++ "." ++ table, rest)
    else none
  | "FROM" :: table :: "AS" :: "r" :: rest =>
    if Name.fault? table = none then some (table, rest) else none
  | _ => none

def readClause? : List Token → Option (Option Condition)
  | [] => some none
  | .where :: tokens =>
    match readDisjunction? (3 * tokens.length + 3) tokens with
    | some (condition, []) => some (some condition)
    | _ => none
  | _ => none

def readOrder? : List String → Option (Option (String × SortOrder) × List String)
  | "ORDER" :: "BY" :: column :: "DESC" :: rest =>
    if Name.fault? column = none then some (some (column, .descending), rest) else none
  | "ORDER" :: "BY" :: column :: rest =>
    if Name.fault? column = none then some (some (column, .ascending), rest) else none
  | rest => some (none, rest)

def readNumber? (word : String) : Option Nat :=
  if word ≠ "" ∧ word.toList.all Number.isDigit then some (Number.ofDigits word.toList) else none

def readOffset? : List String → Option (Nat × List String)
  | "OFFSET" :: number :: rest => (readNumber? number).map fun offset => (offset, rest)
  | rest => some (0, rest)

/-- Reads the last clause, behind which nothing may be left. -/
def readLimit? : List String → Option (Option Nat)
  | [] => some none
  | ["LIMIT", number] => (readNumber? number).map some
  | _ => none

def readStatement? (text : String) : Option Reading := do
  let (target, rest) ← readTarget? (words text)
  let (table, rest) ← readTable? rest
  let tokens ← (rest.takeWhile (!isClauseWord ·)).mapM fun word => Token.read? word.toList
  let clause ← readClause? tokens
  let (order, rest) ← readOrder? (rest.dropWhile (!isClauseWord ·))
  let (offset, rest) ← readOffset? rest
  let limit ← readLimit? rest
  some { target, table, clause, order, offset, limit }

/-! ### Answers -/

section Answer

variable (tables : String → List Json) (values : List Value)

/-- The rows on which a clause is true. -/
def kept? (clause : Option Condition) : List Json → Option (List Json)
  | [] => some []
  | row :: rows => do
    let truth ← clauseTruth? values row clause
    let kept ← kept? clause rows
    some (if truth = .yes then row :: kept else kept)

/-- Rows in the order of a column, those that are equal in it as they came. -/
def ascendingBy (column : String) (rows : List Json) : List Json :=
  rows.mergeSort fun a b => Json.compareFields (a.get? column) (b.get? column) != .gt

def inOrder (rows : List Json) : Option (String × SortOrder) → List Json
  | none => rows
  | some (column, .ascending) => ascendingBy column rows
  | some (column, .descending) => (ascendingBy column rows).reverse

namespace Reading

def records? (reading : Reading) : Option (List Json) :=
  if reading.target = .records then
    (kept? values reading.clause (tables reading.table)).map fun rows =>
      let rest := (inOrder rows reading.order).drop reading.offset
      match reading.limit with
      | none => rest
      | some limit => rest.take limit
  else none

/-- The count of the rows. It is one row itself, so that clauses behind the condition would not be
about the rows that are counted. -/
def total? (reading : Reading) : Option Int :=
  if reading.target = .count ∧ reading.order = none ∧ reading.offset = 0 ∧ reading.limit = none then
    (kept? values reading.clause (tables reading.table)).map fun rows => (rows.length : Int)
  else none

end Reading

def answerRecords? (text : String) : Option (List Json) :=
  (readStatement? text).bind (·.records? tables values)

def answerTotal? (text : String) : Option Int :=
  (readStatement? text).bind (·.total? tables values)

/-- The records that a query gives and how many there are on all pages. Without a statement that
counts them they are those that it gives. -/
def Query.answer? (query : Query) : Option (List Json × Int) := do
  let rows ← answerRecords? tables query.bindings.values query.select.text
  match query.select.countText? with
  | none => some (rows, rows.length)
  | some text => (answerTotal? tables query.bindings.values text).map fun total => (rows, total)

end Answer

end RecordSearch.Sql
