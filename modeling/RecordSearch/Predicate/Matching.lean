import RecordSearch.Predicate.Basic

/-!
# Matching rows

Whether a row satisfies a predicate. A column that is missing or null satisfies only a range without
bounds, and a column that cannot be compared with a value satisfies nothing.
-/

namespace RecordSearch

open Number (Binary64)
open Calendar (Date Instant)

/-- The order of a column against a value, `none` where they cannot be compared. -/
def compareField (field : Json) (fold : Bool) : Value → Option Ordering
  | .text expected => do
    let actual ← field.asText?
    if fold then some (compare (Text.lowerCase actual) (Text.lowerCase expected))
    else some (compare actual expected)
  | .integer expected =>
    match field.asInt64? with
    | some actual => some (compare actual expected)
    | none => do
      let actual ← field.asFloat?
      actual.compare? (Binary64.ofInt expected)
  | .float expected => do
    let actual ← field.asFloat?
    actual.compare? expected
  | .bool expected => do
    let actual ← field.asBool?
    some (compare actual expected)
  | .uuid expected => do
    let actual ← (← field.asText?) |> Uuid.parse?
    some (compare actual.bits expected.bits)
  | .timestamp expected => do
    let actual ← (← field.asText?) |> Instant.parseStrict?
    some (actual.order expected)
  | .date expected => do
    let actual ← (← field.asText?) |> Date.parse?
    some (actual.order expected)

def equals (field : Json) (fold : Bool) (value : Value) : Bool :=
  compareField field fold value == some .eq

def atLeast (field : Json) (fold : Bool) (value : Value) : Bool :=
  match compareField field fold value with
  | some .gt | some .eq => true
  | _ => false

def atMost (field : Json) (fold : Bool) (value : Value) : Bool :=
  match compareField field fold value with
  | some .lt | some .eq => true
  | _ => false

def Test.passes (test : Test) (fold : Bool) (field : Json) : Bool :=
  match test with
  | .exact value => equals field (fold && value.isText) value
  | .like text mode =>
    match field.asText? with
    | some actual => Text.likeMatches actual (mode.pattern text) fold
    | none => false
  | .oneOf values => values.any (equals field fold)
  | .between min max => min.all (atLeast field fold) && max.all (atMost field fold)

namespace Predicate

def isMatch (p : Predicate) (row : Json) : Bool :=
  match p.test, row.field? p.column with
  | .between none none, _ => true
  | test, some field => test.passes p.fold field
  | _, none => false

def allMatch (predicates : List Predicate) (row : Json) : Bool :=
  predicates.all (·.isMatch row)

end Predicate

end RecordSearch
