import RecordSearch.Name
import RecordSearch.Text.Wildcard
import RecordSearch.Value

/-!
# Predicates

A condition on one column of a row. The constructors check the column name, and `ignoreCase` checks
that case has a meaning for the values of a list or a range.
-/

namespace RecordSearch

inductive LikeMode where
  | contains
  | startsWith
  | endsWith
  deriving DecidableEq, Repr

def LikeMode.pattern (mode : LikeMode) (text : String) : String :=
  let literal := Text.escapeWildcards text.toList
  String.ofList (match mode with
    | .contains => '%' :: literal ++ ['%']
    | .startsWith => literal ++ ['%']
    | .endsWith => '%' :: literal)

inductive Test where
  | exact (value : Value)
  | like (text : String) (mode : LikeMode)
  | oneOf (values : List Value)
  | between (min max : Option Value)
  deriving DecidableEq

structure Predicate where
  column : String
  test : Test
  fold : Bool
  deriving DecidableEq

/-- Ways to build or use a predicate that are mistakes of the caller and not of a request. -/
inductive Misuse where
  | invalidColumn (fault : NameFault)
  | needsText (column : String) (typeName : String)
  deriving DecidableEq, Repr

def Misuse.message : Misuse → String
  | .invalidColumn fault => "invalid predicate column: " ++ fault.message
  | .needsText column typeName =>
    "case-insensitive comparison on '" ++ column ++ "' requires text values, got " ++ typeName

namespace Predicate

def checkedColumn (column : String) : Except Misuse FieldName :=
  match FieldName.check column with
  | .ok name => .ok name
  | .error fault => .error (.invalidColumn fault)

def on (column : String) (test : Test) (fold : Bool) : Except Misuse Predicate :=
  (checkedColumn column).map fun name => { column := name.text, test, fold }

def exact (column : String) (value : Value) : Except Misuse Predicate :=
  on column (.exact value) false

/-- Patterns disregard case from the start. -/
def like (column : String) (text : String) (mode : LikeMode) : Except Misuse Predicate :=
  on column (.like text mode) true

def oneOf (column : String) (values : List Value) : Except Misuse Predicate :=
  on column (.oneOf values) false

def between (column : String) (min max : Option Value) : Except Misuse Predicate :=
  on column (.between min max) false

/-- The values for which case has to have a meaning before it can be disregarded. An exact match
has none, since it disregards case only for text. -/
def Test.folded : Test → List Value
  | .exact _ => []
  | .like _ _ => []
  | .oneOf values => values
  | .between min max => min.toList ++ max.toList

def ignoreCase (p : Predicate) : Except Misuse Predicate :=
  match (Test.folded p.test).find? (!·.isText) with
  | some value => .error (.needsText p.column value.typeName)
  | none => .ok { p with fold := true }

def caseSensitive (p : Predicate) : Predicate :=
  { p with fold := false }

end Predicate

/-! ### Criteria

What a search asks of records: identifying values, a text in the name, and further predicates. What
is left out asks for nothing. -/

def idPredicate (ids : List Value) : Predicate :=
  { column := "id", test := .oneOf ids, fold := false }

/-- The condition that a name holds a text, whatever its case. -/
def namePredicate (text : String) : Predicate :=
  { column := "name", test := .like text .contains, fold := true }

structure Criteria where
  ids : Option (List Value)
  name : Option String
  further : List Predicate

namespace Criteria

def everything : Criteria := ⟨none, none, []⟩

def predicates (criteria : Criteria) : List Predicate :=
  (criteria.ids.map idPredicate).toList ++ (criteria.name.map namePredicate).toList ++
    criteria.further

end Criteria

end RecordSearch
