import RecordSearch.Number.Binary64

/-!
# JSON values

Integers and floating point numbers are kept apart: `1` and `1.0` are different values that compare
equal as numbers. The members of an object are in increasing order of their keys.
-/

namespace RecordSearch

open Number (Binary64)

inductive Json where
  | null
  | bool (b : Bool)
  | integer (i : Int)
  | float (x : Binary64)
  | string (s : String)
  | array (items : List Json)
  | object (members : List (String × Json))

namespace Json

/-- Puts a member at its place, over an earlier one with the same key. -/
def insertMember (key : String) (value : Json) : List (String × Json) → List (String × Json)
  | [] => [(key, value)]
  | (k, v) :: rest =>
    match compare key k with
    | .lt => (key, value) :: (k, v) :: rest
    | .eq => (key, value) :: rest
    | .gt => (k, v) :: insertMember key value rest

/-- The object with the given members; of several with one key the last counts. -/
def ofMembers (members : List (String × Json)) : Json :=
  .object (members.foldl (fun sorted member => insertMember member.1 member.2 sorted) [])

def isNull : Json → Bool
  | .null => true
  | _ => false

/-- The member of an object under a key. Other values have no members. -/
def get? (key : String) : Json → Option Json
  | .object members => members.lookup key
  | _ => none

/-- A member that is there and not null. -/
def field? (key : String) (row : Json) : Option Json :=
  (row.get? key).filter fun value => !value.isNull

def asText? : Json → Option String
  | .string s => some s
  | _ => none

def asBool? : Json → Option Bool
  | .bool b => some b
  | _ => none

def asArray? : Json → Option (List Json)
  | .array items => some items
  | _ => none

def asIntegerIn? (low high : Int) : Json → Option Int
  | .integer i => if low ≤ i ∧ i ≤ high then some i else none
  | _ => none

def asInt64? (value : Json) : Option Int :=
  value.asIntegerIn? (-9223372036854775808) 9223372036854775807

/-- A number as floating point, rounded if it is an integer. -/
def asFloat? : Json → Option Binary64
  | .integer i => some (Binary64.ofInt i)
  | .float x => some x
  | _ => none

/-! ### Structures

A structure is written as an object with a member for each field, or as an array of its fields in
their order. Members that are no fields are passed over; an array may only leave out fields at its
end, and has nothing beyond them. -/

/-- The members of a structure by the names of its fields. An array has at least the first `least`
fields. -/
def fields? (names : List String) (least : Nat) : Json → Option (List (String × Json))
  | .object members => some (members.filter fun member => names.contains member.1)
  | .array items =>
    if least ≤ items.length ∧ items.length ≤ names.length then some (names.zip items) else none
  | _ => none

def required? {α : Type} (fields : List (String × Json)) (name : String)
    (read : Json → Option α) : Option α :=
  (fields.lookup name).bind read

def orDefault? {α : Type} (fields : List (String × Json)) (name : String) (default : α)
    (read : Json → Option α) : Option α :=
  match fields.lookup name with
  | some value => read value
  | none => some default

def optional? {α : Type} (fields : List (String × Json)) (name : String)
    (read : Json → Option α) : Option (Option α) :=
  match fields.lookup name with
  | some value => if value.isNull then some none else (read value).map some
  | none => some none

/-- The name of a choice: a text, or an object with this one member and nothing in it. -/
def choice? : Json → Option String
  | .string name => some name
  | .object [(name, .null)] => some name
  | _ => none

end Json

end RecordSearch
