import RecordSearch.Json.Basic

/-!
# Values of TOML

A document may hold numbers that are written as numbers are and yet have no value. They are refused
only where a value is asked for, so they have a place in the tree of a document.
-/

namespace RecordSearch.Toml

inductive Value where
  /-- A text, a truth value, a number or a time. -/
  | scalar (value : Json)
  /-- A number that is too large to be kept, or whose digits are none of its base. -/
  | numberWithoutValue
  | list (items : List Value)
  | table (members : List (String × Value))

namespace Value

mutual

/-- The tree of a value, if every number in it has a value. -/
def toJson? : Value → Option Json
  | .scalar value => some value
  | .numberWithoutValue => none
  | .list items => (itemsToJson? items).map .array
  | .table members => (membersToJson? members).map .ofMembers

def itemsToJson? : List Value → Option (List Json)
  | [] => some []
  | item :: rest =>
    match item.toJson?, itemsToJson? rest with
    | some item, some rest => some (item :: rest)
    | _, _ => none

def membersToJson? : List (String × Value) → Option (List (String × Json))
  | [] => some []
  | (key, value) :: rest =>
    match value.toJson?, membersToJson? rest with
    | some value, some rest => some ((key, value) :: rest)
    | _, _ => none

end

end Value

end RecordSearch.Toml
