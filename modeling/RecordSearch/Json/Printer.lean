import RecordSearch.Json.Basic
import RecordSearch.Number.Shortest

/-!
# JSON text and order

The compact text of a value: no blanks, members in the order of their keys. With the order in which
rows are sorted by one of their members: numbers as floating point, texts and truth values by value,
any other pair by compact text, and what is missing or null at the end.
-/

namespace RecordSearch.Json

open Number

/-- A character inside a quoted text. Quote, backslash and control characters are escaped. -/
def escapeChar (c : Char) : List Char :=
  if c = '"' then ['\\', '"']
  else if c = '\\' then ['\\', '\\']
  else if c = '\n' then ['\\', 'n']
  else if c = '\r' then ['\\', 'r']
  else if c = '\t' then ['\\', 't']
  else if c.toNat = 8 then ['\\', 'b']
  else if c.toNat = 12 then ['\\', 'f']
  else if c.toNat < 32 then ['\\', 'u', '0', '0', hexChar (c.toNat / 16), hexChar (c.toNat % 16)]
  else [c]

def quote (s : String) : String :=
  String.ofList ('"' :: s.toList.flatMap escapeChar ++ ['"'])

mutual

/-- The compact text of a value. A number that is not finite is written as null. -/
def render : Json → String
  | .null => "null"
  | .bool b => if b then "true" else "false"
  | .integer i => intDecimal i
  | .float x => x.json?.getD "null"
  | .string s => quote s
  | .array items => "[" ++ ",".intercalate (renderItems items) ++ "]"
  | .object members => "\x7b" ++ ",".intercalate (renderMembers members) ++ "\x7d"

def renderItems : List Json → List String
  | [] => []
  | item :: rest => render item :: renderItems rest

def renderMembers : List (String × Json) → List String
  | [] => []
  | (key, value) :: rest => (quote key ++ ":" ++ render value) :: renderMembers rest

end

/-! ### Order -/

def comparePresent (a b : Json) : Ordering :=
  match a, b with
  | .string s, .string t => compare s t
  | .bool p, .bool q => compare p q
  | a, b =>
    match a.asFloat?, b.asFloat? with
    | some x, some y => (x.compare? y).getD .eq
    | _, _ => compare a.render b.render

/-- The order of two members of rows, the missing ones last. -/
def compareFields (a b : Option Json) : Ordering :=
  match a.filter (!·.isNull), b.filter (!·.isNull) with
  | none, none => .eq
  | none, some _ => .gt
  | some _, none => .lt
  | some a, some b => comparePresent a b

end RecordSearch.Json
