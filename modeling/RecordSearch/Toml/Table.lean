import RecordSearch.Toml.Value

/-!
# Tables of TOML

Putting the statements of a document together. Dotted keys and headers make the tables that they go
through, and nothing may be defined twice: a table remembers how it came to be, and that decides
what may still be added to it.
-/

namespace RecordSearch.Toml

/-- How a table came to be. -/
inductive Origin where
  /-- A header or braces define it. -/
  | defined
  /-- A header goes through it to a table inside. -/
  | passed
  /-- A dotted key goes through it. -/
  | dotted
  deriving DecidableEq, Repr

inductive Node where
  /-- A value, which nothing can be added to. -/
  | value (v : Value)
  | table (origin : Origin) (entries : List (String × Node))
  /-- A list of tables, of which only the last is still open. -/
  | tables (closed : List (List (String × Node))) (last : List (String × Node))

structure Assignment where
  path : List String
  key : String
  value : Value

inductive HeaderKind where
  | table
  | listItem
  deriving DecidableEq, Repr

structure Header where
  kind : HeaderKind
  path : List String
  key : String

namespace Node

def replace (key : String) (node : Node) (entries : List (String × Node)) :
    List (String × Node) :=
  entries.map fun entry => if entry.1 = key then (key, node) else entry

/-- Changes the entries at the end of a path, making the tables on the way that are missing. The way
leads through the last table of a list. A dotted key does not lead into a table that is defined
elsewhere. -/
def changeAt? (isDotted : Bool)
    (change : Origin → List (String × Node) → Option (List (String × Node))) :
    List String → Origin → List (String × Node) → Option (List (String × Node))
  | [], origin, entries => change origin entries
  | key :: path, _, entries =>
    match entries.lookup key with
    | none =>
      let origin := if isDotted then .dotted else .passed
      (changeAt? isDotted change path origin []).map fun inner =>
        entries ++ [(key, .table origin inner)]
    | some (.table origin inner) =>
      if isDotted ∧ origin = .defined then none
      else
        (changeAt? isDotted change path origin inner).map fun inner =>
          replace key (.table origin inner) entries
    | some (.tables closed last) =>
      (changeAt? isDotted change path .defined last).map fun last =>
        replace key (.tables closed last) entries
    | some (.value _) => none

/-- Adds a value under a key that is free. Dotted keys add only to tables that dotted keys made, and
plain keys only to others. -/
def assign? (a : Assignment) (entries : List (String × Node)) : Option (List (String × Node)) :=
  changeAt? (!a.path.isEmpty)
    (fun origin entries =>
      if (origin == .dotted) == a.path.isEmpty || (entries.lookup a.key).isSome then none
      else some (entries ++ [(a.key, .value a.value)]))
    a.path .defined entries

def assignAll? (assignments : List Assignment) (entries : List (String × Node)) :
    Option (List (String × Node)) :=
  assignments.foldlM (fun entries a => assign? a entries) entries

/-- Adds the table of a header with what is assigned in it. A table that headers went through may be
defined once. -/
def define? (header : Header) (assignments : List Assignment)
    (root : List (String × Node)) : Option (List (String × Node)) :=
  changeAt? false
    (fun _ entries =>
      match header.kind, entries.lookup header.key with
      | .table, none =>
        (assignAll? assignments []).map fun inner =>
          entries ++ [(header.key, .table .defined inner)]
      | .table, some (.table .passed inner) =>
        (assignAll? assignments inner).map fun inner =>
          replace header.key (.table .defined inner) entries
      | .listItem, none =>
        (assignAll? assignments []).map fun inner => entries ++ [(header.key, .tables [] inner)]
      | .listItem, some (.tables closed last) =>
        (assignAll? assignments []).map fun inner =>
          replace header.key (.tables (closed ++ [last]) inner) entries
      | _, _ => none)
    header.path .defined root

mutual

def toValue : Node → Value
  | .value v => v
  | .table _ entries => .table (members entries)
  | .tables closed last => .list (lists closed ++ [.table (members last)])

def members : List (String × Node) → List (String × Value)
  | [] => []
  | (key, node) :: rest => (key, node.toValue) :: members rest

def lists : List (List (String × Node)) → List Value
  | [] => []
  | entries :: rest => .table (members entries) :: lists rest

end

end Node

/-- The table of assignments between braces. -/
def inlineTable? (assignments : List Assignment) : Option Value :=
  (Node.assignAll? assignments []).map fun entries => .table (Node.members entries)

end RecordSearch.Toml
