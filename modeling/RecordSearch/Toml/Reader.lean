import RecordSearch.Toml.Scalar
import RecordSearch.Toml.Table
import RecordSearch.Toml.Text

/-!
# Reading TOML

A document is a list of lines, each a header or an assignment. It is read into one tree of values.
-/

namespace RecordSearch.Toml

/-- How deep lists and inline tables may be inside each other. -/
def maxDepth : Nat := 80

/-- A key, the equals sign behind it and what `skip` passes over around that: the path of the key,
its last part, and the text from the value on. -/
def readAssigned? (skip : List Char → Option (List Char)) (cs : List Char) :
    Option (List String × String × List Char) := do
  let (path, key, rest) ← readKey? cs
  match ← skip rest with
  | '=' :: rest => (skip rest).map fun rest => (path, key, rest)
  | _ => none

mutual

/-- The value at the start of a text, with at most `depth` levels inside it. -/
def readValue? (depth : Nat) : Nat → List Char → Option (Value × List Char)
  | 0, _ => none
  | fuel + 1, cs =>
    match cs with
    | '"' :: _ => (readString? cs).map fun (s, rest) => (.scalar (.string s), rest)
    | '\x27' :: _ => (readString? cs).map fun (s, rest) => (.scalar (.string s), rest)
    | '[' :: rest => if depth = 0 then none else readItems? (depth - 1) [] fuel rest
    | '\x7b' :: rest => if depth = 0 then none else readEntries? (depth - 1) [] fuel rest
    | cs => readScalar? cs

/-- The items of a list up to its end; `read` is what came before, last first. -/
def readItems? (depth : Nat) (read : List Value) : Nat → List Char → Option (Value × List Char)
  | 0, _ => none
  | fuel + 1, cs => do
    match ← skipGaps? false cs with
    | ']' :: rest => some (.list read.reverse, rest)
    | cs =>
      let (item, rest) ← readValue? depth fuel cs
      match ← skipGaps? false rest with
      | ',' :: rest => readItems? depth (item :: read) fuel rest
      | ']' :: rest => some (.list (item :: read).reverse, rest)
      | _ => none

/-- The assignments between braces up to their end; `read` is what came before, last first. -/
def readEntries? (depth : Nat) (read : List Assignment) :
    Nat → List Char → Option (Value × List Char)
  | 0, _ => none
  | fuel + 1, cs => do
    match ← skipGaps? false cs with
    | '\x7d' :: rest => (inlineTable? read.reverse).map fun table => (table, rest)
    | cs =>
      let (path, key, rest) ← readAssigned? (skipGaps? false) cs
      let (value, rest) ← readValue? depth fuel rest
      let read := ⟨path, key, value⟩ :: read
      match ← skipGaps? false rest with
      | ',' :: rest => readEntries? depth read fuel rest
      | '\x7d' :: rest => (inlineTable? read.reverse).map fun table => (table, rest)
      | _ => none

end

inductive Line where
  | header (header : Header)
  | assignment (assignment : Assignment)

def readHeader? (kind : HeaderKind) (cs : List Char) : Option (Header × List Char) := do
  let (path, key, rest) ← readKey? cs
  match kind, rest with
  | .table, ']' :: rest => some (⟨kind, path, key⟩, rest)
  | .listItem, ']' :: ']' :: rest => some (⟨kind, path, key⟩, rest)
  | _, _ => none

def readLine? (cs : List Char) : Option (Line × List Char) :=
  match cs with
  | '[' :: '[' :: rest => (readHeader? .listItem rest).map fun (h, rest) => (.header h, rest)
  | '[' :: rest => (readHeader? .table rest).map fun (h, rest) => (.header h, rest)
  | cs => do
    let (path, key, rest) ← readAssigned? (fun cs => some (skipSpace cs)) cs
    let (value, rest) ← readValue? maxDepth (2 * rest.length + 2) rest
    some (.assignment ⟨path, key, value⟩, rest)

def readLines? : Nat → List Char → Option (List Line)
  | 0, _ => none
  | fuel + 1, cs => do
    match ← skipGaps? false cs with
    | [] => some []
    | cs =>
      let (line, rest) ← readLine? cs
      let rest ← finishLine? rest
      (readLines? fuel rest).map (line :: ·)

/-- The assignments before the first header, and each header with the assignments under it. -/
def sections : List Line → List Assignment × List (Header × List Assignment)
  | [] => ([], [])
  | .assignment a :: rest =>
    let (assignments, others) := sections rest
    (a :: assignments, others)
  | .header h :: rest =>
    let (assignments, others) := sections rest
    ([], (h, assignments) :: others)

/-- A text without the mark that may stand in front of it. -/
def dropByteOrderMark : List Char → List Char
  | '\ufeff' :: rest => rest
  | cs => cs

def parse? (s : String) : Option (List (String × Value)) := do
  let cs := dropByteOrderMark s.toList
  let lines ← readLines? (cs.length + 1) cs
  let (assignments, others) := sections lines
  let root ← Node.assignAll? assignments []
  let root ← others.foldlM
    (fun (root : List (String × Node)) (part : Header × List Assignment) =>
      Node.define? part.1 part.2 root) root
  some (Node.members root)

end RecordSearch.Toml
