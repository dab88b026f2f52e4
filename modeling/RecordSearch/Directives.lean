import RecordSearch.Distinct
import RecordSearch.Json.Basic
import RecordSearch.Text.Classes

/-!
# Directives

Dot paths that say which relations of a record, and of the records they lead to, are to be
resolved. Seeking a relation keeps the paths that start with its name, without that name.
-/

namespace RecordSearch

structure Directives where
  paths : List String
  deriving DecidableEq, Repr

namespace Directives

def isEmpty (d : Directives) : Bool :=
  d.paths.isEmpty

def size (d : Directives) : Nat :=
  d.paths.length

/-- Paths without the blanks around them; blank ones are dropped. -/
def ofPaths (paths : List String) : Directives :=
  ⟨(paths.map Text.trim).filter (· ≠ "")⟩

def splitCommas : List Char → List (List Char)
  | [] => [[]]
  | c :: rest =>
    if c = ',' then [] :: splitCommas rest
    else
      match splitCommas rest with
      | [] => [[c]]
      | part :: parts => (c :: part) :: parts

def ofHeader (header : String) : Directives :=
  ofPaths ((splitCommas header.toList).map String.ofList)

def text (d : Directives) : String :=
  ",".intercalate d.paths

/-- How a path answers to a relation: not at all, or with what remains after its name. -/
def remainder? (target path : String) : Option String :=
  match target.toList.isPrefixOf? path.toList with
  | some [] => some ""
  | some ('.' :: rest) => some (String.ofList rest)
  | _ => none

/-- The directives for the records that a relation leads to, if it is asked for at all. A path that
ends with the relation asks for nothing more. -/
def seek (d : Directives) (target : String) : Option Directives :=
  match d.paths.filterMap (remainder? target) with
  | [] => none
  | remainders => some ⟨distinct (remainders.filter (· ≠ ""))⟩

end Directives

/-- Directives as they are written in JSON, without any trimming. -/
def pathsOfJson? (value : Json) : Option (List String) :=
  value.asArray?.bind fun items => items.mapM Json.asText?

structure RequestOptions where
  directives : Option Directives
  /-- Every matching record instead of one page. -/
  skipPaging : Bool
  deriving DecidableEq, Repr

namespace RequestOptions

def plain : RequestOptions := ⟨none, false⟩

/-- The options of a request with an optional header; a header without paths asks for nothing. -/
def ofHeader (header : Option String) : RequestOptions :=
  { directives := (header.map Directives.ofHeader).filter fun d => !d.isEmpty
    skipPaging := false }

end RequestOptions

end RecordSearch
