/-!
# Folders

The files of a folder, and finding one of them by a path that starts in it. What lies outside of the
folder is not known, except that there are folders all the way up.
-/

namespace RecordSearch

/-- Files with their texts, under paths that are relative to the folder. Of several texts for one
file the last counts. -/
abbrev Folder := List (String × String)

inductive FileFault where
  | notFound
  | notAFolder
  | isAFolder
  | nameTooLong
  deriving DecidableEq, Repr

def FileFault.message : FileFault → String
  | .notFound => "No such file or directory (os error 2)"
  | .notAFolder => "Not a directory (os error 20)"
  | .isAFolder => "Is a directory (os error 21)"
  | .nameTooLong => "File name too long (os error 36)"

/-- Where a path has led to. -/
inductive Place where
  /-- The folder itself, or one below it, by the names on the way. -/
  | inside (names : List (List Char))
  /-- A folder that the folder is in. -/
  | above
  | file (text : String)
  deriving DecidableEq, Repr

namespace Folder

/-- The sizes in bytes that a name and a whole path may have. -/
def maxNameSize : Nat := 255

def maxPathSize : Nat := 4095

/-- The parts of a path between its slashes. -/
def parts : List Char → List (List Char)
  | [] => [[]]
  | c :: rest =>
    if c = '/' then [] :: parts rest
    else
      match parts rest with
      | [] => [[c]]
      | part :: more => (c :: part) :: more

/-- The parts that stay in the folder where they are looked up. -/
def isStay (part : List Char) : Bool :=
  part = [] || part = ['.']

def names (path : String) : List (List Char) :=
  (parts path.toList).filter (!isStay ·)

def lookUp (folder : Folder) (wanted : List (List Char)) : Except FileFault Place :=
  match folder.reverse.find? fun file => names file.1 = wanted with
  | some (_, text) => .ok (.file text)
  | none =>
    if folder.any fun file => wanted.isPrefixOf (names file.1) then .ok (.inside wanted)
    else .error .notFound

/-- The place where one part of a path leads to. -/
def step (folder : Folder) : Place → List Char → Except FileFault Place
  | .file _, _ => .error .notAFolder
  | place, part =>
    if isStay part then .ok place
    else if part = ['.', '.'] then
      match place with
      | .inside (name :: more) => .ok (.inside (name :: more).dropLast)
      | _ => .ok .above
    else if maxNameSize < (String.ofList part).utf8ByteSize then .error .nameTooLong
    else
      match place with
      | .inside before => folder.lookUp (before ++ [part])
      | _ => .error .notFound

def follow (folder : Folder) (path : String) : Except FileFault Place :=
  if path = "" then .error .notFound
  else if maxPathSize < path.utf8ByteSize then .error .nameTooLong
  else
    (parts path.toList).foldlM folder.step
      (if path.toList.head? = some '/' then .above else .inside [])

def read (folder : Folder) (path : String) : Except FileFault String :=
  match folder.follow path with
  | .ok (.file text) => .ok text
  | .ok _ => .error .isAFolder
  | .error fault => .error fault

end Folder

end RecordSearch
