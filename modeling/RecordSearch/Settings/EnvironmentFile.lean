import RecordSearch.Text.Classes

/-!
# Environment files

Files of variables that are added to an environment. A line names a variable and gives its value,
with quotes, escapes and the values of other variables in it. A variable that the environment has
already keeps its value.
-/

namespace RecordSearch

abbrev Environment := List (String × String)

inductive EnvironmentFault where
  | malformed
  /-- The character zero is in a value, where environments end it. -/
  | zeroInside (name value : String)
  deriving DecidableEq, Repr

def Environment.variableFault? (name value : String) : Option EnvironmentFault :=
  if value.toList.any fun c => c.toNat = 0 then some (.zeroInside name value) else none

def Environment.fault? (environment : Environment) : Option EnvironmentFault :=
  environment.findSome? fun (name, value) => variableFault? name value

namespace EnvironmentFile

open Text (isAlphanumeric isBlank)

/-! ### Lines -/

/-- How far a text is into a quotation, an escape, or the blanks that a comment may follow. -/
inductive Phase where
  | plain
  | blank
  | escape
  | single
  | singleEscape
  | double
  | doubleEscape
  deriving DecidableEq, Repr

/-- The phase after a plain character, which may open a quotation or start an escape. -/
def Phase.opened (c : Char) : Phase :=
  if c = '\\' then .escape
  else if c = '"' then .double
  else if c = '\x27' then .single
  else .plain

def Phase.next (phase : Phase) (c : Char) : Phase :=
  match phase with
  | .plain => if isBlank c && c ≠ '\n' && c ≠ '\r' then .blank else .opened c
  | .blank => .opened c
  | .escape => .plain
  | .single => if c = '\\' then .singleEscape else if c = '\x27' then .plain else .single
  | .singleEscape => .single
  | .double => if c = '\\' then .doubleEscape else if c = '"' then .plain else .double
  | .doubleEscape => .double

/-- A text up to a comment that follows a blank, and the phase at its end, `none` for a comment. -/
def scan (phase : Phase) : List Char → List Char × Option Phase
  | [] => ([], some phase)
  | c :: rest =>
    if phase = .blank ∧ c = '#' then ([], none)
    else
      let (read, last) := scan (phase.next c) rest
      (c :: read, last)

/-- The parts of a text that end with a line end, and the part after the last one. -/
def rawLines : List Char → List (List Char)
  | [] => []
  | c :: rest =>
    if c = '\n' then ['\n'] :: rawLines rest
    else
      match rawLines rest with
      | [] => [[c]]
      | line :: lines => (c :: line) :: lines

def dropLineEnd (cs : List Char) : List Char :=
  match cs.reverse with
  | '\n' :: '\r' :: rest => rest.reverse
  | '\n' :: rest => rest.reverse
  | _ => cs

/-- Joins lines that a quotation or an escape holds together. The flag tells whether the text ends
inside of one. -/
def logicalLines (held : List Char) (phase : Phase) :
    List (List Char) → List (List Char) × Bool
  | [] => ([], phase ≠ .plain)
  | line :: rest =>
    if ((held ++ line).dropWhile isBlank).head? = some '#' then
      logicalLines [] .plain rest
    else
      match scan phase line with
      | (read, none) =>
        let (lines, isOpen) := logicalLines [] .plain rest
        ((held ++ read) :: lines, isOpen)
      | (_, some .plain) =>
        let (lines, isOpen) := logicalLines [] .plain rest
        (dropLineEnd (held ++ line) :: lines, isOpen)
      | (_, some phase) => logicalLines (held ++ line) phase rest

/-! ### Values -/

inductive Mode where
  | plain
  | double
  | single
  /-- A character after a backslash, inside of double quotes or not. -/
  | escape (inDouble : Bool)
  /-- The name of a variable, last character first, in braces or not. -/
  | variable (name : List Char) (inBraces inDouble : Bool)
  /-- Only blanks and a comment may follow. -/
  | done
  deriving DecidableEq, Repr

def valueOf (environment : Environment) (name : List Char) : List Char :=
  ((environment.lookup (String.ofList name.reverse)).getD "").toList

def Mode.outside (inDouble : Bool) : Mode :=
  if inDouble then .double else .plain

def escaped? (c : Char) : Option Char :=
  if c = 'n' then some '\n'
  else if c = '\\' || c = '\x27' || c = '"' || c = '$' || c = ' ' then some c
  else none

/-- Reads a value. A quotation and the braces of a variable have to be closed. -/
def readValue? (environment : Environment) (mode : Mode) : List Char → Option (List Char)
  | [] =>
    match mode with
    | .plain | .done | .escape false => some []
    | .variable name false false => some (valueOf environment name)
    | _ => none
  | c :: rest =>
    match mode with
    | .done =>
      if c = ' ' ∨ c = '\t' then readValue? environment .done rest
      else if c = '#' then some []
      else none
    | .escape inDouble =>
      match escaped? c with
      | some e => (readValue? environment (.outside inDouble) rest).map (e :: ·)
      | none => none
    | .single =>
      if c = '\x27' then readValue? environment .plain rest
      else (readValue? environment .single rest).map (c :: ·)
    | .variable name true inDouble =>
      if c = '\x7d' then
        (readValue? environment (.outside inDouble) rest).map (valueOf environment name ++ ·)
      else readValue? environment (.variable (c :: name) true inDouble) rest
    | .variable name false inDouble =>
      if isAlphanumeric c then readValue? environment (.variable (c :: name) false inDouble) rest
      else if c = '\x7b' && name.isEmpty then
        readValue? environment (.variable [] true inDouble) rest
      else if c = '$' then
        (readValue? environment (.variable [] false inDouble) rest).map
          (valueOf environment name ++ ·)
      else
        (readValue? environment (.outside inDouble) rest).map
          (valueOf environment name ++ c :: ·)
    | .double =>
      if c = '$' then readValue? environment (.variable [] false true) rest
      else if c = '"' then readValue? environment .plain rest
      else if c = '\\' then readValue? environment (.escape true) rest
      else (readValue? environment .double rest).map (c :: ·)
    | .plain =>
      if c = '$' then readValue? environment (.variable [] false false) rest
      else if c = '\x27' then readValue? environment .single rest
      else if c = '"' then readValue? environment .double rest
      else if c = '\\' then readValue? environment (.escape false) rest
      else if c = ' ' ∨ c = '\t' then readValue? environment .done rest
      else (readValue? environment .plain rest).map (c :: ·)

/-! ### Variables -/

def isKeyStart (c : Char) : Bool :=
  c.isAlpha || c = '_'

def isKeyPart (c : Char) : Bool :=
  c.isAlphanum || c = '_' || c = '.'

/-- A name and the text after it and the blanks behind it. -/
def readKey? (cs : List Char) : Option (List Char × List Char) :=
  match cs with
  | c :: _ =>
    if isKeyStart c then some (cs.takeWhile isKeyPart, (cs.dropWhile isKeyPart).dropWhile isBlank)
    else none
  | [] => none

/-- What a line says: nothing, or the value of a variable. The word `export` may stand in front. -/
def readLine? (environment : Environment) (line : List Char) : Option (Option (String × String)) :=
  match Text.trimChars line with
  | [] => some none
  | '#' :: _ => some none
  | cs => do
    let (key, rest) ← readKey? cs
    let (key, rest) ←
      if key = "export".toList ∧ rest.head? ≠ some '=' then readKey? rest else some (key, rest)
    match rest with
    | '=' :: rest =>
      match rest.dropWhile isBlank with
      | [] => some (some (String.ofList key, ""))
      | '#' :: _ => some (some (String.ofList key, ""))
      | rest =>
        (readValue? environment .plain rest).map fun value =>
          some (String.ofList key, String.ofList value)
    | _ => none

/-- Adds a variable that the environment does not have yet. -/
def define (environment : Environment) (name value : String) :
    Except EnvironmentFault Environment :=
  match environment.lookup name, Environment.variableFault? name value with
  | some _, _ => .ok environment
  | none, some fault => .error fault
  | none, none => .ok (environment ++ [(name, value)])

def addLines (environment : Environment) : List (List Char) → Except EnvironmentFault Environment
  | [] => .ok environment
  | line :: rest =>
    match readLine? environment line with
    | none => .error .malformed
    | some none => addLines environment rest
    | some (some (name, value)) =>
      match define environment name value with
      | .error fault => .error fault
      | .ok environment => addLines environment rest

def dropByteOrderMark : List Char → List Char
  | '\ufeff' :: rest => rest
  | cs => cs

/-- The environment with the variables of a file. The lines before a fault count first. -/
def load (environment : Environment) (text : String) : Except EnvironmentFault Environment :=
  let (lines, isOpen) := logicalLines [] .plain (rawLines (dropByteOrderMark text.toList))
  match addLines environment lines with
  | .ok environment => if isOpen then .error .malformed else .ok environment
  | .error fault => .error fault

end EnvironmentFile

end RecordSearch
