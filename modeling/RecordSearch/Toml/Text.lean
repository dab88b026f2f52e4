import RecordSearch.Number.Digits
import RecordSearch.Toml.Layout

/-!
# Strings and keys of TOML

Strings between quotes, with or without escapes, on one line or on several, and the dotted keys that
are made of strings and bare words.
-/

namespace RecordSearch.Toml

open Number (hexValue?)

/-- A number of `count` hexadecimal digits. -/
def readHex? (value : Nat) : Nat → List Char → Option (Nat × List Char)
  | 0, cs => some (value, cs)
  | count + 1, c :: rest => do
    let digit ← hexValue? c
    readHex? (16 * value + digit) count rest
  | _ + 1, [] => none

def readCodePoint? (count : Nat) (cs : List Char) : Option (Char × List Char) := do
  let (code, rest) ← readHex? 0 count cs
  if code.isValidChar then some (Char.ofNat code, rest) else none

def readEscape? : List Char → Option (Char × List Char)
  | 'b' :: rest => some (Char.ofNat 8, rest)
  | 't' :: rest => some ('\t', rest)
  | 'n' :: rest => some ('\n', rest)
  | 'f' :: rest => some (Char.ofNat 12, rest)
  | 'r' :: rest => some ('\r', rest)
  | 'e' :: rest => some (Char.ofNat 27, rest)
  | '"' :: rest => some ('"', rest)
  | '\\' :: rest => some ('\\', rest)
  | 'x' :: rest => readCodePoint? 2 rest
  | 'u' :: rest => readCodePoint? 4 rest
  | 'U' :: rest => readCodePoint? 8 rest
  | _ => none

/-- The rest of a string with escapes on one line; `read` is what came before, last first. -/
def readBasic? (read : List Char) : Nat → List Char → Option (String × List Char)
  | 0, _ => none
  | fuel + 1, cs =>
    match cs with
    | [] => none
    | '"' :: rest => some (String.ofList read.reverse, rest)
    | '\\' :: rest => do
      let (c, rest) ← readEscape? rest
      readBasic? (c :: read) fuel rest
    | c :: rest => if isControl c then none else readBasic? (c :: read) fuel rest

/-- The rest of a string without escapes on one line. -/
def readLiteral? (read : List Char) : List Char → Option (String × List Char)
  | [] => none
  | '\x27' :: rest => some (String.ofList read.reverse, rest)
  | c :: rest => if isControl c then none else readLiteral? (c :: read) rest

/-- The text after three closing quotes, with up to two quotes before them that belong to the
string. -/
def closing? (mark : Char) (read : List Char) : List Char → Option (String × List Char)
  | a :: b :: c :: rest =>
    if a = mark ∧ b = mark ∧ c = mark then
      let extra := (rest.take 2).takeWhile (· = mark)
      some (String.ofList (read.reverse ++ extra), rest.drop extra.length)
    else none
  | _ => none

/-- The rest of a string with escapes on several lines. Its line ends stay as they are written, but
a backslash at the end of a line joins the lines, without the blanks and line ends between them. -/
def readBasicLines? (read : List Char) : Nat → List Char → Option (String × List Char)
  | 0, _ => none
  | fuel + 1, cs =>
    match closing? '"' read cs with
    | some done => some done
    | none =>
      match cs with
      | [] => none
      | '\\' :: rest =>
        match newline? (skipSpace rest) with
        | some rest =>
          readBasicLines? read fuel (skipEmptyLines rest)
        | none => do
          let (c, rest) ← readEscape? rest
          readBasicLines? (c :: read) fuel rest
      | '\r' :: '\n' :: rest => readBasicLines? ('\n' :: '\r' :: read) fuel rest
      | '\n' :: rest => readBasicLines? ('\n' :: read) fuel rest
      | c :: rest => if isControl c then none else readBasicLines? (c :: read) fuel rest

/-- The rest of a string on several lines without escapes. Line ends stay as they are written. -/
def readLiteralLines? (read : List Char) : Nat → List Char → Option (String × List Char)
  | 0, _ => none
  | fuel + 1, cs =>
    match closing? '\x27' read cs with
    | some done => some done
    | none =>
      match cs with
      | [] => none
      | '\r' :: '\n' :: rest => readLiteralLines? ('\n' :: '\r' :: read) fuel rest
      | '\n' :: rest => readLiteralLines? ('\n' :: read) fuel rest
      | c :: rest => if isControl c then none else readLiteralLines? (c :: read) fuel rest

/-- A string on several lines starts after a line end that directly follows its opening quotes. -/
def afterOpening (cs : List Char) : List Char :=
  (newline? cs).getD cs

/-- The string at the start of a text, if there is one. -/
def readString? : List Char → Option (String × List Char)
  | '"' :: '"' :: '"' :: rest =>
    readBasicLines? [] (rest.length + 1) (afterOpening rest)
  | '"' :: rest => readBasic? [] (rest.length + 1) rest
  | '\x27' :: '\x27' :: '\x27' :: rest =>
    readLiteralLines? [] (rest.length + 1) (afterOpening rest)
  | '\x27' :: rest => readLiteral? [] rest
  | _ => none

def isBare (c : Char) : Bool :=
  c.isAlphanum || c = '_' || c = '-'

/-- One part of a key: a bare word or a string on one line. -/
def readKeyPart? : List Char → Option (String × List Char)
  | '"' :: rest => readBasic? [] (rest.length + 1) rest
  | '\x27' :: rest => readLiteral? [] rest
  | cs =>
    match cs.takeWhile isBare with
    | [] => none
    | word => some (String.ofList word, cs.dropWhile isBare)

/-- The parts of a key with dots between them, and the text after it and the blanks behind it. -/
def readParts? : Nat → List Char → Option (List String × List Char)
  | 0, _ => none
  | fuel + 1, cs => do
    let (part, rest) ← readKeyPart? (skipSpace cs)
    match skipSpace rest with
    | '.' :: rest =>
      let (parts, rest) ← readParts? fuel rest
      some (part :: parts, rest)
    | rest => some ([part], rest)

def maxParts : Nat := 80

/-- The parts of a key before the last one, the last one, and the text behind it. -/
def readKey? (cs : List Char) : Option (List String × String × List Char) := do
  let (parts, rest) ← readParts? (cs.length + 1) cs
  let key ← parts.getLast?
  if parts.length ≤ maxParts then some (parts.dropLast, key, rest) else none

end RecordSearch.Toml
