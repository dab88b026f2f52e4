import RecordSearch.Json.Basic
import RecordSearch.Number.Digits

/-!
# Reading JSON

A number without a fraction and an exponent that fits a word of 64 bits, signed or not, is an
integer; every other number is the nearest floating point number. A minus sign before a plain zero
makes it floating point too.
-/

namespace RecordSearch.Json

open Number

def isSpace (c : Char) : Bool :=
  c = ' ' || c = '\t' || c = '\n' || c = '\r'

def skipSpace (cs : List Char) : List Char :=
  cs.dropWhile isSpace

def hex4? : List Char → Option (Nat × List Char)
  | a :: b :: c :: d :: rest => do
    let a ← hexValue? a
    let b ← hexValue? b
    let c ← hexValue? c
    let d ← hexValue? d
    some (((a * 16 + b) * 16 + c) * 16 + d, rest)
  | _ => none

/-- The character of an escape, after the `u`: a code unit, or the two halves of a pair. -/
def unicodeEscape? (cs : List Char) : Option (Char × List Char) := do
  let (unit, rest) ← hex4? cs
  if 0xD800 ≤ unit ∧ unit < 0xDC00 then
    match rest with
    | '\\' :: 'u' :: rest =>
      let (low, rest) ← hex4? rest
      if 0xDC00 ≤ low ∧ low < 0xE000 then
        some (Char.ofNat (0x10000 + (unit - 0xD800) * 0x400 + (low - 0xDC00)), rest)
      else none
    | _ => none
  else if 0xDC00 ≤ unit ∧ unit < 0xE000 then none
  else some (Char.ofNat unit, rest)

def simpleEscape? : Char → Option Char
  | '"' => some '"'
  | '\\' => some '\\'
  | '/' => some '/'
  | 'b' => some (Char.ofNat 8)
  | 'f' => some (Char.ofNat 12)
  | 'n' => some '\n'
  | 'r' => some '\r'
  | 't' => some '\t'
  | _ => none

/-- The rest of a quoted text, up to its closing quote; `read` is what came before, last first. -/
def readQuoted? (read : List Char) : Nat → List Char → Option (String × List Char)
  | 0, _ => none
  | fuel + 1, cs =>
    match cs with
    | [] => none
    | '"' :: rest => some (String.ofList read.reverse, rest)
    | '\\' :: 'u' :: rest => do
      let (c, rest) ← unicodeEscape? rest
      readQuoted? (c :: read) fuel rest
    | '\\' :: e :: rest => do
      let c ← simpleEscape? e
      readQuoted? (c :: read) fuel rest
    | c :: rest => if c.toNat < 32 then none else readQuoted? (c :: read) fuel rest

def digitRun? (cs : List Char) : Option (List Char × List Char) :=
  match cs.takeWhile isDigit with
  | [] => none
  | ds => some (ds, cs.dropWhile isDigit)

/-- The number of a sign, whole digits, fraction digits and an exponent. -/
def numberOf (negative : Bool) (whole : List Char) (fraction : Option (List Char))
    (exponent : Option Int) : Json :=
  let plain := fraction.isNone && exponent.isNone
  let value := ofDigits whole
  if plain && !negative && value < Nat.pow 2 64 then .integer value
  else if plain && negative && value ≠ 0 && value ≤ Nat.pow 2 63 then .integer (-value)
  else
    let places := fraction.getD []
    .float (Binary64.ofDecimal negative (ofDigits (whole ++ places))
      (exponent.getD 0 - places.length))

def readExponent? : List Char → Option (Option Int × List Char)
  | c :: rest =>
    if c = 'e' ∨ c = 'E' then
      match rest with
      | '-' :: rest => do
        let (ds, rest) ← digitRun? rest
        some (some (-(ofDigits ds : Int)), rest)
      | '+' :: rest => do
        let (ds, rest) ← digitRun? rest
        some (some (ofDigits ds : Int), rest)
      | rest => do
        let (ds, rest) ← digitRun? rest
        some (some (ofDigits ds : Int), rest)
    else some (none, c :: rest)
  | [] => some (none, [])

def readNumber? (cs : List Char) : Option (Json × List Char) := do
  let (negative, cs) := match cs with
    | '-' :: rest => (true, rest)
    | cs => (false, cs)
  let (whole, rest) ← digitRun? cs
  if whole.length ≠ 1 ∧ whole.head? = some '0' then none
  else
    let (fraction, rest) ← match rest with
      | '.' :: rest => (digitRun? rest).map fun (ds, rest) => (some ds, rest)
      | rest => some (none, rest)
    let (exponent, rest) ← readExponent? rest
    some (numberOf negative whole fraction exponent, rest)

mutual

/-- The value at the start of a text, blanks before it skipped, and the text after it. -/
def readValue? : Nat → List Char → Option (Json × List Char)
  | 0, _ => none
  | fuel + 1, cs =>
    match skipSpace cs with
    | 'n' :: 'u' :: 'l' :: 'l' :: rest => some (.null, rest)
    | 't' :: 'r' :: 'u' :: 'e' :: rest => some (.bool true, rest)
    | 'f' :: 'a' :: 'l' :: 's' :: 'e' :: rest => some (.bool false, rest)
    | '"' :: rest => (readQuoted? [] (rest.length + 1) rest).map fun (s, rest) => (.string s, rest)
    | '[' :: rest =>
      match skipSpace rest with
      | ']' :: rest => some (.array [], rest)
      | rest => readItems? [] fuel rest
    | '\x7b' :: rest =>
      match skipSpace rest with
      | '\x7d' :: rest => some (.object [], rest)
      | rest => readMembers? [] fuel rest
    | cs => readNumber? cs

/-- The items of an array up to its end; `read` is what came before, last first. -/
def readItems? (read : List Json) : Nat → List Char → Option (Json × List Char)
  | 0, _ => none
  | fuel + 1, cs => do
    let (item, rest) ← readValue? fuel cs
    match skipSpace rest with
    | ',' :: rest => readItems? (item :: read) fuel rest
    | ']' :: rest => some (.array (item :: read).reverse, rest)
    | _ => none

/-- The members of an object up to its end; `read` is what came before, last first. -/
def readMembers? (read : List (String × Json)) : Nat → List Char → Option (Json × List Char)
  | 0, _ => none
  | fuel + 1, cs =>
    match skipSpace cs with
    | '"' :: rest => do
      let (key, rest) ← readQuoted? [] (rest.length + 1) rest
      match skipSpace rest with
      | ':' :: rest =>
        let (value, rest) ← readValue? fuel rest
        match skipSpace rest with
        | ',' :: rest => readMembers? ((key, value) :: read) fuel rest
        | '\x7d' :: rest => some (ofMembers ((key, value) :: read).reverse, rest)
        | _ => none
      | _ => none
    | _ => none

end

/-- Reads a text that holds one value and nothing but blanks around it. -/
def parse? (s : String) : Option Json :=
  let cs := s.toList
  match readValue? (2 * cs.length + 2) cs with
  | some (value, rest) => if (skipSpace rest).isEmpty then some value else none
  | none => none

end RecordSearch.Json
