import RecordSearch.Calendar.Instant
import RecordSearch.Text.Classes

/-!
# Reading dates and instants

Two forms of an instant. The strict one has a fixed number of digits in each place; the lenient one
takes blanks between the parts, fewer digits, signed years, `UTC` for the zone and offsets without a
colon.
-/

namespace RecordSearch.Calendar

open Number (isDigit ofDigits)
open Text (dropBlanks isBlank)

/-- A reader of something at the start of a text: the thing and the text after it. -/
abbrev Reader (α : Type) := List Char → Option (α × List Char)

/-- Between `least` and `most` digits, as many as there are. -/
def readDigits (least most : Nat) : Reader Nat := fun cs =>
  let ds := (cs.take most).takeWhile isDigit
  if ds.length < least then none else some (ofDigits ds, cs.drop ds.length)

def readMark (mark : Char) : Reader Unit
  | c :: rest => if c = mark then some ((), rest) else none
  | [] => none

/-- A year with a sign and any number of digits, or one to four digits. -/
def readYear : Reader Int
  | '-' :: rest => (readDigits 1 rest.length rest).map fun (n, rest) => (-(n : Int), rest)
  | '+' :: rest => (readDigits 1 rest.length rest).map fun (n, rest) => ((n : Int), rest)
  | cs => (readDigits 1 4 cs).map fun (n, rest) => ((n : Int), rest)

/-- Year, month and day with hyphens, blanks allowed before each number. `gap` takes what may stand
before the hyphens. -/
def readDate (gap : List Char → List Char) : Reader (Int × Nat × Nat) := fun cs => do
  let (year, cs) ← readYear (dropBlanks cs)
  let ((), cs) ← readMark '-' (gap cs)
  let (month, cs) ← readDigits 1 2 (dropBlanks cs)
  let ((), cs) ← readMark '-' (gap cs)
  let (day, cs) ← readDigits 1 2 (dropBlanks cs)
  some ((year, month, day), cs)

def Date.parse? (s : String) : Option Date :=
  match readDate id s.toList with
  | some ((year, month, day), []) => Date.ofNumbers? year month day
  | _ => none

/-- Up to nine digits of a fraction, as nanoseconds; further digits are dropped. -/
def readFraction : Reader Nat
  | '.' :: rest => do
    let ds := (rest.take 9).takeWhile isDigit
    if ds.isEmpty then none
    else some (ofDigits ds * Nat.pow 10 (9 - ds.length), (rest.drop ds.length).dropWhile isDigit)
  | cs => some (0, cs)

/-- Hours and minutes of an offset, with what `separator` takes between them. -/
def readOffset (separator : List Char → Option (List Char)) : Reader Int := fun cs => do
  let (negative, cs) ← match cs with
    | '+' :: rest => some (false, rest)
    | '-' :: rest => some (true, rest)
    | '−' :: rest => some (true, rest)
    | _ => none
  let (hours, cs) ← readDigits 2 2 cs
  let cs ← separator cs
  let (minutes, cs) ← readDigits 2 2 cs
  if 60 ≤ minutes then none
  else
    let seconds : Int := hours * 3600 + minutes * 60
    some (if negative then -seconds else seconds, cs)

/-- `Z` of either case, or an offset. -/
def readZone (separator : List Char → Option (List Char)) : Reader Int
  | 'Z' :: rest => some (0, rest)
  | 'z' :: rest => some (0, rest)
  | cs => readOffset separator cs

def readDateTimeMark : Reader Unit
  | 'T' :: rest => some ((), rest)
  | 't' :: rest => some ((), rest)
  | ' ' :: rest => some ((), rest)
  | _ => none

/-- An instant from its numbers. Second 60 is a leap second; offsets stay below a day. -/
def Instant.ofNumbers? (year : Int) (month day hour minute second nano : Nat) (offset : Int) :
    Option Instant := do
  let date ← Date.ofNumbers? year month day
  if 24 ≤ hour ∨ 60 ≤ minute ∨ 60 < second ∨ 86400 ≤ offset.natAbs then none
  else
    let (second, nano) := if second = 60 then (59, nano + 1000000000) else (second, nano)
    Instant.ofLocal? date (hour * 3600 + minute * 60 + second) nano offset

/-- Reads an instant in the strict form, filling the whole text. -/
def Instant.parseStrict? (s : String) : Option Instant := do
  let (year, cs) ← readDigits 4 4 s.toList
  let ((), cs) ← readMark '-' cs
  let (month, cs) ← readDigits 2 2 cs
  let ((), cs) ← readMark '-' cs
  let (day, cs) ← readDigits 2 2 cs
  let ((), cs) ← readDateTimeMark cs
  let (hour, cs) ← readDigits 2 2 cs
  let ((), cs) ← readMark ':' cs
  let (minute, cs) ← readDigits 2 2 cs
  let ((), cs) ← readMark ':' cs
  let (second, cs) ← readDigits 2 2 cs
  let (nano, cs) ← readFraction cs
  let (offset, cs) ← readZone (fun cs => (readMark ':' cs).map (·.2)) cs
  if cs.isEmpty then Instant.ofNumbers? year month day hour minute second nano offset else none

/-- The zone of the lenient form: also `UTC` of any case, and colons and blanks in an offset. -/
def readLenientZone : Reader Int := fun cs =>
  match cs with
  | u :: t :: c :: rest =>
    if (u = 'U' ∨ u = 'u') ∧ (t = 'T' ∨ t = 't') ∧ (c = 'C' ∨ c = 'c') then some (0, rest)
    else readZone (fun cs => some (cs.dropWhile fun c => c = ':' || isBlank c)) cs
  | cs => readZone (fun cs => some (cs.dropWhile fun c => c = ':' || isBlank c)) cs

/-- Reads an instant in the lenient form, filling the text but for blanks at its end. -/
def Instant.parseLenient? (s : String) : Option Instant := do
  let ((year, month, day), cs) ← readDate dropBlanks s.toList
  let ((), cs) ← readDateTimeMark cs
  let (hour, cs) ← readDigits 1 2 (dropBlanks cs)
  let ((), cs) ← readMark ':' (dropBlanks cs)
  let (minute, cs) ← readDigits 1 2 (dropBlanks cs)
  let ((), cs) ← readMark ':' (dropBlanks cs)
  let (second, cs) ← readDigits 1 2 (dropBlanks cs)
  let (nano, cs) ← readFraction cs
  let (offset, cs) ← readLenientZone (dropBlanks cs)
  if (dropBlanks cs).isEmpty then Instant.ofNumbers? year month day hour minute second nano offset
  else none

end RecordSearch.Calendar
