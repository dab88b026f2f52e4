import RecordSearch.Calendar.Date

/-!
# Instants

A second of a day in universal time with nanoseconds. A leap second is the second before it with
nanoseconds beyond a whole second, so instants are ordered by day, second and nanosecond.
-/

namespace RecordSearch.Calendar

structure Instant where
  date : Date
  second : Nat
  nano : Nat
  deriving DecidableEq, Repr

namespace Instant

def secondsInDay : Nat := 86400

def order (a b : Instant) : Ordering :=
  (a.date.order b.date).then ((compare a.second b.second).then (compare a.nano b.nano))

/-- The instant of a local clock that is `offset` seconds ahead of universal time. -/
def ofLocal? (date : Date) (second nano : Nat) (offset : Int) : Option Instant :=
  let shifted : Int := second - offset
  let instant : Instant :=
    if shifted < 0 then ⟨date.previous, (shifted + secondsInDay).toNat, nano⟩
    else if (secondsInDay : Int) ≤ shifted then ⟨date.next, (shifted - secondsInDay).toNat, nano⟩
    else ⟨date, shifted.toNat, nano⟩
  if instant.date.isValid then some instant else none

/-- No fraction, or the fewest of 3, 6 and 9 digits that are exact. -/
def fractionText (nano : Nat) : List Char :=
  if nano = 0 then []
  else if nano % 1000000 = 0 then '.' :: Number.padded 3 (nano / 1000000)
  else if nano % 1000 = 0 then '.' :: Number.padded 6 (nano / 1000)
  else '.' :: Number.padded 9 nano

def localText (t : Instant) : List Char :=
  let leap := t.nano / 1000000000
  t.date.text ++ 'T' :: Number.padded 2 (t.second / 3600) ++ ':' ::
    Number.padded 2 (t.second / 60 % 60) ++ ':' :: Number.padded 2 (t.second % 60 + leap) ++
    fractionText (t.nano % 1000000000)

/-- The display text, with the zone as an offset. -/
def display (t : Instant) : String :=
  String.ofList (t.localText ++ ['+', '0', '0', ':', '0', '0'])

/-- The text in JSON, with the zone as a letter. -/
def jsonText (t : Instant) : String :=
  String.ofList (t.localText ++ ['Z'])

end Instant

end RecordSearch.Calendar
