import RecordSearch.Number.Digits

/-!
# Dates

Days of the Gregorian calendar, extended to years before it and to negative years.
-/

namespace RecordSearch.Calendar

def isLeapYear (year : Int) : Bool :=
  year % 4 == 0 && (year % 100 != 0 || year % 400 == 0)

def daysInMonth (year : Int) (month : Nat) : Nat :=
  if month = 2 then if isLeapYear year then 29 else 28
  else if month = 4 ∨ month = 6 ∨ month = 9 ∨ month = 11 then 30
  else 31

structure Date where
  year : Int
  month : Nat
  day : Nat
  deriving DecidableEq, Repr

namespace Date

/-- The years that dates are read and computed in. -/
def yearInRange (year : Int) : Bool :=
  -262143 ≤ year && year ≤ 262142

def isValid (date : Date) : Bool :=
  yearInRange date.year && 1 ≤ date.month && date.month ≤ 12 && 1 ≤ date.day &&
    date.day ≤ daysInMonth date.year date.month

/-- The day with these numbers, if there is one. -/
def ofNumbers? (year : Int) (month day : Nat) : Option Date :=
  let date : Date := ⟨year, month, day⟩
  if date.isValid then some date else none

def next (date : Date) : Date :=
  if date.day < daysInMonth date.year date.month then { date with day := date.day + 1 }
  else if date.month < 12 then { date with month := date.month + 1, day := 1 }
  else ⟨date.year + 1, 1, 1⟩

def previous (date : Date) : Date :=
  if 1 < date.day then { date with day := date.day - 1 }
  else if 1 < date.month then
    { date with month := date.month - 1, day := daysInMonth date.year (date.month - 1) }
  else ⟨date.year - 1, 12, 31⟩

def order (a b : Date) : Ordering :=
  (compare a.year b.year).then ((compare a.month b.month).then (compare a.day b.day))

/-- Four digits, or a sign and at least four digits outside of the years 0 to 9999. -/
def yearText (year : Int) : List Char :=
  if 0 ≤ year ∧ year ≤ 9999 then Number.padded 4 year.natAbs
  else (if year < 0 then '-' else '+') :: Number.padded 4 year.natAbs

def text (date : Date) : List Char :=
  yearText date.year ++ '-' :: Number.padded 2 date.month ++ '-' :: Number.padded 2 date.day

end Date

end RecordSearch.Calendar
