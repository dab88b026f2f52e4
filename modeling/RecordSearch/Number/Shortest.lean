import RecordSearch.Number.Binary64
import RecordSearch.Number.Digits

/-!
# Shortest decimal text

The fewest decimal digits that round back to a given number, and among those the nearest to it; a
tie goes as the layout wants it. Two layouts: positional without an exponent, and the one of compact
JSON text.
-/

namespace RecordSearch.Number

structure Decimal where
  digits : Nat
  exponent : Int
  deriving DecidableEq, Repr

namespace Decimal

/-- The half-way points to the two neighbours of a count of units, in quarter units, and whether
they round to it themselves. The neighbour below is only half as far where the exponent changes. -/
def interval (units : Nat) : Nat × Nat × Bool :=
  let grain := Nat.pow 2 (Binary64.spareBits units)
  let mantissa := units / grain
  let below := if mantissa = Nat.pow 2 52 ∧ 1 < grain then grain else 2 * grain
  (4 * units - below, 4 * units + 2 * grain, mantissa % 2 == 0)

/-- Scales a decimal exponent away: `num / den` units are `10 ^ exponent`. -/
def scale (exponent : Int) : Nat × Nat :=
  if exponent < 0 then (Binary64.unitsInOne, Nat.pow 10 exponent.natAbs)
  else (Binary64.unitsInOne * Nat.pow 10 exponent.natAbs, 1)

/-- Whether `digits * 10 ^ exponent` rounds to the count of units. -/
def roundsTo (units : Nat) (candidate : Decimal) : Bool :=
  let (num, den) := scale candidate.exponent
  let (low, high, closed) := interval units
  let value := 4 * candidate.digits * num
  if closed then low * den ≤ value && value ≤ high * den
  else low * den < value && value < high * den

/-- How far a decimal number is from the count of units, on the scale of its exponent. -/
def distance (units : Nat) (candidate : Decimal) : Nat :=
  let (num, den) := scale candidate.exponent
  (candidate.digits * num - units * den) + (units * den - candidate.digits * num)

/-- The neighbours of the count of units on the grid of `10 ^ exponent` that round to it. -/
def neighbours (units : Nat) (exponent : Int) : List Decimal :=
  let (num, den) := scale exponent
  let floor := units * den / num
  [⟨floor, exponent⟩, ⟨floor + 1, exponent⟩].filter (roundsTo units)

inductive Tie where
  | higher
  | even
  deriving DecidableEq, Repr

def nearestNeighbour (tie : Tie) (units : Nat) (exponent : Int) : Option Decimal :=
  match neighbours units exponent with
  | [] => none
  | [one] => some one
  | one :: two :: _ =>
    match compare (distance units one) (distance units two), tie with
    | .lt, _ => some one
    | .gt, _ => some two
    | .eq, .higher => some two
    | .eq, .even => some (if one.digits % 2 = 0 then one else two)

/-- The first grid with a neighbour, going from the exponent `leading` to finer ones. -/
def refine (tie : Tie) (units : Nat) (leading : Int) : Nat → Option Decimal
  | 0 => none
  | fuel + 1 =>
    match nearestNeighbour tie units leading with
    | some found => some found
    | none => refine tie units (leading - 1) fuel

/-- The decimal exponent of the leading digit of a count of units. -/
def leadingExponent (units : Nat) : Int :=
  ((Number.digits (units * Nat.pow 10 330 / Binary64.unitsInOne)).length : Int) - 331

def trimZeros (d : Decimal) : Nat → Decimal
  | 0 => d
  | fuel + 1 =>
    if d.digits ≠ 0 ∧ d.digits % 10 = 0 then trimZeros ⟨d.digits / 10, d.exponent + 1⟩ fuel else d

/-- The shortest decimal number that rounds to a positive count of units. Seventeen digits always
do. -/
def shortest (tie : Tie) (units : Nat) : Decimal :=
  match refine tie units (leadingExponent units) 18 with
  | some d => trimZeros d 20
  | none => ⟨0, 0⟩

end Decimal

/-- Digits without an exponent: zeros fill the places up to the point, and a whole number has no
point. -/
def positional (d : Decimal) : List Char :=
  let ds := digits d.digits
  if 0 ≤ d.exponent then ds ++ List.replicate d.exponent.natAbs '0'
  else
    let places := d.exponent.natAbs
    if places < ds.length then
      ds.take (ds.length - places) ++ '.' :: ds.drop (ds.length - places)
    else '0' :: '.' :: List.replicate (places - ds.length) '0' ++ ds

/-- Digits as compact JSON text has them: positional between 10 ^ -5 and 10 ^ 16, with a point in
any case, and with an exponent outside. -/
def compactLayout (d : Decimal) : List Char :=
  let ds := digits d.digits
  let point : Int := ds.length + d.exponent
  if 0 ≤ d.exponent ∧ point ≤ 16 then positional d ++ ['.', '0']
  else if -5 < point ∧ point ≤ 16 then positional d
  else
    let exponent := point - 1
    let mantissa := match ds with
      | [] => []
      | [one] => [one]
      | one :: more => one :: '.' :: more
    mantissa ++ 'e' :: (if exponent < 0 then ['-'] else ['+']) ++ digits exponent.natAbs

def signed (negative : Bool) (cs : List Char) : List Char :=
  if negative then '-' :: cs else cs

/-- The display text of a number, never with an exponent. A tie goes to the higher digits. -/
def Binary64.display : Binary64 → String
  | .nan => "NaN"
  | .infinite negative => if negative then "-inf" else "inf"
  | .finite negative units =>
    String.ofList (signed negative
      (if units = 0 then ['0'] else positional (Decimal.shortest .higher units)))

/-- The JSON text of a number, which exists for finite numbers only. A tie goes to even digits. -/
def Binary64.json? : Binary64 → Option String
  | .finite negative units =>
    some (String.ofList (signed negative
      (if units = 0 then ['0', '.', '0'] else compactLayout (Decimal.shortest .even units))))
  | _ => none

end RecordSearch.Number
