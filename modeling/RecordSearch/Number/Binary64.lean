/-!
# Binary floating point

Numbers of 64 bits: a finite one is a sign and a count of units of two to the power -1074, so that
comparing two of them is comparing integers. `Binary64.ofRatio` rounds an exact quotient to the
nearest number, a tie to the even neighbour.
-/

namespace RecordSearch.Number

inductive Binary64 where
  | nan
  | infinite (negative : Bool)
  | finite (negative : Bool) (units : Nat)
  deriving DecidableEq, Repr

namespace Binary64

def unitsInOne : Nat := Nat.pow 2 1074

/-- The first count of units that is too large for a finite number. -/
def unitLimit : Nat := Nat.pow 2 2098

/-- How many binary digits of a count of units are beyond the 53 that a number keeps. -/
def spareBits (units : Nat) : Nat :=
  units.log2 + 1 - 53

/-- The integer nearest to a quotient, a tie going to the even one. -/
def nearestEven (num den : Nat) : Nat :=
  let whole := num / den
  let rest := num % den
  if den < 2 * rest ∨ (2 * rest = den ∧ whole % 2 = 1) then whole + 1 else whole

/-- The count of units nearest to `num / den` units among those with at most 53 binary digits before
their trailing zeros. -/
def nearestUnits (num den : Nat) : Nat :=
  let grain := Nat.pow 2 (spareBits (num / den))
  nearestEven num (den * grain) * grain

def ofUnits (negative : Bool) (units : Nat) : Binary64 :=
  if units < unitLimit then .finite negative units else .infinite negative

def ofRatio (negative : Bool) (num den : Nat) : Binary64 :=
  ofUnits negative (nearestUnits (num * unitsInOne) den)

def ofInt (i : Int) : Binary64 :=
  ofRatio (i < 0) i.natAbs 1

/-- The number nearest to `mantissa * 10 ^ exponent`. Exponents far outside the range of finite
numbers are settled by the number of digits. -/
def ofDecimal (negative : Bool) (mantissa : Nat) (exponent : Int) : Binary64 :=
  if mantissa = 0 then .finite negative 0
  else
    let magnitude : Int := (mantissa.log2 : Int) / 4 + exponent
    if 400 < magnitude then .infinite negative
    else if (mantissa.log2 : Int) + exponent < -1200 then .finite negative 0
    else if exponent < 0 then ofRatio negative mantissa (Nat.pow 10 exponent.natAbs)
    else ofRatio negative (mantissa * Nat.pow 10 exponent.natAbs) 1

/-- The position of a number on the line of units. The infinities lie just beyond the finite
numbers, and `nan` has no position. -/
def position? : Binary64 → Option Int
  | .nan => none
  | .infinite negative => some (if negative then -unitLimit else unitLimit)
  | .finite negative units => some (if negative then -units else units)

/-- The order of two numbers, `none` when one of them is `nan`. Both zeros are equal. -/
def compare? (a b : Binary64) : Option Ordering :=
  match a.position?, b.position? with
  | some x, some y => some (compare x y)
  | _, _ => none

end Binary64

end RecordSearch.Number
