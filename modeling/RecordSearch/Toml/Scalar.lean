import RecordSearch.Calendar.Date
import RecordSearch.Number.Digits
import RecordSearch.Toml.Layout
import RecordSearch.Toml.Value

/-!
# Numbers, truth values and times of TOML

Scalars are words without quotes. A time becomes an object with its text as the only member, so that
it is neither a string nor a number.
-/

namespace RecordSearch.Toml

open Number (Binary64 isDigit ofDigits hexValue?)

/-- Digits with single underscores between them, without the underscores. -/
def plainDigits? (allowed : Char → Bool) : List Char → Option (List Char)
  | [] => none
  | [c] => if allowed c then some [c] else none
  | c :: '_' :: rest =>
    if allowed c then (plainDigits? allowed rest).map (c :: ·) else none
  | c :: rest => if allowed c then (plainDigits? allowed rest).map (c :: ·) else none

/-- Decimal digits of a whole number, without a zero in front. -/
def wholeDigits? (cs : List Char) : Option (List Char) :=
  (plainDigits? isDigit cs).filter fun ds => ds.length = 1 || ds.head? != some '0'

/-- An integer, which has to fit into a word of 128 bits, signed or unsigned. -/
def integer (i : Int) : Value :=
  if -Int.pow 2 127 ≤ i ∧ i < Int.pow 2 128 then .scalar (.integer i) else .numberWithoutValue

def splitSign : List Char → Option Bool × List Char
  | '+' :: rest => (some false, rest)
  | '-' :: rest => (some true, rest)
  | cs => (none, cs)

def isExponentMark (c : Char) : Bool :=
  c = 'e' || c = 'E'

/-- The characters that make a number a floating point number. -/
def isFloatMark (c : Char) : Bool :=
  c = '.' || isExponentMark c

/-- The characters that underscores in integers stand between, whatever the base. -/
def isHexDigit (c : Char) : Bool :=
  (hexValue? c).isSome

/-- Whether every underscore has such a character on both sides; `digitBefore` tells whether one
comes right before the text. -/
def underscoresSeparate (digitBefore : Bool) : List Char → Bool
  | [] => true
  | ['_'] => false
  | '_' :: c :: rest => digitBefore && isHexDigit c && underscoresSeparate (isHexDigit c) rest
  | c :: rest => underscoresSeparate (isHexDigit c) rest

/-- An integer of base ten. Past an underscore it is told from other words before its digits are
looked at. -/
def decimal? (cs : List Char) : Option Value :=
  let (sign, cs) := splitSign cs
  match wholeDigits? cs with
  | some ds => some (integer (if sign = some true then -(ofDigits ds : Int) else ofDigits ds))
  | none =>
    let rest := cs.dropWhile isDigit
    if rest.head? = some '_' ∧ (cs.head?.any fun c => isDigit c && c ≠ '0') ∧
        underscoresSeparate false cs ∧ rest.all (!isFloatMark ·) then
      some .numberWithoutValue
    else none

def ofBase (base : Nat) (cs : List Char) : Nat :=
  cs.foldl (fun n c => base * n + (hexValue? c).getD 0) 0

/-- An integer of a base after the mark of the base, which may have no digits. -/
def ofBase? (base : Nat) (allowed : Char → Bool) (cs : List Char) : Option Value :=
  if cs = [] then some .numberWithoutValue
  else (plainDigits? allowed cs).map fun ds => integer (ofBase base ds)

/-- An integer of another base, which has no sign. -/
def based? : List Char → Option Value
  | '0' :: 'x' :: cs => ofBase? 16 isHexDigit cs
  | '0' :: 'o' :: cs => ofBase? 8 (fun c => isDigit c && c < '8') cs
  | '0' :: 'b' :: cs => ofBase? 2 (fun c => c = '0' || c = '1') cs
  | _ => none

/-- The digits and the value of an exponent after its letter. -/
def exponent? (cs : List Char) : Option Int :=
  let (sign, cs) := splitSign cs
  (plainDigits? isDigit cs).map fun ds =>
    if sign = some true then -(ofDigits ds : Int) else ofDigits ds

/-- A number with a fraction, an exponent, or both. One that is too large has no value. -/
def float? (cs : List Char) : Option Value := do
  let (sign, cs) := splitSign cs
  let mantissa := cs.takeWhile (!isExponentMark ·)
  let exponent ← match cs.dropWhile (!isExponentMark ·) with
    | [] => some 0
    | _ :: rest => exponent? rest
  let whole ← wholeDigits? (mantissa.takeWhile (· ≠ '.'))
  let places ← match mantissa.dropWhile (· ≠ '.') with
    | [] => if mantissa.length = cs.length then none else some []
    | _ :: rest => plainDigits? isDigit rest
  match Binary64.ofDecimal (sign = some true) (ofDigits (whole ++ places))
      (exponent - places.length) with
  | .finite negative units => some (.scalar (.float (.finite negative units)))
  | _ => some .numberWithoutValue

def word? (cs : List Char) : Option Value :=
  let (sign, word) := splitSign cs
  if cs = "true".toList then some (.scalar (.bool true))
  else if cs = "false".toList then some (.scalar (.bool false))
  else if word = "inf".toList then some (.scalar (.float (.infinite (sign = some true))))
  else if word = "nan".toList then some (.scalar (.float .nan))
  else none

def twoDigits? : List Char → Option (Nat × List Char)
  | a :: b :: rest =>
    if isDigit a && isDigit b then some (ofDigits [a, b], rest) else none
  | _ => none

/-- The text after a date that the calendar has. -/
def afterDate? : List Char → Option (List Char)
  | a :: b :: c :: d :: '-' :: rest => do
    if [a, b, c, d].all isDigit then
      let (month, rest) ← twoDigits? rest
      match rest with
      | '-' :: rest =>
        let (day, rest) ← twoDigits? rest
        let year := ofDigits [a, b, c, d]
        if 1 ≤ month ∧ month ≤ 12 ∧ 1 ≤ day ∧ day ≤ Calendar.daysInMonth year month then some rest
        else none
      | _ => none
    else none
  | _ => none

/-- The text after a fraction of a second, which may be missing. -/
def afterFraction? : List Char → Option (List Char)
  | '.' :: rest =>
    match rest.takeWhile isDigit with
    | [] => none
    | _ => some (rest.dropWhile isDigit)
  | cs => some cs

/-- The text after a time of day; its seconds may be missing. -/
def afterTime? (cs : List Char) : Option (List Char) := do
  let (hour, cs) ← twoDigits? cs
  match cs with
  | ':' :: cs =>
    let (minute, cs) ← twoDigits? cs
    if 24 ≤ hour ∨ 60 ≤ minute then none
    else
      match cs with
      | ':' :: cs =>
        let (second, cs) ← twoDigits? cs
        if 60 < second then none else afterFraction? cs
      | cs => some cs
  | _ => none

def isOffset (cs : List Char) : Bool :=
  match cs with
  | ['Z'] => true
  | ['z'] => true
  | sign :: rest =>
    (sign = '+' || sign = '-') &&
      match twoDigits? rest with
      | some (hours, ':' :: rest) =>
        match twoDigits? rest with
        | some (minutes, []) => hours < 24 && minutes < 60
        | _ => false
      | _ => false
  | [] => false

/-- Whether a text is a date, a time of day, or both with or without an offset. -/
def isMoment (cs : List Char) : Bool :=
  match afterDate? cs with
  | some [] => true
  | some (mark :: rest) =>
    (mark = 'T' || mark = 't' || mark = ' ') &&
      match afterTime? rest with
      | some [] => true
      | some zone => isOffset zone
      | none => false
  | none => afterTime? cs == some []

def moment? (cs : List Char) : Option Value :=
  if isMoment cs then some (.scalar (.object [("$datetime", .string (String.ofList cs))]))
  else none

/-- The characters of a word: all but blanks, line ends and those with a meaning of their own. -/
def isScalar (c : Char) : Bool :=
  !(isSpace c || "=,[]\x7b\x7d#\r\n".toList.contains c)

/-- The word at the start of a text. A date takes the time behind a single blank with it. -/
def splitScalar (cs : List Char) : List Char × List Char :=
  let word := cs.takeWhile isScalar
  match afterDate? word, cs.dropWhile isScalar with
  | some [], ' ' :: c :: rest =>
    if isDigit c then
      (word ++ ' ' :: (c :: rest).takeWhile isScalar, (c :: rest).dropWhile isScalar)
    else (word, ' ' :: c :: rest)
  | _, rest => (word, rest)

/-- The value of a word. The forms exclude each other. -/
def scalar? (word : List Char) : Option Value :=
  ((((word? word).or (decimal? word)).or (based? word)).or (moment? word)).or (float? word)

def readScalar? (cs : List Char) : Option (Value × List Char) :=
  let (word, rest) := splitScalar cs
  (scalar? word).map fun value => (value, rest)

end RecordSearch.Toml
