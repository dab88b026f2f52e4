import RecordSearch.Number.Digits

/-!
# UUIDs

Numbers of 128 bits, written as 32 hexadecimal digits in groups.
-/

namespace RecordSearch

structure Uuid where
  bits : Nat
  deriving DecidableEq, Repr

namespace Uuid

open Number (hexValue? hexDigits)

def hex (id : Uuid) : List Char :=
  let ds := hexDigits id.bits
  List.replicate (32 - ds.length) '0' ++ ds

def groups : List Nat → List Char → List (List Char)
  | [], _ => []
  | n :: ns, cs => cs.take n :: groups ns (cs.drop n)

/-- Groups of 8, 4, 4, 4 and 12 small digits with hyphens between them. -/
def text (id : Uuid) : String :=
  String.ofList (['-'].intercalate (groups [8, 4, 4, 4, 12] id.hex))

def ofHex? (cs : List Char) : Option Uuid :=
  if cs.length = 32 then
    (cs.foldlM (fun n c => (hexValue? c).map (16 * n + ·)) 0).map Uuid.mk
  else none

/-- Reads 32 digits with hyphens after the 8th, 12th, 16th and 20th. -/
def ofHyphenated? (cs : List Char) : Option Uuid :=
  let digits := cs.filter (· ≠ '-')
  if ['-'].intercalate (groups [8, 4, 4, 4, 12] digits) = cs then ofHex? digits else none

/-- Text that may stand in front of the hyphenated form, in either case. -/
def urnMark : List Char := "urn:uuid:".toList

/-- Reads the plain, hyphenated, braced or URN form, with digits of either case. -/
def parse? (s : String) : Option Uuid :=
  let cs := s.toList
  if cs.length = 32 then ofHex? cs
  else if cs.length = 36 then ofHyphenated? cs
  else if cs.length = 38 ∧ cs.head? = some '\x7b' ∧ cs.getLast? = some '\x7d' then
    ofHyphenated? (cs.drop 1).dropLast
  else if cs.length = 45 ∧ (cs.take 9).map Char.toLower = urnMark then ofHyphenated? (cs.drop 9)
  else none

end Uuid

end RecordSearch
