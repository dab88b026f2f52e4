import RecordSearch.Text.CaseTable

/-!
# Lower case

Two ways to disregard case. `foldChar` works one character at a time and keeps the length of a
text; `lowerCase` is the full lower case of a text, where a dotted capital I becomes two characters
and a capital sigma at the end of a word becomes a final sigma.
-/

namespace RecordSearch.Text

/-- The small letter of a capital letter, and every other character itself. -/
def foldChar (c : Char) : Char :=
  match capitalRuns.find? (·.covers c.toNat) with
  | some run => Char.ofNat ((c.toNat : Int) + run.shift).toNat
  | none => c

def isCased (c : Char) : Bool :=
  inRanges casedRanges c.toNat

def isCaseIgnorable (c : Char) : Bool :=
  inRanges caseIgnorableRanges c.toNat

/-- Whether the first character that counts for case is a letter with case. -/
def leadsWithCased (cs : List Char) : Bool :=
  match cs.dropWhile isCaseIgnorable with
  | [] => false
  | c :: _ => isCased c

/-- The small letters of `c` between the characters `before` it, nearest first, and those `after`
it. -/
def lowerAt (before : List Char) (c : Char) (after : List Char) : List Char :=
  if c = 'Σ' then
    if leadsWithCased before && !leadsWithCased after then ['ς'] else ['σ']
  else if c = 'İ' then ['i', '\u0307']
  else [foldChar c]

def lowerFrom (before : List Char) : List Char → List Char
  | [] => []
  | c :: after => lowerAt before c after ++ lowerFrom (c :: before) after

def lowerChars (cs : List Char) : List Char :=
  lowerFrom [] cs

def lowerCase (s : String) : String :=
  String.ofList (lowerChars s.toList)

end RecordSearch.Text
