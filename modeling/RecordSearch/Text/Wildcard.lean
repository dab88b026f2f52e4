import RecordSearch.Text.LowerCase

/-!
# Wildcard patterns

Patterns in which `%` stands for any run of characters, `_` for any one character, and a backslash
takes the wildcard meaning from the character after it. `fits` decides whether a text fits the
tokens of a pattern by keeping, for each number of tokens, whether the text read so far fits them.
-/

namespace RecordSearch.Text

inductive Token where
  | literal (c : Char)
  | anyRun
  | anyOne
  deriving DecidableEq, Repr

/-- Writes a text so that a pattern matches it literally: a backslash before each character that a
pattern would read otherwise. -/
def escapeWildcards : List Char → List Char
  | [] => []
  | c :: rest =>
    if c = '\\' ∨ c = '%' ∨ c = '_' then '\\' :: c :: escapeWildcards rest
    else c :: escapeWildcards rest

/-- Reads a pattern. A backslash with nothing after it stands for itself. -/
def tokenize : List Char → List Token
  | [] => []
  | ['\\'] => [.literal '\\']
  | '\\' :: c :: rest => .literal c :: tokenize rest
  | '%' :: rest => .anyRun :: tokenize rest
  | '_' :: rest => .anyOne :: tokenize rest
  | c :: rest => .literal c :: tokenize rest

def Token.fold : Token → Token
  | .literal c => .literal (foldChar c)
  | token => token

/-- Which prefixes of the pattern fit the empty text: those made of `%` alone. -/
def openingRow (reached : Bool) : List Token → List Bool
  | [] => [reached]
  | token :: rest => reached :: openingRow (reached && token = .anyRun) rest

/-- One more character of text. `row` tells which prefixes of the pattern fit the text before `c`,
and `reached` whether the prefix up to here fits the text with `c`. -/
def nextRow (c : Char) (reached : Bool) : List Token → List Bool → List Bool
  | token :: rest, before :: row =>
    let here := match token with
      | .literal expected => before && expected = c
      | .anyOne => before
      | .anyRun => row.headD false || reached
    reached :: nextRow c here rest row
  | _, _ => [reached]

def finalRow (tokens : List Token) : List Char → List Bool → List Bool
  | [], row => row
  | c :: rest, row => finalRow tokens rest (nextRow c false tokens row)

def fits (tokens : List Token) (text : List Char) : Bool :=
  (finalRow tokens text (openingRow true tokens)).getLastD false

/-- Whether a text fits a pattern, with case disregarded on both sides when `fold` is set. -/
def likeMatches (text pattern : String) (fold : Bool) : Bool :=
  if fold then fits ((tokenize pattern.toList).map Token.fold) (text.toList.map foldChar)
  else fits (tokenize pattern.toList) text.toList

end RecordSearch.Text
