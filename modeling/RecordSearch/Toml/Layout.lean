/-!
# Layout of TOML text

Blanks, line ends and comments between the parts of a document.
-/

namespace RecordSearch.Toml

def isSpace (c : Char) : Bool :=
  c = ' ' || c = '\t'

def skipSpace (cs : List Char) : List Char :=
  cs.dropWhile isSpace

/-- The characters that may stand nowhere in a document but at the end of a line. -/
def isControl (c : Char) : Bool :=
  (c.toNat < 32 && c != '\t') || c.toNat == 127

def newline? : List Char → Option (List Char)
  | '\n' :: rest => some rest
  | '\r' :: '\n' :: rest => some rest
  | _ => none

/-- The text from the first character that is neither a blank nor the start of a line end. -/
def skipEmptyLines : List Char → List Char
  | [] => []
  | '\r' :: '\n' :: rest => skipEmptyLines rest
  | c :: rest => if c = '\n' || isSpace c then skipEmptyLines rest else c :: rest

/-- The text from the first character that is no blank, line end or comment. `inComment` tells that
a comment is open, which lasts until its line ends. -/
def skipGaps? (inComment : Bool) : List Char → Option (List Char)
  | [] => some []
  | '\r' :: '\n' :: rest => skipGaps? false rest
  | '\n' :: rest => skipGaps? false rest
  | c :: rest =>
    if inComment then if isControl c then none else skipGaps? true rest
    else if c = '#' then skipGaps? true rest
    else if isSpace c then skipGaps? false rest
    else some (c :: rest)

/-- The text after the end of a line on which nothing stands any more but blanks and a comment. -/
def finishLine? (cs : List Char) : Option (List Char) :=
  match skipSpace cs with
  | [] => some []
  | '#' :: rest => skipGaps? true rest
  | rest => newline? rest

end RecordSearch.Toml
