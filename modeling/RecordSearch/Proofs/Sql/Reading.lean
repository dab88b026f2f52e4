import RecordSearch.Predicate.Matching
import RecordSearch.Sql.Statement

/-!
# Reading conditions

How a database reads a condition. Its text is cut into words, signs and brackets, and these are put
together by a grammar in which `AND` binds more tightly than `OR`. On a row, the condition that was
read is true, false or unknown: a column that is missing or null makes every comparison unknown.

The reading is partial. It gives no meaning to what comparisons do not mean here, such as a column
in lower case against a value in any case, or a place at which nothing is bound.
-/

namespace RecordSearch.Sql

/-! ### Tokens -/

inductive Token where
  | opening
  | closing
  | comma
  | equal
  | atLeast
  | atMost
  | like
  | isIn
  | is
  | null
  | and
  | or
  | where
  | name (text : String)
  | parameter (place : Nat)
  deriving DecidableEq, Repr

def isWordChar (c : Char) : Bool :=
  Name.isPart c || c == '$'

def isSignChar (c : Char) : Bool :=
  c == '=' || c == '<' || c == '>'

/-- Whether two characters side by side belong together. -/
def joins (a b : Char) : Bool :=
  isWordChar a && isWordChar b || isSignChar a && isSignChar b

def upper (word : List Char) : String :=
  String.ofList (word.map Char.toUpper)

def keywords : List (String × Token) := [
  ("AND", .and), ("IN", .isIn), ("IS", .is), ("LIKE", .like), ("NULL", .null), ("OR", .or),
  ("WHERE", .where)]

/-- Reads a word. Keywords are read in any case. -/
def Token.ofWord? : List Char → Option Token
  | '$' :: place =>
    if place ≠ [] ∧ place.all Number.isDigit then some (.parameter (Number.ofDigits place))
    else none
  | word =>
    (keywords.lookup (upper word)).or
      (if Name.fault? (String.ofList word) = none then some (.name (String.ofList word)) else none)

def Token.read? : List Char → Option Token
  | ['('] => some .opening
  | [')'] => some .closing
  | [','] => some .comma
  | ['='] => some .equal
  | ['>', '='] => some .atLeast
  | ['<', '='] => some .atMost
  | word => Token.ofWord? word

/-- The tokens of a text. Blanks only separate them. -/
def tokens? (text : List Char) : Option (List Token) :=
  ((text.splitBy joins).filter (· ≠ [' '])).mapM Token.read?

/-! ### Grammar -/

/-- Reads an operand and gives what follows it. `LOWER` is a name like any other, unless a bracket
follows. -/
def readOperand? : List Token → Option (Operand × List Token)
  | .name function :: .opening :: rest =>
    if upper function.toList = "LOWER" then
      match readOperand? rest with
      | some (inner, .closing :: rest) => some (.lower inner, rest)
      | _ => none
    else none
  | .name name :: rest => some (.column name, rest)
  | .parameter place :: rest => some (.parameter place, rest)
  | .null :: rest => some (.null, rest)
  | _ => none

def readItems? : Nat → List Token → Option (List Operand × List Token)
  | 0, _ => none
  | fuel + 1, tokens =>
    match readOperand? tokens with
    | some (item, .closing :: rest) => some ([item], rest)
    | some (item, .comma :: rest) =>
      (readItems? fuel rest).map fun (items, rest) => (item :: items, rest)
    | _ => none

def readRight? (make : Operand → Condition) (tokens : List Token) :
    Option (Condition × List Token) :=
  (readOperand? tokens).map fun (right, rest) => (make right, rest)

def readComparison? (fuel : Nat) (tokens : List Token) : Option (Condition × List Token) :=
  match readOperand? tokens with
  | some (left, .equal :: rest) => readRight? (.equal left) rest
  | some (left, .atLeast :: rest) => readRight? (.atLeast left) rest
  | some (left, .atMost :: rest) => readRight? (.atMost left) rest
  | some (left, .like :: rest) => readRight? (.like left) rest
  | some (left, .isIn :: .opening :: rest) =>
    (readItems? fuel rest).map fun (items, rest) => (.isIn left items, rest)
  | some (left, .is :: .null :: rest) => some (.isNull left, rest)
  | _ => none

mutual

def readPrimary? : Nat → List Token → Option (Condition × List Token)
  | 0, _ => none
  | fuel + 1, .opening :: rest =>
    match readDisjunction? fuel rest with
    | some (condition, .closing :: rest) => some (condition, rest)
    | _ => none
  | fuel + 1, tokens => readComparison? fuel tokens

def readConjunction? : Nat → List Token → Option (Condition × List Token)
  | 0, _ => none
  | fuel + 1, tokens =>
    match readPrimary? fuel tokens with
    | some (left, .and :: rest) =>
      (readConjunction? fuel rest).map fun (right, rest) => (.both left right, rest)
    | read => read

def readDisjunction? : Nat → List Token → Option (Condition × List Token)
  | 0, _ => none
  | fuel + 1, tokens =>
    match readConjunction? fuel tokens with
    | some (left, .or :: rest) =>
      (readDisjunction? fuel rest).map fun (right, rest) => (.either left right, rest)
    | read => read

end

/-- Reads the text of a `WHERE` clause, which may be empty. -/
def readWhere? (text : String) : Option (Option Condition) :=
  match tokens? text.toList with
  | some [] => some none
  | some (.where :: tokens) =>
    match readDisjunction? (3 * tokens.length + 3) tokens with
    | some (condition, []) => some (some condition)
    | _ => none
  | _ => none

/-! ### Truth -/

inductive Truth where
  | yes
  | no
  | unknown
  deriving DecidableEq, Repr

namespace Truth

def ofBool : Bool → Truth
  | true => .yes
  | false => .no

def and : Truth → Truth → Truth
  | .no, _ => .no
  | _, .no => .no
  | .yes, .yes => .yes
  | _, _ => .unknown

def or : Truth → Truth → Truth
  | .yes, _ => .yes
  | _, .yes => .yes
  | .no, .no => .no
  | _, _ => .unknown

@[simp]
theorem ofBool_eq_yes_iff {b : Bool} : ofBool b = .yes ↔ b = true := by
  cases b <;> decide

@[simp]
theorem and_eq_yes_iff {a b : Truth} : a.and b = .yes ↔ a = .yes ∧ b = .yes := by
  cases a <;> cases b <;> decide

@[simp]
theorem or_eq_yes_iff {a b : Truth} : a.or b = .yes ↔ a = .yes ∨ b = .yes := by
  cases a <;> cases b <;> decide

end Truth

section Truth

variable (values : List Value) (row : Json)

/-- The value bound at a place, counted from one. -/
def bound? : Nat → Option Value
  | 0 => none
  | place + 1 => values[place]?

/-- The truth of a test on a column, unknown where the column is missing or null. -/
def onColumn (name : String) (test : Json → Bool) : Truth :=
  match row.field? name with
  | none => .unknown
  | some field => .ofBool (test field)

def Operand.isNull : Operand → Bool
  | .null => true
  | .lower inner => inner.isNull
  | _ => false

/-- The truth of a test of a column against a bound value, with both in lower case or neither. It is
unknown against null. -/
def against? (test : Json → Bool → Value → Bool) : Operand → Operand → Option Truth
  | .column name, .parameter place =>
    (bound? values place).map fun value => onColumn row name fun field => test field false value
  | .lower (.column name), .lower (.parameter place) =>
    (bound? values place).map fun value => onColumn row name fun field => test field true value
  | left, right => if left.isNull || right.isNull then some .unknown else none

/-- A column equals itself unless it is null. -/
def equal? : Operand → Operand → Option Truth
  | .column left, .column right =>
    if left = right then some (onColumn row left fun _ => true) else none
  | .lower (.column left), .lower (.column right) =>
    if left = right then some (onColumn row left fun _ => true) else none
  | left, right => against? values row equals left right

def fitsPattern (field : Json) (fold : Bool) : Value → Bool
  | .text pattern =>
    match field.asText? with
    | some text => Text.likeMatches text pattern fold
    | none => false
  | _ => false

def isNull? : Operand → Option Truth
  | .column name => some (.ofBool (row.field? name).isNone)
  | .parameter _ => none
  | .null => some .yes
  | .lower inner => isNull? inner

def Condition.truth? : Condition → Option Truth
  | .equal left right => equal? values row left right
  | .atLeast left right => against? values row RecordSearch.atLeast left right
  | .atMost left right => against? values row RecordSearch.atMost left right
  | .like left right => against? values row fitsPattern left right
  | .isIn left items => (items.mapM (against? values row equals left)).map (·.foldr Truth.or .no)
  | .isNull operand => isNull? row operand
  | .both left right => left.truth?.bind fun a => right.truth?.map fun b => a.and b
  | .either left right => left.truth?.bind fun a => right.truth?.map fun b => a.or b

/-- The truth of a clause; without a condition it is true. -/
def clauseTruth? : Option Condition → Option Truth
  | none => some .yes
  | some condition => condition.truth? values row

end Truth

end RecordSearch.Sql
