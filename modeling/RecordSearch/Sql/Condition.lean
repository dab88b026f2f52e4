import RecordSearch.Bindings
import RecordSearch.Predicate.Basic

/-!
# Conditions of statements

The syntax of a `WHERE` condition, its text, and the condition of a predicate. Values are bound and
never written into the text.
-/

namespace RecordSearch.Sql

inductive Operand where
  | column (name : String)
  | parameter (place : Nat)
  | null
  | lower (inner : Operand)
  deriving DecidableEq, Repr

inductive Condition where
  | equal (left right : Operand)
  | atLeast (left right : Operand)
  | atMost (left right : Operand)
  | like (left right : Operand)
  | isIn (left : Operand) (items : List Operand)
  | isNull (operand : Operand)
  | both (left right : Condition)
  | either (left right : Condition)
  deriving DecidableEq, Repr

def Operand.text : Operand → String
  | .column name => name
  | .parameter place => placeholder place
  | .null => "NULL"
  | .lower inner => "LOWER(" ++ inner.text ++ ")"

def Condition.text : Condition → String
  | .equal l r => l.text ++ " = " ++ r.text
  | .atLeast l r => l.text ++ " >= " ++ r.text
  | .atMost l r => l.text ++ " <= " ++ r.text
  | .like l r => l.text ++ " LIKE " ++ r.text
  | .isIn l items => l.text ++ " IN (" ++ ", ".intercalate (items.map Operand.text) ++ ")"
  | .isNull operand => operand.text ++ " IS NULL"
  | .both l r => "(" ++ l.text ++ " AND " ++ r.text ++ ")"
  | .either l r => "(" ++ l.text ++ " OR " ++ r.text ++ ")"

/-- An operand in lower case where case is disregarded. -/
def foldCase (operand : Operand) (fold : Bool) : Operand :=
  if fold then .lower operand else operand

def bindOperand (b : Bindings) (key : String) (value : Value) (fold : Bool) : Operand × Bindings :=
  let (place, b) := b.bind key value
  (foldCase (.parameter place) fold, b)

/-- Binds the values of a list, each under the key with its index, from `index` on. -/
def bindItems (column : String) (fold : Bool) (index : Nat) (b : Bindings) :
    List Value → List Operand × Bindings
  | [] => ([], b)
  | value :: rest =>
    let (item, b) := bindOperand b (column ++ "__" ++ Number.decimal index) value fold
    let (items, b) := bindItems column fold (index + 1) b rest
    (item :: items, b)

def bindBound (b : Bindings) (key : String) (fold : Bool) :
    Option Value → Option Operand × Bindings
  | none => (none, b)
  | some value =>
    let (operand, b) := bindOperand b key value fold
    (some operand, b)

/-- The condition of a test on a column with a valid name. An empty list holds nothing but null, so
that no row passes it. -/
def condition (column : String) (fold : Bool) (b : Bindings) : Test → Condition × Bindings
  | .exact value =>
    let fold := fold && value.isText
    let (right, b) := bindOperand b column value fold
    (.equal (foldCase (.column column) fold) right, b)
  | .like text mode =>
    let (right, b) := bindOperand b column (.text (mode.pattern text)) fold
    (.like (foldCase (.column column) fold) right, b)
  | .oneOf [] => (.isIn (.column column) [.null], b)
  | .oneOf (value :: rest) =>
    let (items, b) := bindItems column fold 0 b (value :: rest)
    (.isIn (foldCase (.column column) fold) items, b)
  | .between min max =>
    let left := foldCase (.column column) fold
    let (low, b) := bindBound b (column ++ "__min") fold min
    let (high, b) := bindBound b (column ++ "__max") fold max
    let range := match low, high with
      | none, none => .either (.equal left left) (.isNull left)
      | some low, some high => .both (.atLeast left low) (.atMost left high)
      | some low, none => .atLeast left low
      | none, some high => .atMost left high
    (range, b)

/-- The condition of a predicate, with its values bound after those that are bound already. -/
def compile (p : Predicate) (b : Bindings) : Except Misuse (Condition × Bindings) :=
  match Predicate.checkedColumn p.column with
  | .ok name => .ok (condition name.text p.fold b p.test)
  | .error misuse => .error misuse

def compileAll (b : Bindings) : List Predicate → Except Misuse (List Condition × Bindings)
  | [] => .ok ([], b)
  | p :: rest =>
    match compile p b with
    | .error misuse => .error misuse
    | .ok (first, b) =>
      match compileAll b rest with
      | .error misuse => .error misuse
      | .ok (conditions, b) => .ok (first :: conditions, b)

end RecordSearch.Sql
