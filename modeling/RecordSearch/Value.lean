import RecordSearch.Calendar.Reader
import RecordSearch.Json.Basic
import RecordSearch.Number.Shortest
import RecordSearch.Uuid

/-!
# Typed values

The values that predicates compare columns with and that statements bind.
-/

namespace RecordSearch

open Calendar (Date Instant)
open Number (Binary64 intDecimal)

inductive Value where
  | text (s : String)
  | integer (i : Int)
  | float (x : Binary64)
  | bool (b : Bool)
  | uuid (id : Uuid)
  | timestamp (t : Instant)
  | date (d : Date)
  deriving DecidableEq

namespace Value

/-- Whether lower case has a meaning for the value. -/
def isText : Value → Bool
  | .text _ => true
  | _ => false

def typeName : Value → String
  | .text _ => "text"
  | .integer _ => "integer"
  | .float _ => "float"
  | .bool _ => "bool"
  | .uuid _ => "uuid"
  | .timestamp _ => "timestamp"
  | .date _ => "date"

def display : Value → String
  | .text s => s
  | .integer i => intDecimal i
  | .float x => x.display
  | .bool b => if b then "true" else "false"
  | .uuid id => id.text
  | .timestamp t => t.display
  | .date d => String.ofList d.text

/-- The value as rows hold it. A number that is not finite has no such form and becomes null. -/
def toJson : Value → Json
  | .text s => .string s
  | .integer i => .integer i
  | .float (.finite negative units) => .float (.finite negative units)
  | .float _ => .null
  | .bool b => .bool b
  | .uuid id => .string id.text
  | .timestamp t => .string t.jsonText
  | .date d => .string (String.ofList d.text)

end Value

end RecordSearch
