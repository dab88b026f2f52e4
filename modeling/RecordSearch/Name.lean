import RecordSearch.Number.Digits

/-!
# Names of tables and columns

Names stand in statements as they are, so only plain identifiers are names: an ASCII letter or
underscore, then letters, digits and underscores, at most 63 bytes, and no reserved word. A table
name may have a schema name and a dot in front.
-/

namespace RecordSearch

/-- Why a text is not a name. Each fault carries the part of the text that has it. -/
inductive NameFault where
  | empty
  | tooLong (name : String)
  | badStart (name : String)
  | badCharacter (name : String)
  | reserved (name : String)
  deriving DecidableEq, Repr

namespace Name

/-- The longest name in bytes. -/
def maxLength : Nat := 63

def reservedWords : List String := [
  "ALL", "AND", "ANY", "AS", "ASC", "BETWEEN", "BY", "CASE", "CAST", "COLLATE", "CROSS", "DELETE",
  "DESC", "DISTINCT", "DROP", "ELSE", "END", "EXCEPT", "EXISTS", "FALSE", "FETCH", "FROM", "FULL",
  "GROUP", "HAVING", "ILIKE", "IN", "INNER", "INSERT", "INTERSECT", "INTO", "IS", "JOIN", "LEFT",
  "LIKE", "LIMIT", "NOT", "NULL", "OFFSET", "ON", "OR", "ORDER", "OUTER", "RETURNING", "RIGHT",
  "SELECT", "SIMILAR", "TABLE", "THEN", "TRUE", "UNION", "UPDATE", "USING", "WHEN", "WHERE", "WITH"]

def isStart (c : Char) : Bool :=
  c.isAlpha || c == '_'

def isPart (c : Char) : Bool :=
  c.isAlphanum || c == '_'

def fault? (name : String) : Option NameFault :=
  match name.toList with
  | [] => some .empty
  | first :: rest =>
    if maxLength < name.utf8ByteSize then some (.tooLong name)
    else if !isStart first then some (.badStart name)
    else if !(first :: rest).all isPart then some (.badCharacter name)
    else if reservedWords.contains (String.ofList ((first :: rest).map Char.toUpper)) then
      some (.reserved name)
    else none

theorem exists_of_fault?_eq_none {name : String} (h : fault? name = none) :
    ∃ first rest, name.toList = first :: rest ∧ isStart first = true ∧
      (∀ c ∈ first :: rest, isPart c = true) ∧
      String.ofList ((first :: rest).map Char.toUpper) ∉ reservedWords := by
  unfold fault? at h
  split at h
  · cases h
  · rename_i first rest hname
    refine ⟨first, rest, hname, ?_⟩
    split at h
    · cases h
    · split at h
      · cases h
      · split at h
        · cases h
        · split at h
          · cases h
          · simp_all

/-- A text cut at its first dot, if it has one. -/
def splitSchema (text : String) : String × Option String :=
  let cs := text.toList
  match cs.dropWhile (· ≠ '.') with
  | [] => (text, none)
  | _ :: rest => (String.ofList (cs.takeWhile (· ≠ '.')), some (String.ofList rest))

theorem splitSchema_of_not_mem {text : String} (h : '.' ∉ text.toList) :
    splitSchema text = (text, none) := by
  have hdotless : ∀ c ∈ text.toList, decide (c ≠ '.') = true :=
    fun c hc => decide_eq_true fun hdot => h (hdot ▸ hc)
  have hdrop : text.toList.dropWhile (· ≠ '.') = [] := by
    rw [← List.append_nil text.toList, List.dropWhile_append_of_pos hdotless]
    rfl
  simp only [splitSchema, hdrop]

theorem splitSchema_append_dot {schema : String} (h : '.' ∉ schema.toList) (table : String) :
    splitSchema (schema ++ "." ++ table) = (schema, some table) := by
  have hdotless : ∀ c ∈ schema.toList, decide (c ≠ '.') = true :=
    fun c hc => decide_eq_true fun hdot => h (hdot ▸ hc)
  have hchars : (schema ++ "." ++ table).toList = schema.toList ++ '.' :: table.toList := by
    simp
  have hdrop : (schema.toList ++ '.' :: table.toList).dropWhile (· ≠ '.') =
      '.' :: table.toList := by
    rw [List.dropWhile_append_of_pos hdotless]
    rfl
  have htake : (schema.toList ++ '.' :: table.toList).takeWhile (· ≠ '.') = schema.toList := by
    rw [List.takeWhile_append_of_pos hdotless]
    exact List.append_nil _
  simp only [splitSchema, hchars, hdrop, htake, String.ofList_toList]

/-- A text without a dot has no schema, and any other one is cut at its first dot. -/
theorem dotless_or_exists (text : String) :
    '.' ∉ text.toList ∨ ∃ schema table, '.' ∉ schema.toList ∧ text = schema ++ "." ++ table := by
  by_cases h : '.' ∈ text.toList
  · obtain ⟨schema, table, hchars, hschema⟩ := List.eq_append_cons_of_mem h
    refine .inr ⟨.ofList schema, .ofList table, by simpa using hschema, ?_⟩
    rw [← String.toList_inj, hchars]
    simp
  · exact .inl h

/-- The first fault of a table name: of the schema before that of the table. -/
def tableFault? (text : String) : Option NameFault :=
  match splitSchema text with
  | (schema, some table) => (fault? schema).or (fault? table)
  | (table, none) => fault? table

theorem tableFault?_of_not_mem {text : String} (h : '.' ∉ text.toList) :
    tableFault? text = fault? text := by
  rw [tableFault?, splitSchema_of_not_mem h]

theorem tableFault?_append_dot {schema : String} (h : '.' ∉ schema.toList) (table : String) :
    tableFault? (schema ++ "." ++ table) = (fault? schema).or (fault? table) := by
  rw [tableFault?, splitSchema_append_dot h]

theorem exists_of_tableFault?_eq_none {text : String} (h : tableFault? text = none) :
    fault? text = none ∨ ∃ schema table, text = schema ++ "." ++ table ∧
      fault? schema = none ∧ fault? table = none := by
  rcases dotless_or_exists text with hdot | ⟨schema, table, hdot, rfl⟩
  · rw [tableFault?_of_not_mem hdot] at h
    exact .inl h
  · rw [tableFault?_append_dot hdot, Option.or_eq_none_iff] at h
    exact .inr ⟨schema, table, rfl, h.1, h.2⟩

end Name

def NameFault.message : NameFault → String
  | .empty => "Name cannot be empty"
  | .tooLong name =>
    "Name '" ++ name ++ "' is too long: " ++ Number.decimal name.utf8ByteSize ++
      " characters (max " ++ Number.decimal Name.maxLength ++ ")"
  | .badStart name => "Name '" ++ name ++ "' must start with a letter or underscore"
  | .badCharacter name =>
    "Invalid characters in name '" ++ name ++
      "': only alphanumeric characters and underscores are allowed"
  | .reserved name => "Name '" ++ name ++ "' is a reserved SQL keyword"

structure FieldName where
  text : String
  valid : Name.fault? text = none

/-- The name of a table, with or without a schema. -/
structure TableName where
  text : String
  valid : Name.tableFault? text = none

def FieldName.check (text : String) : Except NameFault FieldName :=
  match h : Name.fault? text with
  | none => .ok ⟨text, h⟩
  | some fault => .error fault

theorem FieldName.check_of_fault? {text : String} (h : Name.fault? text = none) :
    FieldName.check text = .ok ⟨text, h⟩ := by
  unfold FieldName.check
  split
  · rfl
  · rename_i hfault
    rw [h] at hfault
    cases hfault

theorem FieldName.check_of_fault?_eq_some {text : String} {fault : NameFault}
    (h : Name.fault? text = some fault) : FieldName.check text = .error fault := by
  unfold FieldName.check
  split
  · rename_i hnone
    rw [h] at hnone
    cases hnone
  · rename_i hfault
    rw [h] at hfault
    rw [Option.some.inj hfault]

theorem FieldName.text_of_check {text : String} {name : FieldName}
    (h : FieldName.check text = .ok name) : name.text = text := by
  unfold FieldName.check at h
  split at h
  · rw [← Except.ok.inj h]
  · cases h

def TableName.check (text : String) : Except NameFault TableName :=
  match h : Name.tableFault? text with
  | none => .ok ⟨text, h⟩
  | some fault => .error fault

theorem TableName.check_of_tableFault? {text : String} (h : Name.tableFault? text = none) :
    TableName.check text = .ok ⟨text, h⟩ := by
  unfold TableName.check
  split
  · rfl
  · rename_i hfault
    rw [h] at hfault
    cases hfault

theorem TableName.check_of_tableFault?_eq_some {text : String} {fault : NameFault}
    (h : Name.tableFault? text = some fault) : TableName.check text = .error fault := by
  unfold TableName.check
  split
  · rename_i hnone
    rw [h] at hnone
    cases hnone
  · rename_i hfault
    rw [h] at hfault
    rw [Option.some.inj hfault]

theorem TableName.text_of_check {text : String} {name : TableName}
    (h : TableName.check text = .ok name) : name.text = text := by
  unfold TableName.check at h
  split at h
  · rw [← Except.ok.inj h]
  · cases h

end RecordSearch
