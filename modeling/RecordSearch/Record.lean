import RecordSearch.Value

/-!
# Records

A record has typed fields and links to other records. An entity says which fields and links its
records have and how they are read from rows: from an object by name, or from an array by place.
-/

namespace RecordSearch

open Calendar (Instant)

inductive FieldType where
  | uuid
  | text
  | integer
  | timestamp
  deriving DecidableEq, Repr

/-- What a member of a row is read as. -/
inductive Shape where
  /-- A value that has to be there. -/
  | required (type : FieldType)
  /-- A value that may be null or missing. -/
  | optional (type : FieldType)
  /-- A record of an entity that may be null or missing. -/
  | link (entity : String)
  deriving DecidableEq, Repr

structure Field where
  name : String
  shape : Shape
  deriving DecidableEq, Repr

structure Entity where
  name : String
  table : String
  fields : List Field
  deriving DecidableEq, Repr

abbrev Catalogue := List Entity

def Catalogue.find? (catalogue : Catalogue) (name : String) : Option Entity :=
  List.find? (fun entity => entity.name == name) catalogue

inductive Record where
  | mk (fields : List (String × Option Value)) (links : List (String × Option Record))

namespace Record

def fields : Record → List (String × Option Value)
  | .mk fields _ => fields

def links : Record → List (String × Option Record)
  | .mk _ links => links

/-- The value of a field, if the record has it and it is not null. -/
def value? (record : Record) (field : String) : Option Value :=
  (record.fields.lookup field).join

def id? (record : Record) : Option Value :=
  record.value? "id"

def setLink (name : String) (target : Option Record) : Record → Record
  | .mk fields links =>
    .mk fields (links.map fun link => if link.1 = name then (name, target) else link)

mutual

/-- A record as JSON. Every field is written, and the links that lead somewhere. -/
def toJson : Record → Json
  | .mk fields links =>
    Json.ofMembers ((fields.map fun field => (field.1, (field.2.map Value.toJson).getD .null)) ++
      linkMembers links)

def linkMembers : List (String × Option Record) → List (String × Json)
  | [] => []
  | (_, none) :: rest => linkMembers rest
  | (name, some target) :: rest => (name, target.toJson) :: linkMembers rest

end

end Record

def FieldType.read? : FieldType → Json → Option Value
  | .uuid, value => (value.asText?.bind Uuid.parse?).map .uuid
  | .text, value => value.asText?.map .text
  | .integer, value => value.asInt64?.map .integer
  | .timestamp, value => (value.asText?.bind Instant.parseLenient?).map .timestamp

inductive Cell where
  | value (v : Option Value)
  | link (r : Option Record)

def Shape.readValue? : Shape → Json → Option Cell
  | .required type, value => (type.read? value).map fun v => .value (some v)
  | .optional type, value =>
    if value.isNull then some (.value none) else (type.read? value).map fun v => .value (some v)
  | .link _, _ => none

/-- What a missing member is read as. -/
def Shape.missing? : Shape → Option Cell
  | .required _ => none
  | .optional _ => some (.value none)
  | .link _ => some (.link none)

namespace Entity

def field? (entity : Entity) (name : String) : Option Field :=
  entity.fields.find? (·.name == name)

def ofCells (cells : List (String × Cell)) : Record :=
  .mk
    (cells.filterMap fun cell => match cell.2 with
      | .value v => some (cell.1, v)
      | .link _ => none)
    (cells.filterMap fun cell => match cell.2 with
      | .link r => some (cell.1, r)
      | .value _ => none)

/-- The record of an object's members: a field without a member is null if it may be. -/
def ofMembers? (entity : Entity) (cells : List (String × Cell)) : Option Record :=
  (entity.fields.mapM fun field =>
    ((cells.lookup field.name).or field.shape.missing?).map (field.name, ·)).map ofCells

/-- Fields after the end of an array: only links may be left out. -/
def restOfArray? : List Field → Option (List (String × Cell))
  | [] => some []
  | field :: rest =>
    match field.shape with
    | .link _ => (restOfArray? rest).map ((field.name, .link none) :: ·)
    | _ => none

mutual

/-- Reads a record from a row. Members that the entity does not know are passed over. -/
def read? (catalogue : Catalogue) (entity : Entity) : Json → Option Record
  | .object members => (readMembers? catalogue entity members).bind (ofMembers? entity)
  | .array items => (readItems? catalogue entity.fields items).map ofCells
  | _ => none

def readMembers? (catalogue : Catalogue) (entity : Entity) :
    List (String × Json) → Option (List (String × Cell))
  | [] => some []
  | (name, value) :: rest =>
    match entity.field? name with
    | none => readMembers? catalogue entity rest
    | some field => do
      let cell ← match field.shape with
        | .link target =>
          if value.isNull then some (.link none)
          else do
            let target ← catalogue.find? target
            (read? catalogue target value).map fun r => .link (some r)
        | shape => shape.readValue? value
      (readMembers? catalogue entity rest).map ((name, cell) :: ·)

def readItems? (catalogue : Catalogue) : List Field → List Json →
    Option (List (String × Cell))
  | fields, [] => restOfArray? fields
  | [], _ :: _ => none
  | field :: fields, value :: rest => do
    let cell ← match field.shape with
      | .link target =>
        if value.isNull then some (.link none)
        else do
          let target ← catalogue.find? target
          (read? catalogue target value).map fun r => .link (some r)
      | shape => shape.readValue? value
    (readItems? catalogue fields rest).map ((field.name, cell) :: ·)

end

end Entity

end RecordSearch
