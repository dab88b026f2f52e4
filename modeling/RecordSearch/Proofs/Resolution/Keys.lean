import RecordSearch.Fetch.Plan
import RecordSearch.Proofs.Record.Decoding

/-!
# Rows and records by key

A row matches a key when the record read from it has that key as its identifying value, as long as
values of the type are compared as they are read. So in a store in which no two rows of a table
share a key, looking a record up by its own key gives the record again.
-/

namespace RecordSearch

/-- Whether values of a type are equal as texts and numbers exactly if they are equal as values. An
instant can be read from texts that no comparison with it accepts. -/
def FieldType.isExact : FieldType → Bool
  | .uuid => true
  | .text => true
  | .integer => true
  | .timestamp => false

theorem equals_iff_of_read? {type : FieldType} (htype : type.isExact = true) {value : Json}
    {v key : Value} (hread : type.read? value = some v) (hkey : key.type? = some type) :
    equals value false key = true ↔ v = key := by
  cases type with
  | uuid =>
      obtain ⟨id, hid, rfl⟩ := Option.map_eq_some_iff.1 hread
      obtain ⟨text, htext, hparse⟩ := Option.bind_eq_some_iff.1 hid
      cases key <;> cases hkey
      rename_i other
      have hbits : id.bits = other.bits ↔ id = other := by cases id; cases other; simp
      simp [equals, compareField, htext, hparse, hbits]
  | text =>
      obtain ⟨text, htext, rfl⟩ := Option.map_eq_some_iff.1 hread
      cases key <;> cases hkey
      simp [equals, compareField, htext]
  | integer =>
      obtain ⟨i, hi, rfl⟩ := Option.map_eq_some_iff.1 hread
      cases key <;> cases hkey
      simp [equals, compareField, hi]
  | timestamp => cases htype

/-- The type of the values that identify the records of an entity, which every record has. -/
def Entity.keyType? (entity : Entity) : Option FieldType :=
  match entity.field? "id" with
  | some ⟨_, .required type⟩ => some type
  | _ => none

/-- An entity with a name for every field whose records are identified by values that are compared
as they are read. -/
def Entity.isKeyed (entity : Entity) : Bool :=
  decide entity.fieldNames.Nodup && entity.keyType?.any FieldType.isExact

theorem Entity.exists_field_of_keyType? {entity : Entity} {type : FieldType}
    (h : entity.keyType? = some type) :
    ∃ field ∈ entity.fields, field.name = "id" ∧ field.shape = .required type := by
  unfold keyType? at h
  split at h
  · rename_i name type' hfield
    refine ⟨_, List.mem_of_find?_eq_some hfield, by simpa using List.find?_some hfield, ?_⟩
    rw [Option.some.inj h]
  · cases h

theorem isNull_of_read? {type : FieldType} {value : Json} {v : Value}
    (h : type.read? value = some v) : value.isNull = false := by
  cases value with
  | null => cases type <;> cases h
  | bool | integer | float | string | array | object => rfl

/-- A record read from an object has a key, and the object matches this key alone. -/
theorem exists_key_of_read? {catalogue : Catalogue} {entity : Entity}
    (hkeyed : entity.isKeyed = true) {members : List (String × Json)} {record : Record}
    (h : entity.read? catalogue (.object members) = some record) :
    ∃ key, record.id? = some key ∧ key.type? = entity.keyType? ∧
      ∀ other : Value, other.type? = entity.keyType? →
        ((Store.keyPredicate other).isMatch (.object members) = true ↔ key = other) := by
  simp only [Entity.isKeyed, Bool.and_eq_true, decide_eq_true_eq, Option.any_eq_true] at hkeyed
  obtain ⟨hnames, type, htype, hexact⟩ := hkeyed
  obtain ⟨field, hfield, hname, hshape⟩ := Entity.exists_field_of_keyType? htype
  obtain ⟨value, key, hvalue, hread, hkey⟩ := Entity.value?_of_required hnames h hfield hshape
  rw [hname] at hvalue hkey
  refine ⟨key, hkey, ?_, fun other hother => ?_⟩
  · rw [htype, FieldType.type?_of_read? hread]
  · have hmember : (Json.object members).field? "id" = some value := by
      simp [Json.field?, Json.get?, hvalue, isNull_of_read? hread]
    rw [← equals_iff_of_read? hexact hread (hother.trans htype)]
    simp [Store.keyPredicate, Predicate.isMatch, hmember, Test.passes]

end RecordSearch
