import Mathlib.Data.List.Forall2
import RecordSearch.Record

/-!
# What a record read from an object holds

An object is read member by member, and the record has the fields and links of the entity. A field
with a required shape holds what its member is read as, every other value has the type of its field,
and there is a link for every field that is one.
-/

namespace RecordSearch

theorem mapM_eq_some_iff {α β : Type} {f : α → Option β} {xs : List α} {ys : List β} :
    xs.mapM f = some ys ↔ List.Forall₂ (fun x y => f x = some y) xs ys := by
  induction xs generalizing ys with
  | nil => simp [eq_comm]
  | cons x xs ih =>
      rw [List.mapM_cons, List.forall₂_cons_left_iff, Option.bind_eq_bind,
        Option.bind_eq_some_iff]
      refine exists_congr fun y => ?_
      rw [Option.bind_eq_bind, Option.bind_eq_some_iff]
      simp [ih, eq_comm]

theorem exists_mapM_eq_some {α β : Type} {f : α → Option β} {xs : List α}
    (h : ∀ x ∈ xs, ∃ y, f x = some y) : ∃ ys, xs.mapM f = some ys := by
  induction xs with
  | nil => exact ⟨[], mapM_eq_some_iff.2 .nil⟩
  | cons x xs ih =>
      obtain ⟨y, hy⟩ := h x List.mem_cons_self
      obtain ⟨ys, hys⟩ := ih fun x' hx' => h x' (List.mem_cons_of_mem _ hx')
      exact ⟨y :: ys, mapM_eq_some_iff.2 (.cons hy (mapM_eq_some_iff.1 hys))⟩

section Pairwise

variable {α β : Type} {R : α → β → Prop} {xs : List α} {ys : List β}

theorem exists_right_of_forall₂ (h : List.Forall₂ R xs ys) {x : α} (hx : x ∈ xs) :
    ∃ y ∈ ys, R x y := by
  induction h with
  | nil => simp at hx
  | cons hxy _ ih =>
      rcases List.mem_cons.1 hx with rfl | hx
      · exact ⟨_, List.mem_cons_self, hxy⟩
      · obtain ⟨y, hy, hxy⟩ := ih hx
        exact ⟨y, List.mem_cons_of_mem _ hy, hxy⟩

theorem exists_left_of_forall₂ (h : List.Forall₂ R xs ys) {y : β} (hy : y ∈ ys) :
    ∃ x ∈ xs, R x y :=
  exists_right_of_forall₂ h.flip hy

theorem forall₂_filter {p : α → Bool} {q : β → Bool} (h : List.Forall₂ R xs ys)
    (hsame : ∀ x ∈ xs, ∀ y, R x y → p x = q y) :
    List.Forall₂ R (xs.filter p) (ys.filter q) := by
  induction h with
  | nil => exact .nil
  | @cons x y xs ys hxy _ ih =>
      have hrest := ih fun x' hx' => hsame x' (List.mem_cons_of_mem _ hx')
      rw [List.filter_cons, List.filter_cons, hsame x List.mem_cons_self y hxy]
      cases q y with
      | true => exact .cons hxy hrest
      | false => exact hrest

end Pairwise

theorem lookup_of_mem {α β : Type} [BEq α] [LawfulBEq α] {entries : List (α × β)} {key : α}
    {value : β} (hnodup : (entries.map (·.1)).Nodup) (hmem : (key, value) ∈ entries) :
    entries.lookup key = some value := by
  induction entries with
  | nil => simp at hmem
  | cons entry entries ih =>
      rw [List.map_cons, List.nodup_cons] at hnodup
      obtain ⟨hfresh, hnodup⟩ := hnodup
      rcases List.mem_cons.1 hmem with rfl | hmem
      · exact List.lookup_cons_self
      · have hne : key ≠ entry.1 := by
          rintro rfl
          exact hfresh (List.mem_map_of_mem (f := (·.1)) hmem)
        rw [List.lookup_cons, beq_false_of_ne hne]
        exact ih hnodup hmem

section Kept

variable {α β γ : Type} (kept : β → Option γ)

theorem keys_filterMap (entries : List (α × β)) :
    (entries.filterMap fun entry => (kept entry.2).map (entry.1, ·)).map (·.1) =
      (entries.filter fun entry => (kept entry.2).isSome).map (·.1) := by
  induction entries with
  | nil => rfl
  | cons entry entries ih => cases hkept : kept entry.2 <;> simp [hkept, ih]

theorem lookup_filterMap [BEq α] [LawfulBEq α] {entries : List (α × β)} {key : α} {value : β}
    {target : γ} (hnodup : (entries.map (·.1)).Nodup) (hmem : (key, value) ∈ entries)
    (hkept : kept value = some target) :
    (entries.filterMap fun entry => (kept entry.2).map (entry.1, ·)).lookup key = some target := by
  refine lookup_of_mem ?_ (List.mem_filterMap.2 ⟨(key, value), hmem, by simp [hkept]⟩)
  rw [keys_filterMap]
  exact hnodup.sublist (List.filter_sublist.map _)

end Kept

def Value.type? : Value → Option FieldType
  | .uuid _ => some .uuid
  | .text _ => some .text
  | .integer _ => some .integer
  | .timestamp _ => some .timestamp
  | _ => none

theorem FieldType.type?_of_read? {type : FieldType} {value : Json} {v : Value}
    (h : type.read? value = some v) : v.type? = some type := by
  cases type <;> obtain ⟨_, _, rfl⟩ := Option.map_eq_some_iff.1 h <;> rfl

def Shape.type? : Shape → Option FieldType
  | .required type => some type
  | .optional type => some type
  | .link _ => none

/-- The cells that come of a member, or of none. A link of any kind will do for a link. -/
inductive Shape.Gives : Shape → Option Json → Cell → Prop
  | required {type : FieldType} {value : Json} {v : Value} (hread : type.read? value = some v) :
      Gives (.required type) (some value) (.value (some v))
  | optional {type : FieldType} {value : Json} {v : Value} (hread : type.read? value = some v) :
      Gives (.optional type) (some value) (.value (some v))
  | absent {type : FieldType} {member : Option Json} :
      Gives (.optional type) member (.value none)
  | link {entity : String} {member : Option Json} {target : Option Record} :
      Gives (.link entity) member (.link target)

theorem Shape.gives_of_missing? {shape : Shape} {cell : Cell} (h : shape.missing? = some cell)
    (member : Option Json) : shape.Gives member cell := by
  cases shape <;> cases h <;> constructor

theorem Shape.gives_of_readValue? {shape : Shape} {value : Json} {cell : Cell}
    (h : shape.readValue? value = some cell) : shape.Gives (some value) cell := by
  cases shape with
  | required type =>
      obtain ⟨v, hread, rfl⟩ := Option.map_eq_some_iff.1 h
      exact .required hread
  | optional type =>
      rw [readValue?] at h
      split at h
      · rw [← Option.some.inj h]
        exact .absent
      · obtain ⟨v, hread, rfl⟩ := Option.map_eq_some_iff.1 h
        exact .optional hread
  | link entity => cases h

namespace Cell

def value? : Cell → Option (Option Value)
  | .value v => some v
  | .link _ => none

def link? : Cell → Option (Option Record)
  | .link target => some target
  | .value _ => none

end Cell

namespace Entity

variable {catalogue : Catalogue} {entity : Entity}

def fieldNames (entity : Entity) : List String :=
  entity.fields.map (·.name)

def linkNames (entity : Entity) : List String :=
  (entity.fields.filter (·.shape.type?.isNone)).map (·.name)

theorem field?_eq_some {field : Field} (hnames : entity.fieldNames.Nodup)
    (hfield : field ∈ entity.fields) : entity.field? field.name = some field := by
  have hpairwise := List.pairwise_map.1 hnames
  rw [field?, List.find?_eq_some_iff_append]
  obtain ⟨front, back, hfields⟩ := List.append_of_mem hfield
  refine ⟨by simp, front, back, hfields, fun other hother => ?_⟩
  rw [hfields, List.pairwise_append] at hpairwise
  simpa using hpairwise.2.2 other hother field List.mem_cons_self

theorem readMembers?_of_unknown {name : String} (hname : entity.field? name = none)
    (value : Json) (rest : List (String × Json)) :
    readMembers? catalogue entity ((name, value) :: rest) =
      readMembers? catalogue entity rest := by
  rw [readMembers?, hname]

theorem exists_of_readMembers? {name : String} {field : Field} {value : Json}
    {rest : List (String × Json)} {cells : List (String × Cell)}
    (hname : entity.field? name = some field)
    (hcells : readMembers? catalogue entity ((name, value) :: rest) = some cells) :
    ∃ cell others, field.shape.Gives (some value) cell ∧
      readMembers? catalogue entity rest = some others ∧ cells = (name, cell) :: others := by
  rw [readMembers?, hname] at hcells
  cases hshape : field.shape with
  | required type | optional type =>
      simp only [hshape] at hcells
      obtain ⟨cell, hcell, hcells⟩ := Option.bind_eq_some_iff.1 hcells
      obtain ⟨others, hothers, rfl⟩ := Option.map_eq_some_iff.1 hcells
      exact ⟨cell, others, Shape.gives_of_readValue? hcell, hothers, rfl⟩
  | link target =>
      simp only [hshape] at hcells
      split at hcells
      · obtain ⟨others, hothers, rfl⟩ := Option.map_eq_some_iff.1 hcells
        exact ⟨.link none, others, .link, hothers, rfl⟩
      · obtain ⟨_, _, hcells⟩ := Option.bind_eq_some_iff.1 hcells
        obtain ⟨cell, hcell, hcells⟩ := Option.bind_eq_some_iff.1 hcells
        obtain ⟨r, _, rfl⟩ := Option.map_eq_some_iff.1 hcell
        obtain ⟨others, hothers, rfl⟩ := Option.map_eq_some_iff.1 hcells
        exact ⟨.link (some r), others, .link, hothers, rfl⟩

theorem gives_of_readMembers? {field : Field} (hnames : entity.fieldNames.Nodup)
    (hfield : field ∈ entity.fields) {cell : Cell} {members : List (String × Json)}
    {cells : List (String × Cell)} (hcells : readMembers? catalogue entity members = some cells)
    (hcell : cells.lookup field.name = some cell) :
    field.shape.Gives (members.lookup field.name) cell := by
  induction members generalizing cells with
  | nil =>
      obtain rfl : [] = cells := by simpa [readMembers?] using hcells
      simp at hcell
  | cons member rest ih =>
      obtain ⟨name, value⟩ := member
      by_cases hname : field.name = name
      · subst hname
        obtain ⟨first, others, hgives, _, rfl⟩ :=
          exists_of_readMembers? (field?_eq_some hnames hfield) hcells
        obtain rfl : first = cell := by simpa using hcell
        rwa [List.lookup_cons_self]
      · rw [List.lookup_cons, beq_false_of_ne hname]
        cases hknown : entity.field? name with
        | none =>
            rw [readMembers?_of_unknown hknown] at hcells
            exact ih hcells hcell
        | some known =>
            obtain ⟨first, others, _, hothers, rfl⟩ := exists_of_readMembers? hknown hcells
            rw [List.lookup_cons, beq_false_of_ne hname] at hcell
            exact ih hothers hcell

theorem fields_ofCells (cells : List (String × Cell)) :
    (ofCells cells).fields = cells.filterMap fun cell => cell.2.value?.map (cell.1, ·) := by
  refine List.filterMap_congr fun cell _ => ?_
  cases cell.2 <;> rfl

theorem links_ofCells (cells : List (String × Cell)) :
    (ofCells cells).links = cells.filterMap fun cell => cell.2.link?.map (cell.1, ·) := by
  refine List.filterMap_congr fun cell _ => ?_
  cases cell.2 <;> rfl

/-- Whether a cell under a name comes of the members of an object for a field. -/
def Answers (members : List (String × Json)) (field : Field) (cell : String × Cell) : Prop :=
  cell.1 = field.name ∧ field.shape.Gives (members.lookup field.name) cell.2

theorem Answers.isLink {members : List (String × Json)} {field : Field} {cell : String × Cell}
    (h : Answers members field cell) : field.shape.type?.isNone = cell.2.link?.isSome := by
  obtain ⟨_, hgives⟩ := h
  generalize field.shape = shape at hgives ⊢
  generalize cell.2 = content at hgives ⊢
  generalize members.lookup field.name = member at hgives
  cases hgives <;> rfl

theorem names_of_answers {members : List (String × Json)} {fields : List Field}
    {cells : List (String × Cell)} (h : List.Forall₂ (Answers members) fields cells) :
    cells.map (·.1) = fields.map (·.name) := by
  induction h with
  | nil => rfl
  | cons hcell _ ih => rw [List.map_cons, List.map_cons, hcell.1, ih]

/-- The record of an object has one cell for every field. -/
theorem exists_cells_of_read? {members : List (String × Json)} {record : Record}
    (hnames : entity.fieldNames.Nodup)
    (h : read? catalogue entity (.object members) = some record) :
    ∃ cells, record = ofCells cells ∧ List.Forall₂ (Answers members) entity.fields cells := by
  rw [read?] at h
  obtain ⟨known, hknown, h⟩ := Option.bind_eq_some_iff.1 h
  obtain ⟨cells, hcells, rfl⟩ := Option.map_eq_some_iff.1 h
  refine ⟨cells, rfl, ?_⟩
  refine ((List.forall₂_and_left _ _).2 ⟨fun _ h => h, mapM_eq_some_iff.1 hcells⟩).imp ?_
  rintro field cell ⟨hfield, hcell⟩
  obtain ⟨found, hfound, rfl⟩ := Option.map_eq_some_iff.1 hcell
  refine ⟨rfl, ?_⟩
  rcases Option.or_eq_some_iff.1 hfound with hread | ⟨_, hmissing⟩
  · exact gives_of_readMembers? hnames hfield hknown hread
  · exact Shape.gives_of_missing? hmissing _

section Cells

variable {cells : List (String × Cell)}

theorem value?_ofCells (hnodup : (cells.map (·.1)).Nodup) {name : String} {v : Option Value}
    (hmem : (name, Cell.value v) ∈ cells) : (ofCells cells).value? name = v := by
  have hlookup := lookup_filterMap Cell.value? hnodup hmem rfl
  rw [Record.value?, fields_ofCells, hlookup]
  rfl

end Cells

end Entity

/-- A record with the links of an entity and, where it has values, values of its types. -/
structure Record.Fits (entity : Entity) (record : Record) : Prop where
  links : record.links.map (·.1) = entity.linkNames
  types : ∀ field ∈ entity.fields, ∀ type, field.shape.type? = some type →
    ∀ v, record.value? field.name = some v → v.type? = some type

namespace Entity

variable {catalogue : Catalogue} {entity : Entity} {members : List (String × Json)}
  {record : Record}

theorem fits_of_read? (hnames : entity.fieldNames.Nodup)
    (h : read? catalogue entity (.object members) = some record) : record.Fits entity := by
  obtain ⟨cells, rfl, hcells⟩ := exists_cells_of_read? hnames h
  have hnodup : (cells.map (·.1)).Nodup := by rwa [names_of_answers hcells]
  constructor
  · have hlinks := forall₂_filter hcells fun field _ cell hcell => Answers.isLink hcell
    rw [links_ofCells, keys_filterMap, names_of_answers hlinks]
    rfl
  · intro field hfield type htype v hv
    obtain ⟨⟨name, cell⟩, hmem, rfl, hgives⟩ := exists_right_of_forall₂ hcells hfield
    generalize field.shape = shape at htype hgives
    generalize members.lookup field.name = member at hgives
    cases hgives with
    | required hread | optional hread =>
        rw [value?_ofCells hnodup hmem] at hv
        obtain rfl := Option.some.inj hv
        rw [FieldType.type?_of_read? hread, ← htype]
        rfl
    | absent =>
        rw [value?_ofCells hnodup hmem] at hv
        cases hv
    | link => cases htype

theorem value?_of_required (hnames : entity.fieldNames.Nodup)
    (h : read? catalogue entity (.object members) = some record) {field : Field}
    (hfield : field ∈ entity.fields) {type : FieldType} (hshape : field.shape = .required type) :
    ∃ value v, members.lookup field.name = some value ∧ type.read? value = some v ∧
      record.value? field.name = some v := by
  obtain ⟨cells, rfl, hcells⟩ := exists_cells_of_read? hnames h
  have hnodup : (cells.map (·.1)).Nodup := by rwa [names_of_answers hcells]
  obtain ⟨⟨name, cell⟩, hmem, rfl, hgives⟩ := exists_right_of_forall₂ hcells hfield
  rw [hshape] at hgives
  generalize members.lookup field.name = member at hgives ⊢
  cases hgives with
  | required hread => exact ⟨_, _, rfl, hread, value?_ofCells hnodup hmem⟩

end Entity

end RecordSearch
