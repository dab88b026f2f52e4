import RecordSearch.Proofs.Resolution.Keys

/-!
# Selections by key

A selection of related records holds, for each of its keys, the record that looking the key up
gives. Nothing else decides what it holds: with fewer keys it holds fewer records, and it does not
fail unless it fails with more.
-/

namespace RecordSearch

theorem Store.mem_sorted {column : String} {order : SortOrder} {rows : List Json} {row : Json} :
    row ∈ Store.sorted column order rows ↔ row ∈ rows := by
  cases order <;> simp [Store.sorted]

theorem Paging.mem_of_mem_slice {α : Type} {paging : Paging} {records : List α} {record : α}
    (h : record ∈ paging.slice records) : record ∈ records :=
  List.mem_of_mem_drop (List.mem_of_mem_take h)

section Select

variable {store : Store} {table : String} {predicates : List Predicate}
  {request : Option PageRequest} {skipPaging : Bool} {selection : Selection}

theorem Store.select_eq_ok_iff :
    store.select table predicates request skipPaging = .ok selection ↔
      (∃ name, checkTable table = .ok name) ∧ ∃ paging, store.pageFor request = .ok paging ∧
        let found := sorted paging.sortBy paging.sortOrder (store.matching table predicates)
        selection = ⟨if skipPaging then found else paging.slice found,
          paging.summary found.length⟩ := by
  unfold Store.select
  cases checkTable table with
  | error e => simp [bind, Except.bind]
  | ok name =>
      cases store.pageFor request with
      | error e => simp [bind, Except.bind]
      | ok paging => simp [bind, Except.bind, eq_comm]

theorem Store.mem_matching_of_select
    (h : store.select table predicates request skipPaging = .ok selection) {row : Json}
    (hrow : row ∈ selection.rows) : row ∈ store.matching table predicates := by
  obtain ⟨_, paging, _, rfl⟩ := Store.select_eq_ok_iff.1 h
  dsimp only at hrow
  split at hrow
  · exact Store.mem_sorted.1 hrow
  · exact Store.mem_sorted.1 (Paging.mem_of_mem_slice hrow)

theorem Store.mem_rows_of_select_all
    (h : store.select table predicates request true = .ok selection) {row : Json}
    (hrow : row ∈ store.matching table predicates) : row ∈ selection.rows := by
  obtain ⟨_, paging, _, rfl⟩ := Store.select_eq_ok_iff.1 h
  exact Store.mem_sorted.2 hrow

end Select

theorem mem_matching_keys_iff {store : Store} {table : String} {keys : List Value} {row : Json} :
    row ∈ store.matching table [idPredicate keys] ↔
      ∃ key ∈ keys, row ∈ store.matching table [Store.keyPredicate key] := by
  have hmatch : (idPredicate keys).isMatch row =
      keys.any fun key => (Store.keyPredicate key).isMatch row := by
    unfold Predicate.isMatch
    cases hid : row.field? "id" with
    | none => simp [idPredicate, Store.keyPredicate, hid]
    | some value => simp [idPredicate, Store.keyPredicate, hid, Test.passes]
  simp only [Store.matching, Predicate.allMatch, List.mem_filter, List.all_cons, List.all_nil,
    Bool.and_true, hmatch, List.any_eq_true]
  constructor
  · rintro ⟨hrow, key, hkey, hmatch⟩
    exact ⟨key, hkey, hrow, hmatch⟩
  · rintro ⟨key, hkey, hrow, hmatch⟩
    exact ⟨hrow, key, hkey, hmatch⟩

namespace Backend

variable {backend : Backend} {entity : Entity} {predicates : List Predicate}
  {request : Option PageRequest} {skipPaging : Bool} {found : List Record × PageSummary}

/-- Whether a call to a table gets as far as its rows. -/
def Reaches (backend : Backend) (table : String) : Prop :=
  backend.outage table = none ∧ ∃ name, Store.checkTable table = .ok name

theorem select_eq_ok_iff :
    backend.select entity predicates request skipPaging = .ok found ↔
      backend.outage entity.table = none ∧ ∃ selection,
        backend.store.select entity.table predicates request skipPaging = .ok selection ∧
        selection.rows.mapM (entity.read? backend.catalogue) = some found.1 ∧
        selection.paging = found.2 := by
  unfold select answer
  cases backend.outage entity.table with
  | some limit => simp [bind, Except.bind]
  | none =>
      cases backend.store.select entity.table predicates request skipPaging with
      | error e => simp [bind, Except.bind]
      | ok selection =>
          simp only [bind, Except.bind, readAll, true_and]
          cases hrecords : selection.rows.mapM (entity.read? backend.catalogue) with
          | none => simp [hrecords]
          | some records => simp [hrecords, Prod.ext_iff]

theorem reaches_of_select (h : backend.select entity predicates request skipPaging = .ok found) :
    backend.Reaches entity.table := by
  obtain ⟨houtage, selection, hselection, _⟩ := select_eq_ok_iff.1 h
  exact ⟨houtage, (Store.select_eq_ok_iff.1 hselection).1⟩

theorem exists_row_of_select
    (h : backend.select entity predicates request skipPaging = .ok found) {record : Record}
    (hrecord : record ∈ found.1) :
    ∃ row ∈ backend.store.matching entity.table predicates,
      entity.read? backend.catalogue row = some record := by
  obtain ⟨_, selection, hselection, hrecords, _⟩ := select_eq_ok_iff.1 h
  obtain ⟨row, hrow, hread⟩ := exists_left_of_forall₂ (mapM_eq_some_iff.1 hrecords) hrecord
  exact ⟨row, Store.mem_matching_of_select hselection hrow, hread⟩

theorem exists_record_of_select
    (h : backend.select entity predicates request true = .ok found) {row : Json}
    (hrow : row ∈ backend.store.matching entity.table predicates) :
    ∃ record ∈ found.1, entity.read? backend.catalogue row = some record := by
  obtain ⟨_, selection, hselection, hrecords, _⟩ := select_eq_ok_iff.1 h
  exact exists_right_of_forall₂ (mapM_eq_some_iff.1 hrecords)
    (Store.mem_rows_of_select_all hselection hrow)

/-- Fewer keys give fewer records, and no failure where more keys give none. -/
theorem select_keys_mono {keys fewer : List Value} (hkeys : fewer ⊆ keys)
    (h : backend.select entity [idPredicate keys] none true = .ok found) :
    ∃ found', backend.select entity [idPredicate fewer] none true = .ok found' ∧
      found'.1 ⊆ found.1 := by
  obtain ⟨houtage, selection, hselection, hrecords, _⟩ := select_eq_ok_iff.1 h
  obtain ⟨hname, paging, hpaging, _⟩ := Store.select_eq_ok_iff.1 hselection
  obtain ⟨selection', hselection'⟩ : ∃ selection',
      backend.store.select entity.table [idPredicate fewer] none true = .ok selection' :=
    ⟨_, Store.select_eq_ok_iff.2 ⟨hname, paging, hpaging, rfl⟩⟩
  have hread : ∀ row ∈ selection'.rows, ∃ record ∈ found.1,
      entity.read? backend.catalogue row = some record := by
    intro row hrow
    obtain ⟨key, hkey, hrow⟩ :=
      mem_matching_keys_iff.1 (Store.mem_matching_of_select hselection' hrow)
    exact exists_record_of_select h (mem_matching_keys_iff.2 ⟨key, hkeys hkey, hrow⟩)
  obtain ⟨records, hrecords'⟩ := exists_mapM_eq_some fun row hrow =>
    (hread row hrow).imp fun _ h => h.2
  refine ⟨(records, selection'.paging),
    select_eq_ok_iff.2 ⟨houtage, selection', hselection', hrecords', rfl⟩, fun record hrecord => ?_⟩
  obtain ⟨row, hrow, hrecord'⟩ := exists_left_of_forall₂ (mapM_eq_some_iff.1 hrecords') hrecord
  obtain ⟨record', hmem, hrecord''⟩ := hread row hrow
  rw [hrecord'] at hrecord''
  rwa [Option.some.inj hrecord'']

end Backend

/-- Every row is an object, and no two rows of a table have one key. -/
structure Store.Keyed (store : Store) : Prop where
  objects : ∀ table, ∀ row ∈ store.rows table, ∃ members, row = .object members
  unique : ∀ table key, (store.matching table [keyPredicate key]).length ≤ 1

theorem Store.mem_rows_of_mem_matching {store : Store} {table : String}
    {predicates : List Predicate} {row : Json} (h : row ∈ store.matching table predicates) :
    row ∈ store.rows table :=
  (List.mem_filter.1 h).1

theorem Store.Keyed.matching_eq_singleton {store : Store} (hstore : store.Keyed) {table : String}
    {key : Value} {row : Json} (hrow : row ∈ store.matching table [keyPredicate key]) :
    store.matching table [keyPredicate key] = [row] := by
  obtain ⟨only, honly⟩ := List.length_eq_one_iff.1
    (Nat.le_antisymm (hstore.unique table key) (List.length_pos_of_mem hrow))
  rw [honly] at hrow ⊢
  rw [List.mem_singleton.1 hrow]

namespace Backend

variable {backend : Backend} {entity : Entity} {key : Value}

theorem selectById_of_matching_eq_nil (hreaches : backend.Reaches entity.table)
    (hrows : backend.store.matching entity.table [Store.keyPredicate key] = []) :
    backend.selectById entity key = .ok none := by
  obtain ⟨houtage, name, hname⟩ := hreaches
  simp [selectById, answer, houtage, Store.selectById, hname, hrows, bind, Except.bind]

theorem selectById_of_matching_eq_singleton (hreaches : backend.Reaches entity.table) {row : Json}
    (hrows : backend.store.matching entity.table [Store.keyPredicate key] = [row])
    {record : Record} (hread : entity.read? backend.catalogue row = some record) :
    backend.selectById entity key = .ok (some record) := by
  obtain ⟨houtage, name, hname⟩ := hreaches
  simp [selectById, answer, houtage, Store.selectById, hname, hrows, bind, Except.bind, readAll,
    hread]

theorem selectById_of_read? (hstore : backend.store.Keyed) (hentity : entity.isKeyed = true)
    (hreaches : backend.Reaches entity.table) {row : Json}
    (hrow : row ∈ backend.store.rows entity.table) {record : Record}
    (hread : entity.read? backend.catalogue row = some record) :
    ∃ key, record.id? = some key ∧ backend.selectById entity key = .ok (some record) := by
  obtain ⟨members, rfl⟩ := hstore.objects _ _ hrow
  obtain ⟨key, hkey, htype, hmatch⟩ := exists_key_of_read? hentity hread
  have hmatching : Json.object members ∈
      backend.store.matching entity.table [Store.keyPredicate key] := by
    simp [Store.matching, Predicate.allMatch, hrow, (hmatch key htype).2 rfl]
  exact ⟨key, hkey,
    selectById_of_matching_eq_singleton hreaches (hstore.matching_eq_singleton hmatching) hread⟩

end Backend

theorem Relation.mem_of_pick_eq_some {children : List Record} {key : Value} {child : Record}
    (h : pick children key = some child) : child ∈ children ∧ child.id? = some key :=
  ⟨List.mem_reverse.1 (List.mem_of_find?_eq_some h), by simpa using List.find?_some h⟩

theorem Relation.pick_eq_none_iff {children : List Record} {key : Value} :
    pick children key = none ↔ ∀ child ∈ children, child.id? ≠ some key := by
  simp [pick]

/-- **Selecting by keys is looking them up.** Among the records that a selection by keys brings, the
one picked for a key is the one that looking the key up gives. -/
theorem Backend.selectById_eq_pick {backend : Backend} {entity : Entity}
    (hstore : backend.store.Keyed) (hentity : entity.isKeyed = true) {keys : List Value}
    {found : List Record × PageSummary}
    (h : backend.select entity [idPredicate keys] none true = .ok found) {key : Value}
    (hkey : key ∈ keys) (htype : key.type? = entity.keyType?) :
    backend.selectById entity key = .ok (Relation.pick found.1 key) := by
  have hreaches := reaches_of_select h
  cases hpick : Relation.pick found.1 key with
  | some child =>
      obtain ⟨hchild, hid⟩ := Relation.mem_of_pick_eq_some hpick
      obtain ⟨row, hrow, hread⟩ := exists_row_of_select h hchild
      obtain ⟨key', hid', hlookup⟩ := selectById_of_read? hstore hentity hreaches
        (Store.mem_rows_of_mem_matching hrow) hread
      rw [hid] at hid'
      rwa [Option.some.inj hid']
  | none =>
      refine selectById_of_matching_eq_nil hreaches
        (List.eq_nil_iff_forall_not_mem.2 fun row hrow => ?_)
      obtain ⟨child, hchild, hread⟩ :=
        exists_record_of_select h (mem_matching_keys_iff.2 ⟨key, hkey, hrow⟩)
      obtain ⟨members, rfl⟩ := hstore.objects _ _ (Store.mem_rows_of_mem_matching hrow)
      obtain ⟨key', hid, _, hmatch⟩ := exists_key_of_read? hentity hread
      have hrow' : (Store.keyPredicate key).isMatch (.object members) = true := by
        simpa [Predicate.allMatch] using (List.mem_filter.1 hrow).2
      rw [(hmatch key htype).1 hrow'] at hid
      exact Relation.pick_eq_none_iff.1 hpick child hchild hid

end RecordSearch
