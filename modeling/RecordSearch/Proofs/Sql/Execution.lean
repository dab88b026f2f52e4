import RecordSearch.Proofs.Paging.Bounds
import RecordSearch.Proofs.Sql.Agreement
import RecordSearch.Proofs.Sql.StatementText
import RecordSearch.Proofs.Store.Sorting

/-!
# Databases and stores agree

A database refuses exactly the requests that a store in memory refuses, with the same fault. Any
other request becomes statements whose answers are the rows and the count of the store: both keep
the rows on which the condition is true, sort them by the same column and cut out the same page.
-/

namespace RecordSearch

namespace Sql

/-! ### Conditions on rows -/

theorem kept?_eq_filter {values : List Value} {clause : Option Condition} {holds : Json → Bool}
    (hclause : ∀ row, Says (clauseTruth? values row clause) (holds row = true))
    (rows : List Json) : kept? values clause rows = some (rows.filter holds) := by
  induction rows with
  | nil => rfl
  | cons row rows ih =>
      obtain ⟨truth, htruth, hyes⟩ := hclause row
      by_cases hrow : holds row = true
      · simp [kept?, ih, htruth, hyes.2 hrow, hrow]
      · simp [kept?, ih, htruth, mt hyes.1 hrow, hrow]

/-- The clause of conditions that say what predicates say is true on the rows that match. -/
theorem exists_readWhere?_whereClause {predicates : List Predicate} {conditions : List Condition}
    {values : List Value} (hreadable : ∀ condition ∈ conditions, condition.IsReadable)
    (hmeans : ∀ row, List.Forall₂ (fun (p : Predicate) (c : Condition) =>
      Says (c.truth? values row) (p.isMatch row = true)) predicates conditions) :
    ∃ clause, readWhere? (whereClause conditions) = some clause ∧
      ∀ row, Says (clauseTruth? values row clause)
        (Predicate.allMatch predicates row = true) := by
  cases conditions with
  | nil =>
      obtain rfl : predicates = [] := by simpa using hmeans .null
      exact ⟨none, by decide +kernel, fun row => ⟨.yes, rfl, by simp [Predicate.allMatch]⟩⟩
  | cons condition conditions =>
      refine ⟨_, readWhere?_whereClause condition conditions hreadable, fun row => ?_⟩
      obtain ⟨first, rest, hfirst, hrest, rfl⟩ := List.forall₂_cons_right_iff.1 (hmeans row)
      exact says_conjunction hfirst hrest

/-! ### Answers -/

theorem inOrder_eq_sorted (column : String) (order : SortOrder) (rows : List Json) :
    inOrder rows (some (column, order)) = Store.sorted column order rows := by
  cases order <;> rfl

section Answer

variable {query : Query} {clause : Option Condition} {holds : Json → Bool}
  {tables : String → List Json}

theorem answer?_of_window_eq_none
    (hclause : readWhere? (whereClause query.select.conditions) = some clause)
    (hmeans : ∀ row, Says (clauseTruth? query.bindings.values row clause) (holds row = true))
    (hwindow : query.select.window = none) :
    let found := Store.sorted query.select.sortBy.text query.select.sortOrder
      ((tables query.select.table.text).filter holds)
    query.answer? tables = some (found, (found.length : Int)) := by
  intro found
  have hread := Select.readStatement?_text hclause (by simp [hwindow])
  have hcount : query.select.countText? = none := by simp [Select.countText?, hwindow]
  simp [Query.answer?, answerRecords?, hread, Reading.records?, kept?_eq_filter hmeans, hcount,
    hwindow, inOrder_eq_sorted, found]

theorem answer?_of_window_eq_some {offset length : Int}
    (hclause : readWhere? (whereClause query.select.conditions) = some clause)
    (hmeans : ∀ row, Says (clauseTruth? query.bindings.values row clause) (holds row = true))
    (hwindow : query.select.window = some (offset, length)) (hoffset : 0 ≤ offset)
    (hlength : 0 ≤ length) :
    let found := Store.sorted query.select.sortBy.text query.select.sortOrder
      ((tables query.select.table.text).filter holds)
    query.answer? tables =
      some ((found.drop offset.toNat).take length.toNat, (found.length : Int)) := by
  intro found
  have hread := Select.readStatement?_text hclause (by simp [hwindow, hoffset, hlength])
  obtain ⟨count, hcount⟩ : ∃ count, query.select.countText? = some count :=
    ⟨_, by rw [Select.countText?, hwindow]; rfl⟩
  have hreadCount := Select.readStatement?_countText hclause hcount
  simp [Query.answer?, answerRecords?, answerTotal?, hread, hreadCount, Reading.records?,
    Reading.total?, kept?_eq_filter hmeans, hcount, hwindow, inOrder_eq_sorted, found,
    Store.length_sorted]

end Answer

end Sql

/-! ### Requests -/

theorem Store.text_of_checkTable {table : String} {name : TableName}
    (h : checkTable table = .ok name) : name.text = table := by
  unfold checkTable at h
  split at h <;> rename_i hcheck
  · rw [← Except.ok.inj h]
    exact TableName.text_of_check hcheck
  · cases h

namespace Database

section Statement

variable {store : Store} {table : String} {predicates : List Predicate}
  {request : Option PageRequest} {skipPaging : Bool} {conditions : List Sql.Condition}
  {bindings : Bindings}

/-- What a request becomes: the same fault, or a query for the database and an answer of the store,
from the same names and the same page. -/
theorem statement_cases (hcompile : Sql.compileAll .empty predicates = .ok (conditions, bindings))
    {paging : Paging} (hpaging : Paging.normalize request store.defaults = paging) :
    (∃ fault, statement ⟨store.defaults⟩ table predicates request skipPaging =
        .error (.store fault) ∧
      store.select table predicates request skipPaging = .error fault) ∨
    ∃ (name : TableName) (sortBy : FieldName), name.text = table ∧ sortBy.text = paging.sortBy ∧
      statement ⟨store.defaults⟩ table predicates request skipPaging = .ok
        { select :=
            { table := name, conditions, sortBy, sortOrder := paging.sortOrder
              window := if skipPaging then none else some (paging.offset, paging.pageLength) }
          bindings } ∧
      let found := Store.sorted paging.sortBy paging.sortOrder (store.matching table predicates)
      store.select table predicates request skipPaging = .ok
        { rows := if skipPaging then found else paging.slice found
          paging := paging.summary found.length } := by
  subst hpaging
  cases htable : Store.checkTable table with
  | error fault =>
      refine .inl ⟨fault, ?_, ?_⟩
      · rw [statement, htable]
      · rw [Store.select, htable]
        rfl
  | ok name =>
      cases hsort : FieldName.check (Paging.normalize request store.defaults).sortBy with
      | error fault =>
          refine .inl ⟨.invalidSortColumn fault, ?_, ?_⟩
          · simp only [statement, htable, Sql.query, hsort]
          · simp only [Store.select, htable, Store.pageFor, hsort]
            rfl
      | ok sortBy =>
          refine .inr ⟨name, sortBy, Store.text_of_checkTable htable,
            FieldName.text_of_check hsort, ?_, ?_⟩
          · simp only [statement, htable, Sql.query, hsort, hcompile]
          · simp only [Store.select, htable, Store.pageFor, hsort]
            rfl

/-- The statements of a query give what the store gives. -/
theorem answer?_of_statement (hbuilt : ∀ p ∈ predicates, Sql.Built p) {query : Sql.Query}
    (hquery : statement ⟨store.defaults⟩ table predicates request skipPaging = .ok query) :
    ∃ found, store.select table predicates request skipPaging = .ok found ∧
      query.answer? store.rows = some (found.rows, found.paging.totalRecordCount) := by
  have hnames : ∀ p ∈ predicates, Name.fault? p.column = none := fun p hp => (hbuilt p hp).fault?
  have hcompile := Sql.compileAll_of_fault? hnames .empty
  have hreadable := Sql.isReadable_conditionsAfter hnames .empty
  obtain ⟨clause, hclause, hmeans⟩ := Sql.exists_readWhere?_whereClause hreadable
    (Sql.says_conditionsAfter (List.prefix_refl _))
  generalize hpaging : Paging.normalize request store.defaults = paging
  rcases statement_cases hcompile hpaging with
    ⟨fault, hstatement, -⟩ | ⟨name, sortBy, htable, hsortBy, hstatement, hselect⟩
  · rw [hstatement] at hquery
    cases hquery
  · rw [hstatement] at hquery
    have hquery := Except.ok.inj hquery
    have hclause : Sql.readWhere? (Sql.whereClause query.select.conditions) = some clause := by
      rw [← hquery]
      exact hclause
    have hmeans : ∀ row, Sql.Says (Sql.clauseTruth? query.bindings.values row clause)
        (Predicate.allMatch predicates row = true) := by
      rw [← hquery]
      exact hmeans
    refine ⟨_, hselect, ?_⟩
    cases skipPaging with
    | true =>
        have hwindow : query.select.window = none := by
          rw [← hquery]
          rfl
        rw [Sql.answer?_of_window_eq_none hclause hmeans hwindow, ← hquery]
        simp [htable, hsortBy, Store.matching, Paging.summary]
    | false =>
        have hwindow : query.select.window = some (paging.offset, paging.pageLength) := by
          rw [← hquery]
          rfl
        have hoffset : 0 ≤ paging.offset := hpaging ▸ Paging.offset_normalize_nonneg _ _
        have hlength : 1 ≤ paging.pageLength := hpaging ▸ Paging.one_le_pageLength_normalize _ _
        rw [Sql.answer?_of_window_eq_some hclause hmeans hwindow hoffset
          (Int.le_trans Int.one_nonneg hlength), ← hquery]
        simp [htable, hsortBy, Store.matching, Paging.summary, Paging.slice]

end Statement

/-! ### Single records -/

theorem says_key (id : Value) (row : Json) :
    Sql.Says (Sql.clauseTruth? [id] row (some (.equal (.column "id") (.parameter 1))))
      (Predicate.allMatch [Store.keyPredicate id] row = true) := by
  have hvalues : (Sql.condition "id" false .empty (.exact id)).2.values <+: [id] :=
    List.prefix_refl _
  have hmeans : Sql.Says ((Sql.condition "id" false .empty (.exact id)).1.truth? [id] row)
      (Predicate.isMatch ⟨"id", .exact id, false⟩ row = true) :=
    Sql.says_condition hvalues row
  exact hmeans.congr (by simp [Predicate.allMatch, Store.keyPredicate])

theorem keyStatement_cases (store : Store) (table : String) :
    (∃ fault, keyStatement table = .error fault ∧
      ∀ id, store.selectById table id = .error fault) ∨
    ∃ name : TableName, name.text = table ∧
      keyStatement table = .ok (Sql.selectByKey name keyColumn) ∧
      ∀ id, store.selectById table id =
        .ok (store.matching table [Store.keyPredicate id]).head? := by
  cases htable : Store.checkTable table with
  | error fault =>
      refine .inl ⟨fault, ?_, fun id => ?_⟩
      · rw [keyStatement, htable]
        rfl
      · rw [Store.selectById, htable]
        rfl
  | ok name =>
      refine .inr ⟨name, Store.text_of_checkTable htable, ?_, fun id => ?_⟩
      · rw [keyStatement, htable]
        rfl
      · rw [Store.selectById, htable]
        rfl

theorem answerRecords?_selectByKey (tables : String → List Json) (name : TableName) (id : Value) :
    Sql.answerRecords? tables [id] (Sql.selectByKey name keyColumn) =
      some (((tables name.text).filter (Predicate.allMatch [Store.keyPredicate id])).take 1) := by
  simp [Sql.answerRecords?, Sql.readStatement?_selectByKey, Sql.Reading.records?, keyColumn,
    Sql.kept?_eq_filter (says_key id), Sql.inOrder]

/-- **Databases and stores agree.** A request of predicates that callers can come by is refused
before the database sees it exactly if a store with the same defaults refuses it, with the same
fault, and with that of the table first. Otherwise its statements, read over the rows of the store,
give the rows and the count that the store gives. It is the same for one record by its key. -/
theorem statement_agrees (store : Store) (table : String) (predicates : List Predicate)
    (hbuilt : ∀ p ∈ predicates, Sql.Built p) (request : Option PageRequest) (skipPaging : Bool) :
    (∀ refusal, statement ⟨store.defaults⟩ table predicates request skipPaging = .error refusal ↔
      ∃ fault, refusal = .store fault ∧
        store.select table predicates request skipPaging = .error fault) ∧
    (∀ fault, TableName.check table = .error fault →
      store.select table predicates request skipPaging = .error (.invalidTable fault)) ∧
    (∀ query, statement ⟨store.defaults⟩ table predicates request skipPaging = .ok query →
      ∃ found, store.select table predicates request skipPaging = .ok found ∧
        query.answer? store.rows = some (found.rows, found.paging.totalRecordCount)) ∧
    (∀ id fault, keyStatement table = .error fault ↔ store.selectById table id = .error fault) ∧
    ∀ id text, keyStatement table = .ok text →
      ∃ rows, Sql.answerRecords? store.rows [id] text = some rows ∧
        store.selectById table id = .ok rows.head? := by
  have hcompile := Sql.compileAll_of_fault? (fun p hp => (hbuilt p hp).fault?) .empty
  refine ⟨fun refusal => ?_, fun fault hfault => ?_, fun query => answer?_of_statement hbuilt,
    fun id fault => ?_, fun id text htext => ?_⟩
  · rcases statement_cases hcompile rfl with
      ⟨fault, hstatement, hselect⟩ | ⟨name, sortBy, -, -, hstatement, hselect⟩
    · rw [hstatement, hselect]
      simp [eq_comm]
    · rw [hstatement, hselect]
      simp
  · have htable : Store.checkTable table = .error (.invalidTable fault) := by
      rw [Store.checkTable, hfault]
    rw [Store.select, htable]
    rfl
  · rcases keyStatement_cases store table with ⟨fault, hkey, hselect⟩ | ⟨name, -, hkey, hselect⟩
    · rw [hkey, hselect]
      simp
    · rw [hkey, hselect]
      simp
  · rcases keyStatement_cases store table with ⟨fault, hkey, -⟩ | ⟨name, hname, hkey, hselect⟩
    · rw [hkey] at htext
      cases htext
    · rw [hkey] at htext
      obtain rfl := Except.ok.inj htext
      refine ⟨_, answerRecords?_selectByKey store.rows name id, ?_⟩
      rw [hselect, hname, List.head?_take]
      rfl

def seasonStore : Store where
  tables := [("app.seasons", [
    .object [("id", .integer 1), ("name", .string "Spring")],
    .object [("id", .integer 2), ("name", .null)],
    .object [("id", .integer 3), ("name", .string "Autumn")]])]
  defaults := .standard

def seasonPredicates : List Predicate := [⟨"name", .like "R" .contains, true⟩]

theorem statement_agrees_seasonStore :
    (∀ p ∈ seasonPredicates, Sql.Built p) ∧
    ∃ query rows total, statement ⟨seasonStore.defaults⟩ "app.seasons" seasonPredicates
        (some ⟨none, some 1, some "name", some .descending⟩) false = .ok query ∧
      query.answer? seasonStore.rows = some (rows, total) ∧
      rows.map (fun row => (row.get? "name").bind Json.asText?) = [some "Spring"] ∧ total = 1 := by
  have hlike : Predicate.like "name" "R" .contains = .ok ⟨"name", .like "R" .contains, true⟩ := rfl
  have hbuilt : ∀ p ∈ seasonPredicates, Sql.Built p := by
    simp only [seasonPredicates, List.forall_mem_singleton]
    exact .like hlike
  obtain ⟨hrefused, -, hanswered, -⟩ := statement_agrees seasonStore "app.seasons" seasonPredicates
    hbuilt (some ⟨none, some 1, some "name", some .descending⟩) false
  have hselect : ((seasonStore.select "app.seasons" seasonPredicates
      (some ⟨none, some 1, some "name", some .descending⟩) false).map fun found =>
        (found.rows.map fun row => (row.get? "name").bind Json.asText?,
          found.paging.totalRecordCount)).toOption = some ([some "Spring"], 1) := by
    decide +kernel
  cases hstatement : statement ⟨seasonStore.defaults⟩ "app.seasons" seasonPredicates
      (some ⟨none, some 1, some "name", some .descending⟩) false with
  | error refusal =>
      obtain ⟨fault, -, hfault⟩ := (hrefused refusal).1 hstatement
      rw [hfault] at hselect
      cases hselect
  | ok query =>
      obtain ⟨found, hfound, hanswer⟩ := hanswered query hstatement
      rw [hfound] at hselect
      obtain ⟨hrows, htotal⟩ := Prod.mk.inj (Option.some.inj hselect)
      exact ⟨hbuilt, query, found.rows, found.paging.totalRecordCount, rfl, hanswer, hrows, htotal⟩

end Database

end RecordSearch
