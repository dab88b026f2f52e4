import Mathlib.Data.List.DropRight
import RecordSearch.Proofs.Session
import RecordSearch.Proofs.Store.Pages
import RecordSearch.Store.Recorder

/-!
# What a recorder holds

The history of a recorder says all there is to say about it. The rows of a table are those that were
inserted into it, one insertion behind the other, and the recorded calls are the selections and
lookups that were answered since the calls were last cleared. What is refused leaves no trace.
-/

namespace RecordSearch

namespace Store

variable {store : Store} {table : String} {predicates : List Predicate}
  {request : Option PageRequest} {skipPaging : Bool} {id : Value}

theorem lookup_addTo (table : String) (rows : List Json) (tables : List (String × List Json))
    (name : String) :
    ((insert.addTo table rows tables).lookup name).getD [] =
      (tables.lookup name).getD [] ++ if table = name then rows else [] := by
  induction tables with
  | nil =>
      by_cases hname : table = name
      · simp [insert.addTo, hname]
      · simp [insert.addTo, List.lookup_cons, hname, beq_false_of_ne (Ne.symm hname)]
  | cons entry rest ih =>
      obtain ⟨other, old⟩ := entry
      by_cases hother : other = table
      · subst hother
        by_cases hname : name = other
        · simp [insert.addTo, hname]
        · simp [insert.addTo, List.lookup_cons, beq_false_of_ne hname, Ne.symm hname]
      · by_cases hname : name = other
        · subst hname
          simp [insert.addTo, hother, Ne.symm hother]
        · simpa [insert.addTo, hother, List.lookup_cons, beq_false_of_ne hname] using ih

theorem rows_insert (store : Store) (table : String) (rows : List Json) (name : String) :
    (store.insert table rows).rows name =
      store.rows name ++ if table = name then rows else [] :=
  lookup_addTo table rows store.tables name

theorem exists_select_eq_error (h : ¬ (Name.tableFault? table = none ∧
    Name.fault? (Paging.normalize request store.defaults).sortBy = none)) :
    ∃ e, store.select table predicates request skipPaging = .error e := by
  cases htable : Name.tableFault? table with
  | some fault =>
      refine ⟨.invalidTable fault, ?_⟩
      rw [select, checkTable, TableName.check_of_tableFault?_eq_some htable]
      rfl
  | none =>
      cases hcolumn : Name.fault? (Paging.normalize request store.defaults).sortBy with
      | none => exact absurd ⟨htable, hcolumn⟩ h
      | some fault =>
          refine ⟨.invalidSortColumn fault, ?_⟩
          simp only [select, checkTable, TableName.check_of_tableFault? htable, pageFor,
            FieldName.check_of_fault?_eq_some hcolumn]
          rfl

theorem selectById_eq_ok (h : Name.tableFault? table = none) :
    store.selectById table id = .ok (store.matching table [keyPredicate id]).head? := by
  rw [selectById, checkTable, TableName.check_of_tableFault? h]
  rfl

theorem exists_selectById_eq_error (h : Name.tableFault? table ≠ none) :
    ∃ e, store.selectById table id = .error e := by
  obtain ⟨fault, hfault⟩ := Option.ne_none_iff_exists'.1 h
  refine ⟨.invalidTable fault, ?_⟩
  rw [selectById, checkTable, TableName.check_of_tableFault?_eq_some hfault]
  rfl

end Store

namespace Recorder

/-! ### Uses -/

inductive Operation where
  | insert (table : String) (rows : List Json)
  | select (table : String) (predicates : List Predicate) (request : Option PageRequest)
      (skipPaging : Bool)
  | selectById (table : String) (id : Value)
  | calls
  | callsFor (table : String)
  | clearCalls

inductive Answer where
  | done
  | selection (found : Selection)
  | row (row : Option Json)
  | calls (calls : List RecordedCall)
  | refused (error : StoreError)

/-- The answer to an operation, and the recorder after it. -/
def perform (r : Recorder) : Operation → Answer × Recorder
  | .insert table rows => (.done, r.insert table rows)
  | .select table predicates request skipPaging =>
    match r.select table predicates request skipPaging with
    | (.ok found, r) => (.selection found, r)
    | (.error e, r) => (.refused e, r)
  | .selectById table id =>
    match r.selectById table id with
    | (.ok row, r) => (.row row, r)
    | (.error e, r) => (.refused e, r)
  | .calls => (.calls r.calls, r)
  | .callsFor table => (.calls (r.callsFor table), r)
  | .clearCalls => (.done, r.clearCalls)

abbrev History :=
  List (Operation × Answer)

/-- The rows that an operation inserts into a table. -/
def Operation.insertedInto (table : String) : Operation → List Json
  | .insert other rows => if other = table then rows else []
  | _ => []

/-- The call that a step of a history leaves behind, if it is a selection or a lookup that was
answered. -/
def recorded? : Operation × Answer → Option RecordedCall
  | (.select table predicates _ skipPaging, .selection _) =>
    some { table, predicates, skipPaging }
  | (.selectById table id, .row _) =>
    some { table, predicates := [Store.keyPredicate id], skipPaging := true }
  | _ => none

def isClearing : Operation × Answer → Bool
  | (.clearCalls, _) => true
  | _ => false

/-- The steps since the calls were last cleared. -/
def sinceCleared (history : History) : History :=
  history.rtakeWhile (!isClearing ·)

/-- The calls since the calls were last cleared. -/
def logged (history : History) : List RecordedCall :=
  (sinceCleared history).filterMap recorded?

/-- The first of some rows that is among those selected. -/
def IsEarliest (rows selected : List Json) (row : Json) : Prop :=
  ∃ earlier later, rows = earlier ++ row :: later ∧ row ∈ selected ∧
    ∀ other ∈ earlier, other ∉ selected

/-! ### One step more -/

theorem logged_concat (history : History) {step : Operation × Answer}
    (h : isClearing step = false) :
    logged (history ++ [step]) = logged history ++ (recorded? step).toList := by
  have hsince : sinceCleared (history ++ [step]) = sinceCleared history ++ [step] :=
    List.rtakeWhile_concat_pos _ _ _ (by rw [h]; rfl)
  rw [logged, hsince, List.filterMap_append, logged]
  cases hcall : recorded? step <;> simp [hcall]

theorem logged_concat_of_isClearing (history : History) {step : Operation × Answer}
    (h : isClearing step = true) : logged (history ++ [step]) = [] := by
  have hsince : sinceCleared (history ++ [step]) = [] :=
    List.rtakeWhile_concat_neg _ _ _ (by rw [h]; exact Bool.false_ne_true)
  rw [logged, hsince, List.filterMap_nil]

/-- What a recorder holds is what its history says. -/
structure Follows (defaults : PagingDefaults) (history : History) (r : Recorder) : Prop where
  defaults_eq : r.store.defaults = defaults
  rows_eq : ∀ table, r.store.rows table = history.flatMap (·.1.insertedInto table)
  calls_eq : r.calls = logged history

variable {defaults : PagingDefaults} {history : History} {r : Recorder}

namespace Follows

theorem empty (defaults : PagingDefaults) : Follows defaults [] (Recorder.empty defaults) where
  defaults_eq := rfl
  rows_eq := fun _ => rfl
  calls_eq := rfl

theorem insert (h : Follows defaults history r) (table : String) (rows : List Json) :
    Follows defaults (history ++ [(.insert table rows, .done)]) (r.insert table rows) where
  defaults_eq := h.defaults_eq
  rows_eq := fun name => by
    rw [Recorder.insert, Store.rows_insert, h.rows_eq, List.flatMap_append]
    simp [Operation.insertedInto]
  calls_eq := by
    rw [logged_concat history rfl, ← h.calls_eq]
    exact (List.append_nil _).symm

/-- A step that inserts nothing and clears nothing keeps the rows and adds the call that it records,
if any. -/
theorem concat (h : Follows defaults history r) {step : Operation × Answer}
    (hinserted : ∀ table, step.1.insertedInto table = []) (hclearing : isClearing step = false) :
    Follows defaults (history ++ [step])
      { r with calls := r.calls ++ (recorded? step).toList } where
  defaults_eq := h.defaults_eq
  rows_eq := fun table => by
    rw [h.rows_eq, List.flatMap_append, List.flatMap_singleton, hinserted, List.append_nil]
  calls_eq := by rw [logged_concat history hclearing, h.calls_eq]

theorem clearCalls (h : Follows defaults history r) :
    Follows defaults (history ++ [(.clearCalls, .done)]) r.clearCalls where
  defaults_eq := h.defaults_eq
  rows_eq := fun table => by
    rw [List.flatMap_append, ← h.rows_eq]
    exact (List.append_nil _).symm
  calls_eq := (logged_concat_of_isClearing history rfl).symm

end Follows

/-! ### What a recorder answers -/

section Perform

variable {table : String} {predicates : List Predicate} {request : Option PageRequest}
  {skipPaging : Bool} {id : Value} {e : StoreError}

theorem perform_select_of_ok {found : Selection}
    (h : r.store.select table predicates request skipPaging = .ok found) :
    r.perform (.select table predicates request skipPaging) =
      (.selection found, r.record { table, predicates, skipPaging }) := by
  simp only [perform, select, h]

theorem perform_select_of_error
    (h : r.store.select table predicates request skipPaging = .error e) :
    r.perform (.select table predicates request skipPaging) = (.refused e, r) := by
  simp only [perform, select, h]

theorem perform_selectById_of_ok {row : Option Json} (h : r.store.selectById table id = .ok row) :
    r.perform (.selectById table id) = (.row row,
      r.record { table, predicates := [Store.keyPredicate id], skipPaging := true }) := by
  simp only [perform, selectById, h]

theorem perform_selectById_of_error (h : r.store.selectById table id = .error e) :
    r.perform (.selectById table id) = (.refused e, r) := by
  simp only [perform, selectById, h]

theorem select_eq_ok_of_perform {found : Selection}
    (h : (r.perform (.select table predicates request skipPaging)).1 = .selection found) :
    r.store.select table predicates request skipPaging = .ok found := by
  cases hresult : r.store.select table predicates request skipPaging with
  | ok selection =>
      rw [perform_select_of_ok hresult] at h
      rw [Answer.selection.inj h]
  | error e =>
      rw [perform_select_of_error hresult] at h
      cases h

/-- Selections, lookups and questions do no more to a recorder than to add the call that they are
recorded as, if any. -/
theorem snd_perform (r : Recorder) {next : Operation}
    (hinsert : ∀ table rows, next ≠ .insert table rows) (hclear : next ≠ .clearCalls) :
    (r.perform next).2 =
      { r with calls := r.calls ++ (recorded? (next, (r.perform next).1)).toList } := by
  -- What is refused or only asked is recorded as nothing.
  have hnothing : r = { r with calls := r.calls ++ [] } := by rw [List.append_nil]
  cases next with
  | insert table rows => exact absurd rfl (hinsert table rows)
  | select table predicates request skipPaging =>
      cases hresult : r.store.select table predicates request skipPaging with
      | ok found =>
          rw [perform_select_of_ok hresult]
          rfl
      | error e =>
          rw [perform_select_of_error hresult]
          exact hnothing
  | selectById table id =>
      cases hresult : r.store.selectById table id with
      | ok row =>
          rw [perform_selectById_of_ok hresult]
          rfl
      | error e =>
          rw [perform_selectById_of_error hresult]
          exact hnothing
  | calls => exact hnothing
  | callsFor table => exact hnothing
  | clearCalls => exact absurd rfl hclear

theorem store_perform (r : Recorder) {next : Operation}
    (h : ∀ table rows, next ≠ .insert table rows) : (r.perform next).2.store = r.store := by
  by_cases hclear : next = .clearCalls
  · rw [hclear]
    rfl
  · rw [r.snd_perform h hclear]

/-- After every operation a recorder holds what its history with this step says. -/
theorem Follows.perform (h : Follows defaults history r) (next : Operation) :
    Follows defaults (history ++ [(next, (r.perform next).1)]) (r.perform next).2 := by
  cases next with
  | insert table rows => exact h.insert table rows
  | clearCalls => exact h.clearCalls
  | select | selectById | calls | callsFor =>
      rw [r.snd_perform (by simp) (by simp)]
      exact h.concat (fun _ => rfl) rfl

/-- The row that a lookup finds is the first of the table that a selection by the same key has. -/
theorem head?_matching_eq_some_iff {store : Store} {found : Selection}
    (h : store.select table predicates request true = .ok found) {row : Json} :
    (store.matching table predicates).head? = some row ↔
      IsEarliest (store.rows table) found.rows row := by
  have hmem : ∀ other, other ∈ found.rows ↔
      other ∈ store.rows table ∧ Predicate.allMatch predicates other = true := fun other =>
    ⟨fun hother => List.mem_filter.1 (Store.mem_matching_of_select h hother),
      fun hother => Store.mem_rows_of_select_all h (List.mem_filter.2 hother)⟩
  rw [Store.matching, List.head?_filter, List.find?_eq_some_iff_append]
  constructor
  · rintro ⟨hrow, earlier, later, heq, hearlier⟩
    refine ⟨earlier, later, heq, (hmem row).2 ⟨by simp [heq], hrow⟩, fun other hother hfound => ?_⟩
    have hpasses := ((hmem other).1 hfound).2
    simpa [hpasses] using hearlier other hother
  · rintro ⟨earlier, later, heq, hrow, hearlier⟩
    refine ⟨((hmem row).1 hrow).2, earlier, later, heq, fun other hother => ?_⟩
    have hfails : ¬ Predicate.allMatch predicates other = true := fun hpasses =>
      hearlier other hother ((hmem other).2 ⟨by simp [heq, hother], hpasses⟩)
    simpa using hfails

theorem head?_matching_eq_none_iff {store : Store} {found : Selection}
    (h : store.select table predicates request true = .ok found) :
    (store.matching table predicates).head? = none ↔ found.rows = [] := by
  rw [List.head?_eq_none_iff]
  constructor
  · intro hnone
    refine List.eq_nil_iff_forall_not_mem.2 fun row hrow => ?_
    exact absurd (Store.mem_matching_of_select h hrow) (by simp [hnone])
  · intro hnone
    refine List.eq_nil_iff_forall_not_mem.2 fun row hrow => ?_
    exact absurd (Store.mem_rows_of_select_all h hrow) (by simp [hnone])

/-- A lookup finds the first row of the table among those that a selection by the same key has. -/
theorem exists_row_selectById (r : Recorder) (h : Name.tableFault? table = none) (id : Value) :
    ∃ row, (r.perform (.selectById table id)).1 = .row row ∧ ∀ request found,
      (r.perform (.select table [Store.keyPredicate id] request true)).1 = .selection found →
        (row = none ↔ found.rows = []) ∧
        ∀ first, row = some first ↔ IsEarliest (r.store.rows table) found.rows first := by
  refine ⟨(r.store.matching table [Store.keyPredicate id]).head?, ?_,
    fun request found hfound => ?_⟩
  · rw [perform_selectById_of_ok (Store.selectById_eq_ok h)]
  · have hfound := select_eq_ok_of_perform hfound
    exact ⟨head?_matching_eq_none_iff hfound, fun first => head?_matching_eq_some_iff hfound⟩

theorem exists_selection_select {paging : Paging}
    (hpaging : Paging.normalize request r.store.defaults = paging)
    (htable : Name.tableFault? table = none) (hcolumn : Name.fault? paging.sortBy = none) :
    ∃ found, (r.perform (.select table predicates request skipPaging)).1 = .selection found := by
  rw [perform_select_of_ok (Store.select_eq_ok htable hpaging hcolumn skipPaging)]
  exact ⟨_, rfl⟩

end Perform

/-- A recorder that was empty at the start holds what its history says. -/
theorem follows_run (defaults : PagingDefaults) (operations : List Operation) :
    Follows defaults (Session.run perform (empty defaults) operations).history
      (Session.run perform (empty defaults) operations).state :=
  Session.run_induction (Follows.empty defaults) (fun _ _ next h => h.perform next) operations

/-- A request that is answered for every table that can be named, whatever the defaults are. -/
def requestById : PageRequest :=
  { PageRequest.empty with sortBy := some "id" }

/-- **A recorder keeps rows and calls.** Whatever an empty recorder is asked, in any order,
afterwards a table has the rows that were inserted into it, and nothing but an insertion changes
them. The calls are those that were answered since they were last cleared, and the calls for a table
are those among them. A selection is answered if its table and its column can be named, and
otherwise it is refused and changes nothing; so is a lookup, for which the table is enough. A lookup
gives the first row of those inserted that a selection of everything by the same key has, and none
if that has none. -/
theorem run_rows_and_calls (defaults : PagingDefaults) (operations : List Operation) :
    let session := Session.run perform (empty defaults) operations
    let r := session.state
    let inserted := fun table => operations.flatMap (·.insertedInto table)
    let calls := logged session.history
    (∀ table, r.store.rows table = inserted table) ∧
    (∀ next, (∀ table rows, next ≠ .insert table rows) → (r.perform next).2.store = r.store) ∧
    r.perform .calls = (.calls calls, r) ∧
    (∀ table, r.perform (.callsFor table) = (.calls (calls.filter (·.table = table)), r)) ∧
    (∀ table predicates request skipPaging,
      let isNamed := Name.tableFault? table = none ∧
        Name.fault? (Paging.normalize request defaults).sortBy = none
      (isNamed → ∃ found,
        (r.perform (.select table predicates request skipPaging)).1 = .selection found) ∧
      (¬ isNamed → ∃ e,
        r.perform (.select table predicates request skipPaging) = (.refused e, r))) ∧
    ∀ table id,
      (Name.tableFault? table ≠ none → ∃ e, r.perform (.selectById table id) = (.refused e, r)) ∧
      (Name.tableFault? table = none → ∃ row, (r.perform (.selectById table id)).1 = .row row ∧
        (∃ request found, (r.perform
          (.select table [Store.keyPredicate id] request true)).1 = .selection found) ∧
        ∀ request found,
          (r.perform (.select table [Store.keyPredicate id] request true)).1 = .selection found →
            (row = none ↔ found.rows = []) ∧
            ∀ first, row = some first ↔ IsEarliest (inserted table) found.rows first) := by
  intro session r inserted calls
  have h : Follows defaults session.history r := follows_run defaults operations
  have hrows : ∀ table, r.store.rows table = inserted table := fun table => by
    rw [h.rows_eq, ← List.flatMap_map, Session.map_history_run]
  refine ⟨hrows, fun next => r.store_perform, ?_, fun table => ?_, fun table predicates request
    skipPaging => ⟨fun hnamed => ?_, fun hunnamed => ?_⟩, fun table id => ⟨fun htable => ?_,
    fun htable => ?_⟩⟩
  · exact congrArg (fun calls => (Answer.calls calls, r)) h.calls_eq
  · exact congrArg (fun calls => (Answer.calls (calls.filter (·.table = table)), r)) h.calls_eq
  · rw [← h.defaults_eq] at hnamed
    exact exists_selection_select rfl hnamed.1 hnamed.2
  · rw [← h.defaults_eq] at hunnamed
    obtain ⟨e, he⟩ := Store.exists_select_eq_error hunnamed
    exact ⟨e, perform_select_of_error he⟩
  · obtain ⟨e, he⟩ := Store.exists_selectById_eq_error htable
    exact ⟨e, perform_selectById_of_error he⟩
  · obtain ⟨row, hrow, hfirst⟩ := exists_row_selectById r htable id
    rw [hrows] at hfirst
    have hpaging : Paging.normalize requestById r.store.defaults =
        { Paging.normalize none r.store.defaults with sortBy := "id" } := rfl
    have hid : Name.fault? "id" = none := by decide +kernel
    exact ⟨row, hrow, ⟨requestById, exists_selection_select hpaging htable hid⟩, hfirst⟩

/-- A selection before the clearing and a refused one are not among the calls. -/
example :
    (Session.run perform (empty .standard)
      [.insert "seasons" [.object [("id", .integer 1)]], .select "seasons" [] none false,
        .clearCalls, .select "seasons" [] (some ⟨none, none, some "name;--", none⟩) true,
        .selectById "seasons" (.integer 1), .select "users" [] none false]).state.calls.map
      (fun call => (call.table, call.skipPaging)) = [("seasons", true), ("users", false)] := by
  decide +kernel

end Recorder

end RecordSearch
