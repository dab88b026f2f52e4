import RecordSearch.Proofs.Store.Pages
import RecordSearch.Settings.Load

/-!
# Requests under the defaults of settings

Settings that are read from a text have lengths under which the first page of a request is as long
as they say. Their sort column is only checked not to be blank. If it is a name, then every request
that asks for no page is answered; if it is not, then every one is refused.
-/

namespace RecordSearch

namespace Settings

variable {text : String} {settings : Settings}

/-- Requests that ask for no page are answered, with the first page as long as the settings say. -/
def ServesDefaults (settings : Settings) : Prop :=
  ∀ (store : Store) (table : String) (predicates : List Predicate),
    store.defaults = settings.paging.defaults → Name.tableFault? table = none →
    (∃ all, let summary : PageSummary :=
        ⟨1, settings.paging.defaultPageLength, settings.paging.defaultSortBy, false, all.length⟩
      store.select table predicates none true = .ok ⟨all, summary⟩ ∧
      store.select table predicates none false =
        .ok ⟨all.take settings.paging.defaultPageLength.toNat, summary⟩) ∧
    ((∀ p ∈ predicates, Sql.Built p) → ∀ skipPaging, ∃ query,
      Database.statement ⟨settings.paging.defaults⟩ table predicates none skipPaging =
        .ok query)

/-- Requests that ask for no page are refused for the sort column. -/
def RefusesDefaults (settings : Settings) (fault : NameFault) : Prop :=
  ∀ (store : Store) (table : String) (predicates : List Predicate) (skipPaging : Bool),
    store.defaults = settings.paging.defaults → Name.tableFault? table = none →
    store.select table predicates none skipPaging = .error (.invalidSortColumn fault) ∧
    ((∀ p ∈ predicates, Sql.Built p) →
      Database.statement ⟨settings.paging.defaults⟩ table predicates none skipPaging =
        .error (.store (.invalidSortColumn fault)))

theorem eq_ok_of_toOption {result : Except SettingsError Settings}
    (h : result.toOption = some settings) : result = .ok settings := by
  cases result with
  | error e => cases h
  | ok read => rw [Option.some.inj h]

theorem fault?_of_ofToml (h : ofToml text = .ok settings) : settings.fault? = none := by
  simp only [ofToml] at h
  split at h
  · cases h
  · unfold checked at h
    split at h
    · rename_i hfault
      rwa [← Except.ok.inj h]
    · cases h

theorem paging_fault?_of_ofToml (h : ofToml text = .ok settings) :
    settings.paging.fault? = none :=
  (Option.or_eq_none_iff.1 (Option.or_eq_none_iff.1 (fault?_of_ofToml h)).1).2

end Settings

theorem Paging.slice_of_page_eq_one {α : Type} {paging : Paging} {records : List α}
    (h : paging.page = 1) : paging.slice records = records.take paging.pageLength.toNat := by
  have hoffset : paging.offset = 0 := by
    rw [offset, h, Int.sub_self, Int.mul_zero]
    rfl
  rw [slice, hoffset, Int.toNat_zero, List.drop_zero]

theorem PagingSettings.normalize_defaults {paging : PagingSettings} (h : paging.fault? = none) :
    Paging.normalize none paging.defaults =
      ⟨1, paging.defaultPageLength, paging.defaultSortBy, .ascending⟩ := by
  unfold fault? at h
  split at h
  · cases h
  · split at h
    · cases h
    · simp only [Paging.normalize, PageRequest.empty, defaults, Option.getD_none,
        Option.filter_none]
      congr 1
      omega

namespace Settings

variable {settings : Settings}

theorem servesDefaults_of_fault? (hpaging : settings.paging.fault? = none)
    (hcolumn : Name.fault? settings.paging.defaultSortBy = none) : settings.ServesDefaults := by
  intro store table predicates hstore htable
  have hnormalize := hstore ▸ PagingSettings.normalize_defaults hpaging
  have hselect (skipPaging : Bool) :
      let found := Store.sorted settings.paging.defaultSortBy .ascending
        (store.matching table predicates)
      let paging : Paging :=
        ⟨1, settings.paging.defaultPageLength, settings.paging.defaultSortBy, .ascending⟩
      store.select table predicates none skipPaging =
        .ok ⟨if skipPaging then found else paging.slice found, paging.summary found.length⟩ :=
    Store.select_eq_ok htable hnormalize hcolumn skipPaging
  refine ⟨⟨_, hselect true, ?_⟩, fun hbuilt skipPaging => ?_⟩
  · rw [hselect false, if_neg Bool.false_ne_true, Paging.slice_of_page_eq_one rfl]
    rfl
  · have hcompile := Sql.compileAll_of_fault? (fun p hp => (hbuilt p hp).fault?) .empty
    rw [← hstore]
    rcases Database.statement_cases hcompile hnormalize with
      ⟨fault, -, hrefused⟩ | ⟨name, sortBy, -, -, hstatement, -⟩
    · rw [hselect skipPaging] at hrefused
      cases hrefused
    · exact ⟨_, hstatement⟩

theorem refusesDefaults_of_fault? (hpaging : settings.paging.fault? = none) {fault : NameFault}
    (hcolumn : Name.fault? settings.paging.defaultSortBy = some fault) :
    settings.RefusesDefaults fault := by
  intro store table predicates skipPaging hstore htable
  have hnormalize := hstore ▸ PagingSettings.normalize_defaults hpaging
  have hselect : store.select table predicates none skipPaging =
      .error (.invalidSortColumn fault) := by
    obtain ⟨name, hname⟩ := Store.exists_checkTable_eq_ok htable
    rw [Store.select, hname, Store.pageFor, hnormalize, FieldName.check_of_fault?_eq_some hcolumn]
    rfl
  refine ⟨hselect, fun hbuilt => ?_⟩
  have hcompile := Sql.compileAll_of_fault? (fun p hp => (hbuilt p hp).fault?) .empty
  rw [← hstore]
  rcases Database.statement_cases hcompile hnormalize with
    ⟨fault', hstatement, hrefused⟩ | ⟨name, sortBy, -, -, -, hanswered⟩
  · rw [hselect] at hrefused
    rw [hstatement, Except.error.inj hrefused]
  · rw [hselect] at hanswered
    cases hanswered

theorem not_servesDefaults {fault : NameFault} (h : settings.RefusesDefaults fault) :
    ¬ settings.ServesDefaults := by
  intro hserves
  have htable : Name.tableFault? "records" = none := by decide +kernel
  obtain ⟨⟨all, hall, -⟩, -⟩ :=
    hserves (.empty settings.paging.defaults) "records" [] rfl htable
  rw [(h _ _ _ true rfl htable).1] at hall
  cases hall

/-- **Accepted settings serve requests exactly if their sort column is a name.** Then a request that
asks for no page is answered with all rows, or with the first page of the length that the settings
have, and becomes a statement for the database. Otherwise the text is accepted all the same, and
every such request for a table that can be named is refused. -/
theorem ofToml_defaults {text : String} (h : ofToml text = .ok settings) :
    (settings.ServesDefaults ↔ Name.fault? settings.paging.defaultSortBy = none) ∧
    ∀ fault, Name.fault? settings.paging.defaultSortBy = some fault →
      settings.RefusesDefaults fault := by
  have hpaging := paging_fault?_of_ofToml h
  refine ⟨⟨fun hserves => ?_, servesDefaults_of_fault? hpaging⟩,
    fun fault => refusesDefaults_of_fault? hpaging⟩
  cases hcolumn : Name.fault? settings.paging.defaultSortBy with
  | none => rfl
  | some fault =>
      exact absurd hserves (not_servesDefaults (refusesDefaults_of_fault? hpaging hcolumn))

/-- A document that sets the sort column. -/
def sortingText (column : String) : String :=
  "database = [\"db\", 5432, \"fantasy\", \"app\", \"\", 1, 4, 30, 600, 3600]\n" ++
    "paging.default_sort_by = \"" ++ column ++ "\"\n"

def sortingSettings (column : String) : Settings where
  database := ⟨"db", 5432, "fantasy", "app", "", 1, 4, 30, 600, 3600⟩
  paging := { PagingSettings.standard with defaultSortBy := column }
  fetch := .standard

theorem ofToml_defaults_id :
    ofToml (sortingText "id") = .ok (sortingSettings "id") ∧
    (sortingSettings "id").ServesDefaults := by
  have hread : ofToml (sortingText "id") = .ok (sortingSettings "id") :=
    eq_ok_of_toOption (by decide +kernel)
  exact ⟨hread, (ofToml_defaults hread).1.2 (by decide +kernel)⟩

/-- The blank inside a column passes the check of the settings and fails that of every request. -/
theorem spacedColumn_refused :
    ofToml (sortingText "created at") = .ok (sortingSettings "created at") ∧
    ¬ (sortingSettings "created at").ServesDefaults ∧
    (sortingSettings "created at").RefusesDefaults (.badCharacter "created at") := by
  have hrefuses : (sortingSettings "created at").RefusesDefaults (.badCharacter "created at") :=
    refusesDefaults_of_fault? (by decide +kernel) (by decide +kernel)
  exact ⟨eq_ok_of_toOption (by decide +kernel), not_servesDefaults hrefuses, hrefuses⟩

end Settings

end RecordSearch
