import RecordSearch.Catalogue.FantasyLeague
import RecordSearch.Catalogue.TaggedTree
import RecordSearch.Proofs.Resolution.OneByOne

/-!
# What a search answers

Every record that a search with directives answers is what looking its key up with the same
directives gives: the record of the row, with each requested link set to what looking up its key
with the rest of the directives gives, and with every other link as it was.
-/

namespace RecordSearch

mutual

/-- Whether a record is another one with its requested links resolved. Such a link is cleared where
its key is null, and else set to what looking the key up with the reduced directives gives, which in
turn is what looking it up without directives gives with its own links resolved. -/
def Source.Resolves (backend : Backend) (window : Window) (directives : Option Directives)
    (bare record : Record) : Source → Prop
  | .mk _ relations =>
    record.fields = bare.fields ∧ record.linkNames = bare.linkNames ∧
    (∀ name, (∀ relation ∈ relations.map (·.1), relation.name = name →
        directives.bind (·.seek name) = none) → record.link? name = bare.link? name) ∧
    relationsResolve backend window directives bare record relations

def relationsResolve (backend : Backend) (window : Window) (directives : Option Directives)
    (bare record : Record) : List (Relation × Source) → Prop
  | [] => True
  | (relation, source) :: rest =>
    (∀ reduced, directives.bind (·.seek relation.name) = some reduced →
      match bare.value? relation.key with
      | none => record.link? relation.name = some none
      | some key =>
        let repository : Repository := { backend, source, window }
        ∃ found target, (repository.getById key none).result = .ok found ∧
          (repository.getById key (some reduced)).result = .ok target ∧
          record.link? relation.name = some target ∧
          Option.Rel (fun child resolved =>
            Source.Resolves backend window (some reduced) child resolved source) found target) ∧
    relationsResolve backend window directives bare record rest

end

namespace Repository

variable {repository : Repository}

def resolve (repository : Repository) (directives : Option Directives) (record : Record) : Record :=
  match directives with
  | none => record
  | some directives => repository.source.resolve repository.backend directives record

theorem attachAll_plan (hstore : repository.backend.store.Keyed)
    (hsource : repository.source.isSound = true) {directives : Option Directives}
    {records : List Record} (hfits : ∀ record ∈ records, record.Fits repository.source.entity)
    (hanswered : Answered (repository.relatedScript directives records)) :
    Fetch.attachAll (repository.plan directives records) records =
      records.map (repository.resolve directives) := by
  rw [Fetch.attachAll_eq_map]
  cases directives with
  | none => rfl
  | some directives =>
      exact List.map_congr_left fun record hrecord =>
        attachTo_plan hstore directives records repository.source hsource hanswered record hrecord
          (hfits record hrecord)

theorem answered_relatedScript_mono {directives : Option Directives} {records fewer : List Record}
    (hfewer : fewer ⊆ records) (h : Answered (repository.relatedScript directives records)) :
    Answered (repository.relatedScript directives fewer) := by
  cases directives with
  | none => exact h
  | some directives => exact answered_script_mono _ hfewer repository.source h

theorem getById_result_of_selectById (hstore : repository.backend.store.Keyed)
    (hsource : repository.source.isSound = true) {directives : Option Directives} {key : Value}
    {found : Option Record}
    (hfound : repository.backend.selectById repository.source.entity key = .ok found)
    (hfits : ∀ record ∈ found.toList, record.Fits repository.source.entity)
    (hanswered : Answered (repository.relatedScript directives found.toList)) :
    (repository.getById key directives).result =
      .ok (found.map (repository.resolve directives)) := by
  have hnone : (repository.getByIdScript key directives).findSome? (·.failure) = none := by
    rw [List.findSome?_eq_none_iff]
    simpa [getByIdScript, hfound, failureOf, Answered] using hanswered
  obtain ⟨found', hfound', hresult⟩ := getById_result_of_none hnone
  obtain rfl : found' = found := Except.ok.inj (hfound'.symm.trans hfound)
  rw [hresult, attachAll_plan hstore hsource hfits hanswered]
  cases found' <;> rfl

/-- Where a selection by keys and the calls for what it brings are answered, so is looking one of
the keys up. -/
theorem getById_result_of_select (hstore : repository.backend.store.Keyed)
    (hsource : repository.source.isSound = true) {keys : List Value}
    {found : List Record × PageSummary}
    (hfound : repository.backend.select repository.source.entity [idPredicate keys] none true =
      .ok found)
    {key : Value} (hkey : key ∈ keys) (htype : key.type? = repository.source.entity.keyType?)
    {directives : Option Directives}
    (hanswered : Answered (repository.relatedScript directives found.1)) :
    (repository.getById key directives).result =
      .ok ((Relation.pick found.1 key).map (repository.resolve directives)) := by
  have hentity := Source.isKeyed_of_isSound hsource
  have hpicked : (Relation.pick found.1 key).toList ⊆ found.1 := by
    intro child hchild
    exact (Relation.mem_of_pick_eq_some (Option.mem_toList.1 hchild)).1
  exact getById_result_of_selectById hstore hsource
    (Backend.selectById_eq_pick hstore hentity hfound hkey htype)
    (fun child hchild => Backend.fits_of_select hstore hentity hfound (hpicked hchild))
    (answered_relatedScript_mono hpicked hanswered)

@[simp]
theorem id?_resolve (directives : Option Directives) (record : Record) :
    (repository.resolve directives record).id? = record.id? := by
  cases directives with
  | none => rfl
  | some directives => exact RecordSearch.id?_resolve _ _ _ _

end Repository

theorem relationsResolve_none {backend : Backend} {window : Window} {record : Record}
    (relations : List (Relation × Source)) :
    relationsResolve backend window none record record relations := by
  induction relations with
  | nil => trivial
  | cons entry rest ih => exact ⟨fun reduced h => by simp at h, ih⟩

section Resolved

variable (backend : Backend)

@[simp]
theorem linkNames_resolveRelations (directives : Directives) (record : Record)
    (relations : List (Relation × Source)) :
    (resolveRelations backend directives record relations).linkNames = record.linkNames := by
  induction relations generalizing record with
  | nil => rfl
  | cons entry rest ih =>
      obtain ⟨relation, source⟩ := entry
      rw [resolveRelations]
      split
      · exact ih record
      · rw [ih, Record.linkNames_setLink]

theorem link?_resolveRelations (directives : Directives) {name : String} (record : Record)
    {relations : List (Relation × Source)}
    (hname : ∀ relation ∈ relations.map (·.1), relation.name = name →
      directives.seek name = none) :
    (resolveRelations backend directives record relations).link? name = record.link? name := by
  induction relations generalizing record with
  | nil => rfl
  | cons entry rest ih =>
      obtain ⟨relation, source⟩ := entry
      rw [List.map_cons, List.forall_mem_cons] at hname
      obtain ⟨hfirst, hrest⟩ := hname
      rw [resolveRelations]
      cases hseek : directives.seek relation.name with
      | none => exact ih record hrest
      | some reduced =>
          have hne : name ≠ relation.name := by
            rintro rfl
            rw [hfirst rfl] at hseek
            cases hseek
          simp only [ih _ hrest, Record.link?_setLink_of_ne hne]

variable {backend} (window : Window)

mutual

theorem resolves_resolve (hstore : backend.store.Keyed) (directives : Directives) (bare : Record) :
    ∀ source : Source, source.isSound = true → bare.Fits source.entity →
      Answered (source.script backend directives [bare]) →
      source.Resolves backend window (some directives) bare (source.resolve backend directives bare)
  | .mk entity relations => by
      intro hsound hfits hanswered
      simp only [Source.isSound, Bool.and_eq_true, decide_eq_true_eq] at hsound
      obtain ⟨⟨_, hnames⟩, hrelations⟩ := hsound
      rw [Source.script, if_neg (by simp)] at hanswered
      rw [Source.resolve, Source.Resolves]
      exact ⟨fields_resolveRelations _ _ _ _, linkNames_resolveRelations _ _ _ _,
        fun name hname => link?_resolveRelations _ _ _ hname,
        relationsResolve_resolveRelations hstore directives bare relations hnames hrelations
          hanswered hfits rfl⟩

theorem relationsResolve_resolveRelations (hstore : backend.store.Keyed) (directives : Directives)
    (bare : Record) {entity : Entity} : ∀ relations : List (Relation × Source),
      (relations.map (·.1.name)).Nodup → relationsSound entity relations = true →
      Answered (relationScript backend directives [bare] relations) →
      ∀ {record : Record}, record.Fits entity → record.fields = bare.fields →
        relationsResolve backend window (some directives) bare
          (resolveRelations backend directives record relations) relations
  | [] => fun _ _ _ _ _ _ => trivial
  | (relation, source) :: rest => by
      intro hnames hsound hanswered record hfits hfields
      rw [List.map_cons, List.nodup_cons] at hnames
      obtain ⟨hfresh, hnames⟩ := hnames
      simp only [relationsSound, Bool.and_eq_true] at hsound
      obtain ⟨⟨hleads, hsource⟩, hrest⟩ := hsound
      rw [relationsResolve, resolveRelations]
      cases hseek : directives.seek relation.name with
      | none =>
          rw [relationScript_cons_of_none backend hseek] at hanswered
          refine ⟨fun reduced h => ?_, relationsResolve_resolveRelations hstore directives bare rest
            hnames hrest hanswered hfits hfields⟩
          rw [Option.bind_some, hseek] at h
          cases h
      | some reduced =>
          rw [answered_relationScript_cons backend hseek] at hanswered
          obtain ⟨⟨found, hfound, hnext⟩, hothers⟩ := hanswered
          refine ⟨fun reduced' h => ?_,
            relationsResolve_resolveRelations hstore directives bare rest hnames hrest hothers
              (hfits.setLink _ _) ((Record.fields_setLink _ _ _).trans hfields)⟩
          rw [Option.bind_some, hseek] at h
          obtain rfl := Option.some.inj h
          have hentity := Source.isKeyed_of_isSound hsource
          have hvalue : record.value? relation.key = bare.value? relation.key := by
            rw [Record.value?, Record.value?, hfields]
          have hlink : relation.name ∈ record.linkNames := by
            simp only [Relation.leads, Bool.and_eq_true, List.contains_iff_mem] at hleads
            rw [Record.linkNames, hfits.links]
            exact hleads.1
          -- Names differ, so none of the other relations sets this link again.
          have hunset : ∀ other ∈ rest.map (·.1), other.name = relation.name →
              directives.seek relation.name = none := by
            intro other hother hname
            obtain ⟨entry, hentry, rfl⟩ := List.mem_map.1 hother
            exact absurd (hname ▸ List.mem_map_of_mem hentry) hfresh
          simp only [link?_resolveRelations _ _ _ hunset, Record.link?_setLink_self hlink, hvalue]
          cases hkey : bare.value? relation.key with
          | none => rfl
          | some key =>
              have hmem : key ∈ relation.keys [bare] := by simp [Relation.keys, hkey, mem_distinct]
              have htype := Relation.type?_of_leads hleads hentity hfits (hvalue.trans hkey)
              have hlookup := Backend.selectById_eq_pick hstore hentity hfound hmem htype
              let repository : Repository := { backend, source, window }
              have hplain : (repository.getById key none).result =
                  .ok ((Relation.pick found.1 key).map (repository.resolve none)) :=
                repository.getById_result_of_select hstore hsource hfound hmem htype
                  (by simp [Answered, Repository.relatedScript])
              have hresolved : (repository.getById key (some reduced)).result =
                  .ok ((Relation.pick found.1 key).map (repository.resolve (some reduced))) :=
                repository.getById_result_of_select hstore hsource hfound hmem htype hnext
              refine ⟨_, _, hplain, hresolved, ?_, ?_⟩
              · rw [Option.bind_some, Backend.find?, hlookup]
                rfl
              · cases hpick : Relation.pick found.1 key with
                | none => exact .none
                | some child =>
                    have hchild := (Relation.mem_of_pick_eq_some hpick).1
                    exact .some (resolves_resolve hstore reduced child source hsource
                      (Backend.fits_of_select hstore hentity hfound hchild)
                      (answered_script_mono backend (by simpa using hchild) source hnext))

end

end Resolved

namespace Repository

variable {repository : Repository}

theorem resolves_resolve (hstore : repository.backend.store.Keyed)
    (hsource : repository.source.isSound = true) {directives : Option Directives}
    {record : Record} (hfits : record.Fits repository.source.entity)
    (hanswered : Answered (repository.relatedScript directives [record])) :
    repository.source.Resolves repository.backend repository.window directives record
      (repository.resolve directives record) := by
  cases directives with
  | none =>
      obtain ⟨backend, ⟨entity, relations⟩, window⟩ := repository
      exact ⟨rfl, rfl, fun _ _ => rfl, relationsResolve_none relations⟩
  | some directives =>
      exact RecordSearch.resolves_resolve _ hstore directives record repository.source hsource
        hfits hanswered

/-- **What a search answers.** Over a store with keys, every record that a search answers is what
looking its key up with the same directives gives. The same search without directives answers the
same page, and each record of the one is that of the other with exactly the requested links
resolved. -/
theorem search_resolves (hstore : repository.backend.store.Keyed)
    (hsource : repository.source.isSound = true) {predicates : List Predicate}
    {request : Option PageRequest} {options : RequestOptions} {page : RecordPage}
    (hpage : (repository.search predicates request options).result = .ok page) :
    (∀ item ∈ page.records, ∃ key, item.id? = some key ∧
      (repository.getById key options.directives).result = .ok (some item)) ∧
    ∃ plain,
      (repository.search predicates request { options with directives := none }).result =
        .ok plain ∧
      page.paging = plain.paging ∧
      List.Forall₂ (fun bare item => repository.source.Resolves repository.backend
        repository.window options.directives bare item) plain.records page.records := by
  have hentity := Source.isKeyed_of_isSound hsource
  have hnone : (repository.searchScript predicates request options).findSome? (·.failure) =
      none := by
    refine Option.eq_none_iff_forall_ne_some.2 fun e he => ?_
    rw [search_result_of_some he] at hpage
    cases hpage
  obtain ⟨found, hfound, hresult⟩ := search_result_of_none hnone
  have hanswered : Answered (repository.relatedScript options.directives found.1) := by
    have hsteps := List.findSome?_eq_none_iff.1 hnone
    simp only [searchScript, hfound, List.forall_mem_cons] at hsteps
    exact hsteps.2
  have hfits : ∀ record ∈ found.1, record.Fits repository.source.entity := fun record hrecord =>
    Backend.fits_of_select hstore hentity hfound hrecord
  obtain rfl : page = ⟨found.1.map (repository.resolve options.directives), found.2⟩ := by
    rw [← attachAll_plan hstore hsource hfits hanswered]
    exact Except.ok.inj (hpage.symm.trans hresult)
  refine ⟨fun item hitem => ?_, ⟨found.1, found.2⟩, ?_, rfl, ?_⟩
  · obtain ⟨record, hrecord, rfl⟩ := List.mem_map.1 hitem
    obtain ⟨row, hrow, hread⟩ := Backend.exists_row_of_select hfound hrecord
    obtain ⟨key, hkey, hlookup⟩ := Backend.selectById_of_read? hstore hentity
      (Backend.reaches_of_select hfound) (Store.mem_rows_of_mem_matching hrow) hread
    refine ⟨key, by rw [id?_resolve, hkey], ?_⟩
    exact getById_result_of_selectById hstore hsource hlookup
      (by simpa using hfits record hrecord)
      (answered_relatedScript_mono (by simpa using hrecord) hanswered)
  · have hplain : (repository.searchScript predicates request
        { options with directives := none }).findSome? (·.failure) = none := by
      simp [searchScript, hfound, failureOf, relatedScript]
    obtain ⟨found', hfound', hresult'⟩ := search_result_of_none hplain
    obtain rfl : found' = found := Except.ok.inj (hfound'.symm.trans hfound)
    rw [hresult']
    rfl
  · rw [List.forall₂_map_right_iff, List.forall₂_same]
    intro record hrecord
    exact resolves_resolve hstore hsource (hfits record hrecord)
      (answered_relatedScript_mono (by simpa using hrecord) hanswered)

end Repository

/-! ### The entities of the catalogues -/

namespace TaggedTree

/-- However many levels up parents are known, nodes are resolved one by one. -/
theorem isSound_nodesTo (levels : Nat) : (nodesTo levels).isSound = true := by
  induction levels with
  | zero => decide
  | succ levels ih =>
      have hentity : (nodesTo levels).entity = node := by cases levels <;> rfl
      have hnames : (((⟨"parent", "parent_id"⟩, nodesTo levels) :: tagRelations).map
          (·.1.name)).Nodup := by
        change ["parent", "tag", "tag_alt"].Nodup
        decide
      rw [nodesTo, Source.isSound, relationsSound, hentity, ih, decide_eq_true hnames]
      decide

theorem keyed_sampleStore : sampleStore.Keyed := by
  have hrows : ∀ table, sampleStore.rows table = [] ∨
      ∃ members, sampleStore.rows table = [.object members] := by
    intro table
    by_cases hnodes : table = "nodes"
    · exact Or.inr ⟨_, by rw [hnodes]; rfl⟩
    · by_cases htags : table = "tags"
      · exact Or.inr ⟨_, by rw [htags]; rfl⟩
      · refine Or.inl ?_
        simp [Store.rows, sampleStore, List.lookup_cons, beq_false_of_ne hnodes,
          beq_false_of_ne htags]
  constructor
  · intro table row hrow
    rcases hrows table with h | ⟨members, h⟩ <;> rw [h] at hrow
    · cases hrow
    · exact ⟨members, List.mem_singleton.1 hrow⟩
  · intro table key
    refine Nat.le_trans (List.length_filter_le _ _) ?_
    rcases hrows table with h | ⟨members, h⟩ <;> simp [h]

theorem sampleRepository_search_resolves :
    sampleRepository.backend.store.Keyed ∧ sampleRepository.source.isSound = true ∧
    ∃ page, (sampleRepository.search [] none ⟨some ⟨["tag_alt", "parent.tag"]⟩, false⟩).result =
        .ok page ∧
      page.records ≠ [] ∧
      ∀ item ∈ page.records, ∃ key, item.id? = some key ∧
        (sampleRepository.getById key (some ⟨["tag_alt", "parent.tag"]⟩)).result =
          .ok (some item) := by
  have hnone : (sampleRepository.searchScript [] none
      ⟨some ⟨["tag_alt", "parent.tag"]⟩, false⟩).findSome? (·.failure) = none := by
    decide +kernel
  obtain ⟨found, hfound, hpage⟩ := Repository.search_result_of_none hnone
  refine ⟨keyed_sampleStore, isSound_nodesTo 5, _, hpage, ?_,
    (Repository.search_resolves keyed_sampleStore (isSound_nodesTo 5) hpage).1⟩
  have hsome : ((sampleRepository.backend.select node [] none false).map
      (·.1.isEmpty)).toOption = some false := by
    decide +kernel
  have hfound' : sampleRepository.backend.select node [] none false = .ok found := hfound
  rw [hfound'] at hsome
  rw [Fetch.attachAll_eq_map, Ne, List.map_eq_nil_iff, ← List.isEmpty_iff]
  simpa using Option.some.inj hsome

end TaggedTree

namespace FantasyLeague

example : ∀ source ∈ [users, leagues, seasons, teams, seasonLinks], source.isSound = true := by
  decide

end FantasyLeague

end RecordSearch
