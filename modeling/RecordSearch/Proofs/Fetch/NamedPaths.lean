import RecordSearch.Proofs.Directives.Segments
import RecordSearch.Proofs.Fetch.Trace

/-!
# Directives matter by what they name

Of directives, only the lists of known relations that they name have an effect. Their order, their
repetitions, what they name that is unknown, and how a path is written beyond the names that it
begins with, change neither the answer of a request nor one of its calls.
-/

namespace RecordSearch

/-- Whether relations at every level have names that can stand in paths. -/
def Source.IsPlain (source : Source) : Prop :=
  ∀ path ∈ source.paths, ∀ name ∈ path, IsSegment name

instance (source : Source) : Decidable source.IsPlain :=
  inferInstanceAs (Decidable (∀ path ∈ source.paths, ∀ name ∈ path, IsSegment name))

/-! ### Plans -/

section Below

variable {relation : Relation} {source : Source} {rest : List (Relation × Source)}

theorem mem_relationPaths_cons_iff {path : List String} :
    path ∈ relationPaths ((relation, source) :: rest) ↔
      path = [relation.name] ∨ (∃ below ∈ source.paths, path = relation.name :: below) ∨
        path ∈ relationPaths rest := by
  simp only [relationPaths, List.cons_append, List.mem_cons, List.mem_append, List.mem_map,
    @eq_comm _ (relation.name :: _)]

theorem ne_nil_of_mem_relationPaths : ∀ {relations : List (Relation × Source)} {path},
    path ∈ relationPaths relations → path ≠ []
  | [], path, hpath => by simp [relationPaths] at hpath
  | (relation, source) :: rest, path, hpath => by
      rcases mem_relationPaths_cons_iff.1 hpath with rfl | ⟨below, -, rfl⟩ | hpath
      · exact List.cons_ne_nil _ _
      · exact List.cons_ne_nil _ _
      · exact ne_nil_of_mem_relationPaths hpath

theorem ne_nil_of_mem_paths {path : List String} (hpath : path ∈ source.paths) : path ≠ [] := by
  cases source with
  | mk entity relations => exact ne_nil_of_mem_relationPaths hpath

theorem exists_cons_of_mem_paths {path : List String} (hpath : path ∈ source.paths)
    (hplain : source.IsPlain) : ∃ first others, path = first :: others ∧ IsSegment first := by
  obtain ⟨first, others, rfl⟩ := List.exists_cons_of_ne_nil (ne_nil_of_mem_paths hpath)
  exact ⟨first, others, rfl, hplain _ hpath first List.mem_cons_self⟩

end Below

section Plan

variable (backend : Backend)

mutual

theorem plan_eq_of_names (one two : Directives) (parents : List Record) :
    ∀ source : Source, source.IsPlain →
    (∀ path ∈ source.paths, one.names path = two.names path) →
    source.plan backend one parents = source.plan backend two parents
  | .mk _ relations => by
      intro hplain hsame
      rw [Source.plan, Source.plan,
        planRelations_eq_of_names one two parents relations hplain hsame]

theorem planRelations_eq_of_names (one two : Directives) (parents : List Record) :
    ∀ relations : List (Relation × Source),
    (∀ path ∈ relationPaths relations, ∀ name ∈ path, IsSegment name) →
    (∀ path ∈ relationPaths relations, one.names path = two.names path) →
    planRelations backend one parents relations = planRelations backend two parents relations
  | [] => fun _ _ => rfl
  | (relation, source) :: rest => by
      intro hplain hsame
      have hhere : [relation.name] ∈ relationPaths ((relation, source) :: rest) :=
        mem_relationPaths_cons_iff.2 (Or.inl rfl)
      have hbelow : ∀ path ∈ source.paths,
          relation.name :: path ∈ relationPaths ((relation, source) :: rest) :=
        fun path hpath => mem_relationPaths_cons_iff.2 (Or.inr (Or.inl ⟨path, hpath, rfl⟩))
      have hothers : planRelations backend one parents rest =
          planRelations backend two parents rest :=
        planRelations_eq_of_names one two parents rest
          (fun path hpath => hplain path (mem_relationPaths_cons_iff.2 (Or.inr (Or.inr hpath))))
          (fun path hpath => hsame path (mem_relationPaths_cons_iff.2 (Or.inr (Or.inr hpath))))
      have hdot : '.' ∉ relation.name.toList := (hplain _ hhere _ (by simp)).2
      have hsource : source.IsPlain := fun path hpath name hname =>
        hplain _ (hbelow path hpath) name (List.mem_cons_of_mem _ hname)
      rw [planRelations, planRelations, hothers]
      cases hone : one.seek relation.name with
      | none =>
          have htwo : two.seek relation.name = none := by
            rw [Directives.seek_eq_none_iff_names hdot] at hone ⊢
            rw [← hone, hsame _ hhere]
          rw [htwo]
      | some reduced =>
          cases htwo : two.seek relation.name with
          | none =>
              rw [Directives.seek_eq_none_iff_names hdot, ← hsame _ hhere,
                ← Directives.seek_eq_none_iff_names hdot, hone] at htwo
              cases htwo
          | some reduced' =>
              have hreduced : ∀ path ∈ source.paths, reduced.names path = reduced'.names path := by
                intro path hpath
                obtain ⟨first, others, rfl, hfirst⟩ := exists_cons_of_mem_paths hpath hsource
                rw [Directives.names_of_seek hdot hfirst hone,
                  Directives.names_of_seek hdot hfirst htwo]
                exact hsame _ (hbelow _ hpath)
              have hnext : ∀ children, source.plan backend reduced children =
                  source.plan backend reduced' children := fun children =>
                plan_eq_of_names reduced reduced' children source hsource hreduced
              simp only [hnext]

end

end Plan

/-! ### Requests -/

namespace Repository

variable (repository : Repository)

theorem plan_eq_plan_getD (directives : Option Directives) (records : List Record) :
    repository.plan directives records =
      repository.source.plan repository.backend (directives.getD ⟨[]⟩) records := by
  have hnone : ∀ relations : List (Relation × Source),
      planRelations repository.backend ⟨[]⟩ records relations = [] := by
    intro relations
    induction relations with
    | nil => rfl
    | cons relation rest ih =>
        obtain ⟨relation, source⟩ := relation
        rw [planRelations, ih]
        rfl
  cases directives with
  | some directives => rfl
  | none =>
      cases hsource : repository.source with
      | mk entity relations => simp [plan, Source.plan, hnone]

theorem any_names_eq_names_getD (directives : Option Directives) (path : List String) :
    directives.any (·.names path) = (directives.getD ⟨[]⟩).names path := by
  cases directives <;> rfl

/-- **Only named relations matter.** Two requests whose directives, if any, name the same lists of
known relations have the same outcome: the same answer at the same time after the same calls. -/
theorem outcome_eq_of_names (hplain : repository.source.IsPlain) (one two : Option Directives)
    (hsame : ∀ path ∈ repository.source.paths,
      one.any (·.names path) = two.any (·.names path)) :
    (∀ predicates request skipPaging,
      repository.search predicates request ⟨one, skipPaging⟩ =
        repository.search predicates request ⟨two, skipPaging⟩) ∧
    ∀ id, repository.getById id one = repository.getById id two := by
  have hplan : repository.plan one = repository.plan two := by
    funext records
    rw [plan_eq_plan_getD, plan_eq_plan_getD]
    refine plan_eq_of_names _ _ _ _ _ hplain fun path hpath => ?_
    rw [← any_names_eq_names_getD, ← any_names_eq_names_getD, hsame path hpath]
  constructor
  · intro predicates request skipPaging
    simp only [search, hplan]
  · intro id
    simp only [getById, hplan]

/-- A tag and the other tag of the parent, asked for plainly, and asked for out of order, twice,
with a path that goes on to no relation and with dots too many. -/
theorem sampleRepository_outcome_eq :
    let plainly : Directives := ⟨["parent.tag_alt", "tag"]⟩
    let oddly : Directives := ⟨["tag..label", "owner", "parent.tag_alt.", "tag", ".parent.tag"]⟩
    TaggedTree.sampleRepository.source.IsPlain ∧
    (∀ path ∈ TaggedTree.sampleRepository.source.paths,
      (some plainly).any (·.names path) = (some oddly).any (·.names path)) ∧
    TaggedTree.sampleRepository.getById (.integer 1) (some plainly) =
      TaggedTree.sampleRepository.getById (.integer 1) (some oddly) := by
  intro plainly oddly
  have hplain : TaggedTree.sampleRepository.source.IsPlain := by decide +kernel
  have hsame : ∀ path ∈ TaggedTree.sampleRepository.source.paths,
      (some plainly).any (·.names path) = (some oddly).any (·.names path) := by decide +kernel
  exact ⟨hplain, hsame,
    (TaggedTree.sampleRepository.outcome_eq_of_names hplain _ _ hsame).2 (.integer 1)⟩

end Repository

end RecordSearch
