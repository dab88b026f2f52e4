import RecordSearch.Catalogue.TaggedTree
import RecordSearch.Proofs.Directives.Seek
import RecordSearch.Proofs.Fetch.Script

/-!
# The calls of a search

Without delays a search makes the calls of its script in order and stops at the first that fails.
Each of them but the first goes to a relation of the source that the directives ask for, and to none
of them twice, so their number is bounded by the relations and not by the records.
-/

namespace RecordSearch

mutual

/-- The relations of a source and of the sources that they lead to, each as the names on the way to
it, and each before those behind it. -/
def Source.paths : Source → List (List String)
  | .mk _ relations => relationPaths relations

def relationPaths : List (Relation × Source) → List (List String)
  | [] => []
  | (relation, source) :: rest =>
    [relation.name] :: (Source.paths source).map (relation.name :: ·) ++ relationPaths rest

end

@[simp]
theorem map_path_under (name : String) (steps : List Step) :
    (steps.map (·.under name)).map (·.path) = (steps.map (·.path)).map (name :: ·) := by
  rw [List.map_map, List.map_map]
  rfl

section Script

variable (backend : Backend)

mutual

theorem script_paths_sublist (directives : Directives) (parents : List Record) :
    ∀ source : Source,
      ((source.script backend directives parents).map (·.path)).Sublist source.paths
  | .mk _ relations => by
      rw [Source.script, Source.paths]
      split
      · exact List.nil_sublist _
      · exact relationScript_paths_sublist directives parents relations

theorem relationScript_paths_sublist (directives : Directives) (parents : List Record) :
    ∀ relations : List (Relation × Source),
      ((relationScript backend directives parents relations).map (·.path)).Sublist
        (relationPaths relations)
  | [] => List.Sublist.refl _
  | (relation, source) :: rest => by
      have hrest := relationScript_paths_sublist directives parents rest
      rw [relationScript, relationPaths]
      cases hseek : directives.seek relation.name with
      | none => exact hrest.trans (List.sublist_append_right _ _)
      | some reduced =>
          simp only [List.map_append, List.map_cons, map_path_under]
          refine List.Sublist.append (List.Sublist.cons_cons _ ?_) hrest
          refine List.Sublist.map _ ?_
          cases backend.select source.entity _ none true with
          | error e => exact List.nil_sublist _
          | ok found => exact script_paths_sublist reduced found.1 source

end

mutual

theorem requests_of_mem_script (directives : Directives) (parents : List Record) :
    ∀ source : Source, ∀ step ∈ source.script backend directives parents,
      step.path ≠ [] ∧ directives.requests step.path = true
  | .mk _ relations => by
      intro step hstep
      rw [Source.script] at hstep
      split at hstep
      · simp at hstep
      · exact requests_of_mem_relationScript directives parents relations step hstep

theorem requests_of_mem_relationScript (directives : Directives) (parents : List Record) :
    ∀ relations : List (Relation × Source),
      ∀ step ∈ relationScript backend directives parents relations,
        step.path ≠ [] ∧ directives.requests step.path = true
  | [] => by simp [relationScript]
  | (relation, source) :: rest => by
      have hrest := requests_of_mem_relationScript directives parents rest
      intro step hstep
      rw [relationScript] at hstep
      cases hseek : directives.seek relation.name with
      | none =>
          rw [hseek] at hstep
          exact hrest step hstep
      | some reduced =>
          simp only [hseek, List.mem_append, List.mem_cons, List.mem_map] at hstep
          rcases hstep with (rfl | ⟨below, hbelow, rfl⟩) | hstep
          · exact ⟨by simp, Directives.requests_of_seek hseek⟩
          · split at hbelow
            · obtain ⟨hne, hrequests⟩ := requests_of_mem_script reduced _ source below hbelow
              exact ⟨by simp [Step.under],
                Directives.requests_cons_of_seek hseek hne hrequests⟩
            · simp at hbelow
          · exact hrest step hstep

end

end Script

namespace Repository

variable (repository : Repository)

theorem relatedScript_paths_sublist (directives : Option Directives) (records : List Record) :
    ((repository.relatedScript directives records).map (·.path)).Sublist
      (repository.source.paths.filter fun path => directives.any (·.requests path)) := by
  cases directives with
  | none => exact List.nil_sublist _
  | some directives =>
      have hrequests := requests_of_mem_script repository.backend directives records
        repository.source
      have hkept : ((repository.relatedScript (some directives) records).map (·.path)).filter
          (directives.requests ·) =
          (repository.relatedScript (some directives) records).map (·.path) := by
        refine List.filter_eq_self.2 fun path hpath => ?_
        obtain ⟨step, hstep, rfl⟩ := List.mem_map.1 hpath
        exact (hrequests step hstep).2
      rw [← hkept]
      exact (script_paths_sublist repository.backend directives records repository.source).filter _

theorem searchScript_paths_sublist {predicates : List Predicate} {request : Option PageRequest}
    {options : RequestOptions} :
    ((repository.searchScript predicates request options).tail.map (·.path)).Sublist
      (repository.source.paths.filter fun path => options.directives.any (·.requests path)) := by
  simp only [searchScript, List.tail_cons]
  split
  · exact repository.relatedScript_paths_sublist _ _
  · exact List.nil_sublist _

/-- **The calls of a search.** Without delays a search makes the calls of its script, up to the
first that fails or brings rows that are no records, and answers that call's error. After the first
call it goes only to relations that the directives ask for, and to each at most once. -/
theorem search_log_eq_script (hdelay : ∀ table, repository.backend.delay table = 0)
    (predicates : List Predicate) (request : Option PageRequest) (options : RequestOptions) :
    let outcome := repository.search predicates request options
    let script := repository.searchScript predicates request options
    let made := takeThrough (·.fails) script
    let requested := repository.source.paths.filter fun path =>
      options.directives.any (·.requests path)
    outcome.log = made.map (fun step => ⟨step.call, 0, some 0⟩) ∧
    (∀ e, script.findSome? (·.failure) = some e → outcome.result = .error e) ∧
    (script.findSome? (·.failure) = none → ∃ page, outcome.result = .ok page) ∧
    (made.tail.map (·.path)).Sublist requested ∧
    (repository.source.paths.Nodup → (made.tail.map (·.path)).Nodup) ∧
    outcome.log.length ≤ 1 + requested.length := by
  intro outcome script made requested
  have hlog : outcome.log = made.map fun step => ⟨step.call, 0, some 0⟩ := by
    have hinstant : (repository.searchLoad predicates request options).Instant :=
      instant_requestLoad hdelay _ _ _
    calc outcome.log
        = ((repository.searchLoad predicates request options).run repository.window 0).log :=
          search_log
      _ = (takeThrough Attempt.fails (script.map Step.toAttempt)).map (Load.entryAt 0) := by
          rw [Load.run_of_instant _ _ _ hinstant, script_searchLoad]
          rfl
      _ = made.map fun step => ⟨step.call, 0, some 0⟩ := by
          rw [takeThrough_map, List.map_map]
          rfl
  have hpaths : (made.tail.map (·.path)).Sublist requested := by
    have hmade : made.tail.Sublist script.tail := (takeThrough_sublist script).tail
    exact (hmade.map _).trans repository.searchScript_paths_sublist
  have hlength : outcome.log.length ≤ 1 + requested.length := by
    have htail := hpaths.length_le
    rw [List.length_map, List.length_tail] at htail
    rw [hlog, List.length_map]
    omega
  refine ⟨hlog, fun e he => search_result_of_some he, fun hnone => ?_, hpaths, fun hnodup => ?_,
    hlength⟩
  · obtain ⟨found, _, hresult⟩ := search_result_of_none hnone
    exact ⟨_, hresult⟩
  · exact hpaths.nodup (hnodup.filter _)

/-- A node, its parent and the tags of both take one call a relation, in the order of the relations
and not of the directives. -/
theorem sampleRepository_search_log :
    (∀ table, TaggedTree.sampleRepository.backend.delay table = 0) ∧
    (TaggedTree.sampleRepository.search [] none ⟨some ⟨["tag", "parent.tag_alt"]⟩, false⟩).log.map
        (fun entry => (entry.call.table, entry.call.lookup)) =
      [("nodes", .select [] false),
        ("nodes", .select [idPredicate [.integer 1]] true),
        ("tags", .select [idPredicate [.text "lost"]] true),
        ("tags", .select [idPredicate [.text "red"]] true)] := by
  refine ⟨fun _ => rfl, ?_⟩
  rw [(TaggedTree.sampleRepository.search_log_eq_script (fun _ => rfl) _ _ _).1]
  decide +kernel

end Repository

end RecordSearch
