import Mathlib.Data.List.Nodup
import RecordSearch.Proofs.Record.Decoding
import RecordSearch.Proofs.Session
import RecordSearch.Registry

/-!
# What stands in a registry

A registry is a partial map from names to things of several kinds, and its history alone says which
map. The thing that stands under a name is the one of the last registration that was done under it,
unless the name was given up since then. Refusals and questions leave no mark.
-/

namespace RecordSearch.Registry

variable {Kind : Type} {Item : Kind → Type}

/-! ### Uses -/

inductive Operation (Kind : Type) (Item : Kind → Type) where
  | register (name : String) (kind : Kind) (item : Item kind)
  | get (name : String) (kind : Kind)
  | list
  | unregister (name : String)

inductive Answer (Kind : Type) (Item : Kind → Type) where
  | done
  | found (kind : Kind) (item : Item kind)
  | listed (names : List String)
  | refused (error : RegistryError)

/-- The answer to an operation, and the registry after it. -/
def perform [DecidableEq Kind] (registry : Registry Kind Item) :
    Operation Kind Item → Answer Kind Item × Registry Kind Item
  | .register name kind item =>
    match registry.register name kind item with
    | .ok next => (.done, next)
    | .error e => (.refused e, registry)
  | .get name kind =>
    match registry.get name kind with
    | .ok item => (.found kind item, registry)
    | .error e => (.refused e, registry)
  | .list => (.listed registry.names, registry)
  | .unregister name =>
    match registry.unregister name with
    | .ok next => (.done, next)
    | .error e => (.refused e, registry)

/-- Operations with their answers, in order. -/
abbrev History (Kind : Type) (Item : Kind → Type) :=
  List (Operation Kind Item × Answer Kind Item)

/-- Whether a step of a history changed what a name stands for. -/
def Changes (name : String) : Operation Kind Item × Answer Kind Item → Prop
  | (.register other _ _, .done) => other = name
  | (.unregister other, .done) => other = name
  | _ => False

/-- A thing stands under a name if it was registered under it and the name was neither given up nor
registered again since then. -/
def Standing (history : History Kind Item) (name : String) (thing : (kind : Kind) × Item kind) :
    Prop :=
  ∃ earlier later, history = earlier ++ (.register name thing.1 thing.2, .done) :: later ∧
    ∀ step ∈ later, ¬ Changes name step

def IsRegistered (history : History Kind Item) (name : String) : Prop :=
  ∃ thing, Standing history name thing

/-! ### One step more -/

section Step

variable {history : History Kind Item} {step : Operation Kind Item × Answer Kind Item}
  {name : String} {thing : (kind : Kind) × Item kind}

/-- A step makes a thing stand by registering it, or leaves it standing. -/
theorem standing_concat_iff : Standing (history ++ [step]) name thing ↔
    step = (.register name thing.1 thing.2, .done) ∨
      ¬ Changes name step ∧ Standing history name thing := by
  constructor
  · rintro ⟨earlier, later, heq, hlater⟩
    -- The registration is the last step itself, or the last step comes behind it.
    rcases List.eq_nil_or_concat later with rfl | ⟨others, last, rfl⟩
    · exact .inl (List.append_singleton_inj.1 heq).2
    · rw [List.concat_eq_append, ← List.cons_append, ← List.append_assoc,
        List.append_singleton_inj] at heq
      obtain ⟨rfl, rfl⟩ := heq
      rw [List.concat_eq_append, List.forall_mem_append] at hlater
      exact .inr ⟨hlater.2 _ List.mem_cons_self, earlier, others, rfl, hlater.1⟩
  · rintro (rfl | ⟨hstep, earlier, later, rfl, hlater⟩)
    · exact ⟨history, [], rfl, by simp⟩
    · refine ⟨earlier, later ++ [step], by simp, ?_⟩
      rw [List.forall_mem_append]
      exact ⟨hlater, by simpa using hstep⟩

theorem standing_concat_of_not_changes (h : ∀ name, ¬ Changes name step) :
    Standing (history ++ [step]) name thing ↔ Standing history name thing := by
  rw [standing_concat_iff]
  refine ⟨?_, fun hstanding => .inr ⟨h name, hstanding⟩⟩
  rintro (rfl | ⟨-, hstanding⟩)
  · exact absurd rfl (h name)
  · exact hstanding

end Step

/-! ### What a registry holds -/

/-- A registry holds, each under its own name, the things that stand after a history. -/
structure Holds (history : History Kind Item) (registry : Registry Kind Item) : Prop where
  nodup : (registry.entries.map (·.1)).Nodup
  mem_iff : ∀ name thing, (name, thing) ∈ registry.entries ↔ Standing history name thing

variable {registry : Registry Kind Item} {history : History Kind Item} {name : String}

theorem contains_iff : registry.contains name = true ↔ name ∈ registry.entries.map (·.1) := by
  simp only [contains, List.any_eq_true, List.mem_map, beq_iff_eq]

theorem mem_names_iff : name ∈ registry.names ↔ name ∈ registry.entries.map (·.1) :=
  List.mem_mergeSort

namespace Holds

theorem empty : Holds [] (Registry.empty : Registry Kind Item) where
  nodup := List.nodup_nil
  mem_iff := fun name thing => by simp [Standing, Registry.empty]

theorem isRegistered_iff (h : Holds history registry) :
    IsRegistered history name ↔ name ∈ registry.entries.map (·.1) := by
  simp only [IsRegistered, ← h.mem_iff, List.mem_map, Prod.exists]
  constructor
  · rintro ⟨thing, hthing⟩
    exact ⟨name, thing, hthing, rfl⟩
  · rintro ⟨name, thing, hthing, rfl⟩
    exact ⟨thing, hthing⟩

theorem contains_iff_isRegistered (h : Holds history registry) :
    registry.contains name = true ↔ IsRegistered history name := by
  rw [contains_iff, h.isRegistered_iff]

theorem lookup_eq_some_iff (h : Holds history registry) {thing : (kind : Kind) × Item kind} :
    registry.entries.lookup name = some thing ↔ Standing history name thing := by
  rw [← h.mem_iff]
  refine ⟨fun hlookup => ?_, lookup_of_mem h.nodup⟩
  obtain ⟨earlier, later, hentries, -⟩ := List.lookup_eq_some_iff.1 hlookup
  rw [hentries]
  exact List.mem_append_right _ List.mem_cons_self

theorem standing_unique (h : Holds history registry) {thing other : (kind : Kind) × Item kind}
    (hthing : Standing history name thing) (hother : Standing history name other) :
    thing = other := by
  rw [← h.lookup_eq_some_iff] at hthing hother
  exact Option.some.inj (hthing.symm.trans hother)

/-- A step that changes nothing is kept by the registry as it is. -/
theorem concat (h : Holds history registry) {step : Operation Kind Item × Answer Kind Item}
    (hstep : ∀ name, ¬ Changes name step) : Holds (history ++ [step]) registry where
  nodup := h.nodup
  mem_iff := fun name thing => by rw [h.mem_iff, standing_concat_of_not_changes hstep]

theorem register (h : Holds history registry) (hfree : name ∉ registry.entries.map (·.1))
    (kind : Kind) (item : Item kind) :
    Holds (history ++ [(.register name kind item, .done)])
      ⟨registry.entries ++ [(name, ⟨kind, item⟩)]⟩ where
  nodup := by
    rw [List.map_append]
    refine List.Nodup.append h.nodup (List.nodup_singleton _) fun other hother hname => ?_
    obtain rfl := List.mem_singleton.1 hname
    exact hfree hother
  mem_iff := fun other thing => by
    have hnew : (other, thing) = (name, ⟨kind, item⟩) ↔
        ((.register name kind item, .done) : Operation Kind Item × Answer Kind Item) =
          (.register other thing.1 thing.2, .done) := by
      obtain ⟨kind', item'⟩ := thing
      constructor <;> rintro ⟨⟩ <;> rfl
    have hold : Standing history other thing → name ≠ other := by
      rintro hstanding rfl
      exact hfree (h.isRegistered_iff.1 ⟨thing, hstanding⟩)
    rw [List.mem_append, List.mem_singleton, h.mem_iff, standing_concat_iff, hnew, or_comm]
    exact or_congr_right ⟨fun hstanding => ⟨hold hstanding, hstanding⟩, And.right⟩

theorem unregister (h : Holds history registry) (name : String) :
    Holds (history ++ [(.unregister name, .done)]) ⟨registry.entries.filter (·.1 != name)⟩ where
  nodup := List.Nodup.sublist (List.filter_sublist.map _) h.nodup
  mem_iff := fun other thing => by
    have hnew : ((.unregister name, .done) : Operation Kind Item × Answer Kind Item) ≠
        (.register other thing.1 thing.2, .done) := by rintro ⟨⟩
    rw [List.mem_filter, h.mem_iff, standing_concat_iff, bne_iff_ne, and_comm, ne_comm,
      or_iff_right hnew]
    rfl

end Holds

/-- The names in the order of their code points, each once. -/
theorem Holds.pairwise_names (h : Holds history registry) : registry.names.Pairwise (· < ·) := by
  have hordered : registry.names.Pairwise (· ≤ ·) := by
    refine (List.pairwise_mergeSort ?_ ?_ _).imp of_decide_eq_true
    · intro a b c hab hbc
      exact decide_eq_true (String.le_trans (of_decide_eq_true hab) (of_decide_eq_true hbc))
    · intro a b
      rw [← Bool.decide_or]
      exact decide_eq_true (String.le_total a b)
  have hnodup : registry.names.Nodup := (List.mergeSort_perm _ _).nodup_iff.2 h.nodup
  exact (hordered.and hnodup).imp fun ⟨hle, hne⟩ => Std.lt_of_le_of_ne hle hne

/-! ### What a registry answers -/

section Perform

variable [DecidableEq Kind] {kind : Kind} {item : Item kind}

theorem get_eq_ok (h : registry.entries.lookup name = some ⟨kind, item⟩) :
    registry.get name kind = .ok item := by
  rw [Registry.get, h]
  exact dif_pos rfl

theorem get_eq_error (h : ∀ item, registry.entries.lookup name ≠ some ⟨kind, item⟩) :
    registry.get name kind = .error (.notFound name) := by
  rw [Registry.get]
  cases hfound : registry.entries.lookup name with
  | none => rfl
  | some thing =>
      obtain ⟨other, item⟩ := thing
      refine dif_neg ?_
      rintro rfl
      exact h item hfound

namespace Holds

variable (h : Holds history registry)
include h

theorem perform_register_of_isRegistered (hname : IsRegistered history name) :
    registry.perform (.register name kind item) =
      (.refused (.alreadyRegistered name), registry) := by
  have htaken : registry.register name kind item = .error (.alreadyRegistered name) :=
    if_pos (h.contains_iff_isRegistered.2 hname)
  rw [Registry.perform, htaken]

theorem perform_register_of_not_isRegistered (hname : ¬ IsRegistered history name) :
    registry.perform (.register name kind item) =
      (.done, ⟨registry.entries ++ [(name, ⟨kind, item⟩)]⟩) := by
  have hfree : registry.register name kind item =
      .ok ⟨registry.entries ++ [(name, ⟨kind, item⟩)]⟩ :=
    if_neg (h.contains_iff_isRegistered.not.2 hname)
  rw [Registry.perform, hfree]

theorem perform_get_of_standing (hthing : Standing history name ⟨kind, item⟩) :
    registry.perform (.get name kind) = (.found kind item, registry) := by
  rw [Registry.perform, get_eq_ok (h.lookup_eq_some_iff.2 hthing)]

theorem perform_get_of_not_standing (hnone : ∀ item, ¬ Standing history name ⟨kind, item⟩) :
    registry.perform (.get name kind) = (.refused (.notFound name), registry) := by
  have hmissing := get_eq_error fun item => h.lookup_eq_some_iff.not.2 (hnone item)
  rw [Registry.perform, hmissing]

theorem perform_unregister_of_isRegistered (hname : IsRegistered history name) :
    registry.perform (.unregister name) = (.done, ⟨registry.entries.filter (·.1 != name)⟩) := by
  have hfound : registry.unregister name = .ok ⟨registry.entries.filter (·.1 != name)⟩ :=
    if_pos (h.contains_iff_isRegistered.2 hname)
  rw [Registry.perform, hfound]

theorem perform_unregister_of_not_isRegistered (hname : ¬ IsRegistered history name) :
    registry.perform (.unregister name) = (.refused (.notFound name), registry) := by
  have hmissing : registry.unregister name = .error (.notFound name) :=
    if_neg (h.contains_iff_isRegistered.not.2 hname)
  rw [Registry.perform, hmissing]

/-- After every operation the registry holds what stands after the history with this step. -/
theorem perform (next : Operation Kind Item) :
    Holds (history ++ [(next, (registry.perform next).1)]) (registry.perform next).2 := by
  cases next with
  | register name kind item =>
      by_cases hname : IsRegistered history name
      · rw [h.perform_register_of_isRegistered hname]
        exact h.concat fun _ => id
      · rw [h.perform_register_of_not_isRegistered hname]
        exact h.register (h.isRegistered_iff.not.1 hname) kind item
  | get name kind =>
      by_cases hthing : ∃ item, Standing history name ⟨kind, item⟩
      · obtain ⟨item, hthing⟩ := hthing
        rw [h.perform_get_of_standing hthing]
        exact h.concat fun _ => id
      · rw [h.perform_get_of_not_standing (not_exists.1 hthing)]
        exact h.concat fun _ => id
  | list => exact h.concat fun _ => id
  | unregister name =>
      by_cases hname : IsRegistered history name
      · rw [h.perform_unregister_of_isRegistered hname]
        exact h.unregister name
      · rw [h.perform_unregister_of_not_isRegistered hname]
        exact h.concat fun _ => id

end Holds

theorem perform_of_ne_done (registry : Registry Kind Item) {next : Operation Kind Item}
    (h : (registry.perform next).1 ≠ .done) : (registry.perform next).2 = registry := by
  cases next with
  | register name kind item =>
      cases hresult : registry.register name kind item with
      | ok next => simp [Registry.perform, hresult] at h
      | error e => simp [Registry.perform, hresult]
  | get name kind =>
      cases hresult : registry.get name kind with
      | ok item => simp [Registry.perform, hresult]
      | error e => simp [Registry.perform, hresult]
  | list => rfl
  | unregister name =>
      cases hresult : registry.unregister name with
      | ok next => simp [Registry.perform, hresult] at h
      | error e => simp [Registry.perform, hresult]

/-- A registry that was empty at the start holds what stands after its history. -/
theorem holds_run (operations : List (Operation Kind Item)) :
    Holds (Session.run Registry.perform Registry.empty operations).history
      (Session.run Registry.perform Registry.empty operations).state :=
  Session.run_induction Holds.empty (fun _ _ next h => h.perform next) operations

/-- **A registry is a partial map.** Whatever is asked of an empty registry, in any order,
afterwards its names are those that something was registered under and that were not given up since
then, in order and each once. Registering is refused for these names alone, and giving up for all
others. A thing is found under a name if it stands there and is asked for as what it is; otherwise
nothing is found. Only what is done changes anything. -/
theorem run_standing (operations : List (Operation Kind Item)) :
    let session := Session.run Registry.perform (Registry.empty : Registry Kind Item) operations
    let history := session.history
    let registry := session.state
    (∀ name, name ∈ registry.names ↔ IsRegistered history name) ∧
    registry.names.Pairwise (· < ·) ∧
    registry.perform .list = (.listed registry.names, registry) ∧
    (∀ name kind item,
      (registry.perform (.register name kind item) =
        (.refused (.alreadyRegistered name), registry) ↔ IsRegistered history name) ∧
      ((registry.perform (.register name kind item)).1 = .done ↔ ¬ IsRegistered history name)) ∧
    (∀ name kind,
      (∀ item, registry.perform (.get name kind) = (.found kind item, registry) ↔
        Standing history name ⟨kind, item⟩) ∧
      (registry.perform (.get name kind) = (.refused (.notFound name), registry) ↔
        ∀ item, ¬ Standing history name ⟨kind, item⟩)) ∧
    (∀ name,
      ((registry.perform (.unregister name)).1 = .done ↔ IsRegistered history name) ∧
      (registry.perform (.unregister name) = (.refused (.notFound name), registry) ↔
        ¬ IsRegistered history name)) ∧
    ∀ next, (registry.perform next).1 ≠ .done → (registry.perform next).2 = registry := by
  intro session history registry
  have h : Holds history registry := holds_run operations
  refine ⟨fun name => ?_, h.pairwise_names, rfl, fun name kind item => ?_, fun name kind => ?_,
    fun name => ?_, fun next => registry.perform_of_ne_done⟩
  · rw [mem_names_iff, h.isRegistered_iff]
  · by_cases hname : IsRegistered history name
    · simp [h.perform_register_of_isRegistered hname, hname]
    · simp [h.perform_register_of_not_isRegistered hname, hname]
  · by_cases hthing : ∃ item, Standing history name ⟨kind, item⟩
    · obtain ⟨item, hitem⟩ := hthing
      rw [h.perform_get_of_standing hitem]
      refine ⟨fun other => ⟨?_, fun hother => ?_⟩, by simpa using ⟨item, hitem⟩⟩
      · rintro ⟨⟩
        exact hitem
      · obtain ⟨⟩ := h.standing_unique hitem hother
        rfl
    · have hnone := not_exists.1 hthing
      simp [h.perform_get_of_not_standing hnone, hnone]
  · by_cases hname : IsRegistered history name
    · simp [h.perform_unregister_of_isRegistered hname, hname]
    · simp [h.perform_unregister_of_not_isRegistered hname, hname]

end Perform

/-- A name that was given up may be registered again, as a thing of another kind. -/
example :
    (Session.run Registry.perform (Registry.empty : Registry Bool fun _ => Nat)
      [.register "teams" true 1, .register "teams" false 2, .unregister "teams",
        .register "teams" false 3, .get "teams" true, .get "teams" false]).history.map (·.2) =
      [.done, .refused (.alreadyRegistered "teams"), .done, .done, .refused (.notFound "teams"),
        .found false 3] := rfl

end RecordSearch.Registry
