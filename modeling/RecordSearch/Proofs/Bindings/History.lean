import RecordSearch.Proofs.Bindings.FreeKey
import RecordSearch.Proofs.Record.Decoding
import RecordSearch.Proofs.Sql.Placeholders

/-!
# Histories of bindings

Callers bind values under keys of their own and have predicates bind theirs, in any order. Whatever
they ask for, each value is bound at the next place under a key that nothing else is bound under,
and what is bound keeps its place, its key and its value from then on.
-/

namespace RecordSearch

namespace Bindings

variable {b : Bindings} {asked later : List (String × Value)} {key : String} {value : Value}

theorem entries_bind (b : Bindings) (key : String) (value : Value) :
    (b.bind key value).2.entries = b.entries ++ [(b.freeKey key, value)] := rfl

theorem nodup_keys_bind (h : b.keys.Nodup) (key : String) (value : Value) :
    (b.bind key value).2.keys.Nodup := by
  have hkeys : (b.bind key value).2.keys = b.keys ++ [b.freeKey key] := List.map_append
  rw [hkeys]
  refine h.append (List.nodup_singleton _) fun other hother hfree => ?_
  obtain rfl := List.mem_singleton.1 hfree
  exact b.freeKey_not_mem key hother

theorem nodup_keys_bindAll (h : b.keys.Nodup) (asked : List (String × Value)) :
    (b.bindAll asked).keys.Nodup := by
  induction asked generalizing b with
  | nil => exact h
  | cons first rest ih => exact ih (nodup_keys_bind h first.1 first.2)

/-- Where no key is repeated, each leads to the place and the value of its own entry. -/
theorem place?_of_getElem? (h : b.keys.Nodup) {k : Nat}
    (hentry : b.entries[k]? = some (key, value)) : b.place? key = some (k + 1) := by
  have hkey : b.keys[k]? = some key := by rw [keys, List.getElem?_map, hentry]; rfl
  obtain ⟨hk, hkey⟩ := List.getElem?_eq_some_iff.1 hkey
  have hfound : b.keys.findIdx? (· == key) = some k := by
    refine List.findIdx?_eq_some_iff_getElem.2 ⟨hk, beq_iff_eq.2 hkey, fun j hj heq => ?_⟩
    have hsame : b.keys[j] = b.keys[k] := (beq_iff_eq.1 heq).trans hkey.symm
    exact hj.ne ((List.Nodup.getElem_inj_iff h).1 hsame)
  rw [place?, hfound]
  rfl

theorem get?_of_getElem? (h : b.keys.Nodup) {k : Nat}
    (hentry : b.entries[k]? = some (key, value)) : b.get? key = some value :=
  lookup_of_mem h (List.mem_of_getElem? hentry)

/-- What is bound is found under its key, at its place and with its value, whatever is bound
later. -/
theorem found_bindAll (h : b.keys.Nodup) (key : String) (value : Value)
    (later : List (String × Value)) :
    ((b.bind key value).2.bindAll later).place? (b.freeKey key) = some (b.size + 1) ∧
      ((b.bind key value).2.bindAll later).get? (b.freeKey key) = some value := by
  have hnodup := nodup_keys_bindAll (nodup_keys_bind h key value) later
  have hentry : (b.bind key value).2.entries[b.size]? = some (b.freeKey key, value) := by
    rw [entries_bind, size, List.getElem?_concat_length]
  have hkept : ((b.bind key value).2.bindAll later).entries[b.size]? =
      some (b.freeKey key, value) := by
    obtain ⟨added, hadded⟩ := ((b.bind key value).2.extends_bindAll later).prefix_entries
    rw [← hadded, List.getElem?_append_left (List.getElem?_eq_some_iff.1 hentry).1, hentry]
  exact ⟨place?_of_getElem? hnodup hkept, get?_of_getElem? hnodup hkept⟩

theorem bindAll_take_succ (b : Bindings) {k : Nat} (h : asked[k]? = some (key, value)) :
    b.bindAll (asked.take (k + 1)) = ((b.bindAll (asked.take k)).bind key value).2 := by
  rw [List.take_add_one, h, bindAll_append]
  rfl

theorem bindAll_take_of_le (b : Bindings) (asked : List (String × Value)) {k count : Nat}
    (h : k ≤ count) :
    b.bindAll (asked.take count) =
      (b.bindAll (asked.take k)).bindAll ((asked.take count).drop k) := by
  have hfront : (asked.take count).take k = asked.take k := by
    rw [List.take_take, Nat.min_eq_left h]
  rw [← bindAll_append, ← hfront, List.take_append_drop]

end Bindings

/-! ### Uses -/

/-- One use of bindings: a value that a caller binds, or a predicate that is compiled. -/
inductive Use where
  | bind (key : String) (value : Value)
  | compile (p : Predicate)

namespace Use

def requests : Use → List (String × Value)
  | .bind key value => [(key, value)]
  | .compile p => p.test.requests p.column

/-- What a use gives back, the placeholders in it, and the bindings after it. -/
def perform (b : Bindings) : Use → Except Misuse (List String × Bindings)
  | .bind key value =>
    let (place, b) := b.bind key value
    .ok ([placeholder place], b)
  | .compile p => do
    let (condition, b) ← Sql.compile p b
    .ok (Sql.placeholdersIn condition.text.toList, b)

def performAll (b : Bindings) : List Use → Except Misuse (List String × Bindings)
  | [] => .ok ([], b)
  | use :: rest => do
    let (first, b) ← use.perform b
    let (others, b) ← performAll b rest
    .ok (first ++ others, b)

/-- Whether the predicate of a use, if it has one, is on a valid column. -/
def IsNamed : Use → Prop
  | .bind _ _ => True
  | .compile p => Name.fault? p.column = none

instance : ∀ use : Use, Decidable use.IsNamed
  | .bind _ _ => inferInstanceAs (Decidable True)
  | .compile p => inferInstanceAs (Decidable (Name.fault? p.column = none))

theorem perform_of_isNamed {use : Use} (h : use.IsNamed) (b : Bindings) :
    use.perform b = .ok ((List.range' (b.size + 1) use.requests.length).map placeholder,
      b.bindAll use.requests) := by
  cases use with
  | bind key value => rfl
  | compile p =>
      have hcompile := Sql.compile_of_fault? h b
      have hreadable := Sql.isReadable_condition h p.fold b p.test
      have hplaceholders := (Sql.Stands.condition _ hreadable).placeholders
      rw [Sql.places_condition, ← Test.length_requests p.column] at hplaceholders
      rw [perform, hcompile]
      simp only [requests, ← Sql.snd_condition p.column p.fold b p.test, ← hplaceholders]
      rfl

theorem performAll_of_isNamed {uses : List Use} (h : ∀ use ∈ uses, use.IsNamed) (b : Bindings) :
    performAll b uses =
      .ok ((List.range' (b.size + 1) (uses.flatMap requests).length).map placeholder,
        b.bindAll (uses.flatMap requests)) := by
  induction uses generalizing b with
  | nil => rfl
  | cons use rest ih =>
      obtain ⟨huse, hrest⟩ := List.forall_mem_cons.1 h
      have hfirst := perform_of_isNamed huse b
      have hothers := ih hrest (b.bindAll use.requests)
      have hsize : (b.bindAll use.requests).size + 1 = b.size + 1 + use.requests.length := by
        rw [Bindings.size_bindAll]
        omega
      rw [List.flatMap_cons, Bindings.bindAll_append, List.length_append, ← List.range'_append_1,
        List.map_append, ← hsize]
      calc performAll b (use :: rest)
          = (performAll (b.bindAll use.requests) rest).map fun (others, b') =>
              ((List.range' (b.size + 1) use.requests.length).map placeholder ++ others, b') := by
            rw [performAll, hfirst]
            rfl
        _ = _ := by rw [hothers]; rfl

end Use

/-- **Bindings lose nothing.** Callers bind values and compile predicates into one map, in any
order. The placeholders they get are those of the places one, two, three and so on. After any number
of bindings no key occurs twice, and the values are those that were asked for, in this order. Each
value has a key of its own, the one that was asked for if that was free, and from then on this key
leads to the place and the value of its binding. -/
theorem Use.performAll_keeps (uses : List Use) (hnamed : ∀ use ∈ uses, use.IsNamed) :
    let asked := uses.flatMap Use.requests
    let after (count : Nat) : Bindings := Bindings.empty.bindAll (asked.take count)
    Use.performAll .empty uses =
      .ok ((List.range' 1 asked.length).map placeholder, after asked.length) ∧
    (∀ count ≤ asked.length, (after count).keys.Nodup ∧ (after count).size = count ∧
      (after count).values = (asked.take count).map (·.2)) ∧
    ∀ k key value, asked[k]? = some (key, value) → ∃ stored,
      (after k).bind key value = (k + 1, after (k + 1)) ∧
      (key ∉ (after k).keys → stored = key) ∧
      ∀ count, k < count → (after count).place? stored = some (k + 1) ∧
        (after count).get? stored = some value := by
  intro asked after
  have hnodup : ∀ count, (after count).keys.Nodup := fun count =>
    Bindings.nodup_keys_bindAll (show Bindings.empty.keys.Nodup from List.nodup_nil) _
  have hsize : ∀ count ≤ asked.length, (after count).size = count := by
    intro count hcount
    rw [Bindings.size_bindAll, List.length_take, Nat.min_eq_left hcount]
    exact Nat.zero_add _
  refine ⟨?_, fun count hcount => ⟨hnodup count, hsize count hcount, ?_⟩, ?_⟩
  · have hall : after asked.length = Bindings.empty.bindAll asked :=
      congrArg Bindings.empty.bindAll List.take_length
    rw [hall]
    exact performAll_of_isNamed hnamed .empty
  · exact (Bindings.empty.extends_bindAll _).values_eq
  · intro k key value hasked
    obtain ⟨hk, -⟩ := List.getElem?_eq_some_iff.1 hasked
    have hnext : after (k + 1) = ((after k).bind key value).2 :=
      Bindings.bindAll_take_succ .empty hasked
    refine ⟨(after k).freeKey key, ?_, Bindings.freeKey_of_not_mem, fun count hcount => ?_⟩
    · rw [hnext, Bindings.bind, hsize k hk.le]
    · have hlater : after count = (after (k + 1)).bindAll ((asked.take count).drop (k + 1)) :=
        Bindings.bindAll_take_of_le .empty asked hcount
      have hfound := Bindings.found_bindAll (hnodup k) key value ((asked.take count).drop (k + 1))
      rw [hsize k hk.le] at hfound
      rw [hlater, hnext]
      exact hfound

def hostileUses : List Use := [
  .bind "rank__0" (.integer 0),
  .bind "rank__dup1" (.integer 1),
  .compile ⟨"rank", .oneOf [.integer 2, .integer 3], false⟩,
  .bind "rank" (.integer 4),
  .compile ⟨"rank", .between none (some (.integer 5)), false⟩,
  .bind "rank" (.integer 6),
  .bind "rank__max" (.integer 7)]

/-- The second `rank` finds its first stand-in taken by a caller's key. -/
theorem performAll_keeps_hostileUses :
    (∀ use ∈ hostileUses, use.IsNamed) ∧
    ∃ b, Use.performAll .empty hostileUses =
        .ok (["$1", "$2", "$3", "$4", "$5", "$6", "$7", "$8"], b) ∧
      b.keys = ["rank__0", "rank__dup1", "rank__0__dup1", "rank__1", "rank", "rank__max",
        "rank__dup2", "rank__max__dup1"] ∧ b.keys.Nodup ∧
      ∃ stored, b.place? stored = some 7 ∧ b.get? stored = some (.integer 6) := by
  have hnamed : ∀ use ∈ hostileUses, use.IsNamed := by decide +kernel
  obtain ⟨hperform, hkept, hfound⟩ := Use.performAll_keeps hostileUses hnamed
  obtain ⟨stored, -, -, hstored⟩ := hfound 6 "rank" (.integer 6) (by decide +kernel)
  have hreturned : (List.range' 1 (hostileUses.flatMap Use.requests).length).map placeholder =
      ["$1", "$2", "$3", "$4", "$5", "$6", "$7", "$8"] := by decide +kernel
  rw [hreturned] at hperform
  exact ⟨hnamed, _, hperform, by decide +kernel, (hkept _ (Nat.le_refl _)).1, stored,
    hstored _ (by decide +kernel)⟩

end RecordSearch
