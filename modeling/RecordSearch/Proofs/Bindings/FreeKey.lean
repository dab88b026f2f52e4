import Mathlib.Data.List.Nodup
import Mathlib.Data.List.Perm.Subperm
import Mathlib.Order.Bounds.Basic
import RecordSearch.Bindings

/-!
# Free keys

The key under which a value is bound is not taken. For a key that is taken there are as many
stand-ins as there are bindings, all different and none of them the key, so one of them is free.
Trying one number after the other therefore ends of itself.
-/

namespace RecordSearch.Bindings

variable {b other : Bindings} {key : String}

theorem contains_eq_true_iff : b.contains key = true ↔ key ∈ b.keys :=
  List.contains_iff_mem

theorem numbered_injective (key : String) : Function.Injective (numbered key) := by
  intro m n h
  have hdigits : (Number.decimal m).toList = (Number.decimal n).toList := by
    have htext := congrArg String.toList h
    simpa [numbered, String.toList_append] using htext
  rw [Number.decimal, Number.decimal, String.toList_ofList, String.toList_ofList] at hdigits
  rw [← Number.ofDigits_digits m, hdigits, Number.ofDigits_digits]

theorem numbered_ne (key : String) (n : Nat) : numbered key n ≠ key := by
  intro h
  have hlength := congrArg (fun text => text.toList.length) h
  simp [numbered, String.toList_append] at hlength

theorem length_keys (b : Bindings) : b.keys.length = b.size :=
  List.length_map _

theorem exists_numbered_not_mem (h : key ∈ b.keys) :
    ∃ n ∈ (List.range b.size).map (· + 1), numbered key n ∉ b.keys := by
  by_contra hall
  simp only [not_exists, not_and, not_not] at hall
  -- The key and its stand-ins would be more keys than there are.
  have hnodup : (key :: ((List.range b.size).map (· + 1)).map (numbered key)).Nodup := by
    refine List.nodup_cons.2 ⟨fun hmem => ?_, ?_⟩
    · obtain ⟨n, -, hn⟩ := List.mem_map.1 hmem
      exact numbered_ne key n hn
    · refine List.Nodup.map (numbered_injective key) (List.Nodup.map ?_ List.nodup_range)
      exact fun m n => Nat.succ.inj
  have hsubset : key :: ((List.range b.size).map (· + 1)).map (numbered key) ⊆ b.keys := by
    refine List.cons_subset.2 ⟨h, fun other hother => ?_⟩
    obtain ⟨n, hn, rfl⟩ := List.mem_map.1 hother
    exact hall n hn
  have hlength := (hnodup.subperm hsubset).length_le
  rw [List.length_cons, List.length_map, List.length_map, List.length_range,
    length_keys] at hlength
  exact Nat.not_succ_le_self _ hlength

theorem freeKey_of_not_mem (h : key ∉ b.keys) : b.freeKey key = key := by
  rw [freeKey, if_neg (contains_eq_true_iff.not.2 h)]

theorem not_contains_iff : (!b.contains key) = true ↔ key ∉ b.keys := by
  rw [Bool.not_eq_true', ← Bool.not_eq_true, contains_eq_true_iff]

/-- The numbers of the stand-ins that are free. -/
def freeNumbers (b : Bindings) (key : String) : Set Nat :=
  {n | 1 ≤ n ∧ numbered key n ∉ b.keys}

/-- The stand-in of a key that is taken is the one with the least number that is free. -/
theorem exists_isLeast_freeNumbers (h : key ∈ b.keys) :
    ∃ n, IsLeast (b.freeNumbers key) n ∧ n ≤ b.size ∧ b.freeKey key = numbered key n := by
  obtain ⟨k, hk, hfree⟩ := exists_numbered_not_mem h
  have htries : (List.range b.size).map (· + 1) = List.range' 1 b.size := by
    rw [List.range'_eq_map_range]
    exact List.map_congr_left fun n _ => Nat.add_comm n 1
  rw [htries] at hk
  cases hfound : (List.range' 1 b.size).find? fun n => !b.contains (numbered key n) with
  | none => exact absurd (not_contains_iff.2 hfree) (List.find?_eq_none.1 hfound k hk)
  | some n =>
      obtain ⟨hn, hmem, hpassed⟩ := List.find?_range'_eq_some.1 hfound
      obtain ⟨hone, hsize⟩ := List.mem_range'_1.1 hmem
      refine ⟨n, ⟨⟨hone, not_contains_iff.1 hn⟩, fun m hm => ?_⟩, by omega, ?_⟩
      · by_contra hlt
        have htaken := hpassed m hm.1 (by omega)
        rw [Bool.not_not] at htaken
        exact hm.2 (contains_eq_true_iff.1 htaken)
      · rw [freeKey, if_pos (contains_eq_true_iff.2 h)]
        simp only [htries, hfound, Option.getD_some]

theorem freeKey_not_mem (b : Bindings) (key : String) : b.freeKey key ∉ b.keys := by
  by_cases h : key ∈ b.keys
  · obtain ⟨n, hn, -, hkey⟩ := exists_isLeast_freeNumbers h
    rw [hkey]
    exact hn.1.2
  · rw [freeKey_of_not_mem h]
    exact h

/-! ### Searching without a bound -/

/-- The search for a free stand-in, which tries one number after the other and which nothing else
stops. From a first number on it ends at a last one, after some tries. -/
inductive SearchEnds (b : Bindings) (key : String) : Nat → Nat → Nat → Prop
  | free {n : Nat} (h : numbered key n ∉ b.keys) : SearchEnds b key n n 1
  | taken {n last tries : Nat} (h : numbered key n ∈ b.keys)
      (later : SearchEnds b key (n + 1) last tries) : SearchEnds b key n last (tries + 1)

theorem SearchEnds.unique {first last tries last' tries' : Nat}
    (h : b.SearchEnds key first last tries) (h' : b.SearchEnds key first last' tries') :
    last = last' ∧ tries = tries' := by
  induction h generalizing tries' with
  | free hfree =>
      cases h' with
      | free => exact ⟨rfl, rfl⟩
      | taken htaken => exact absurd htaken hfree
  | taken htaken _ ih =>
      cases h' with
      | free hfree => exact absurd htaken hfree
      | taken _ later =>
          obtain ⟨hlast, htries⟩ := ih later
          exact ⟨hlast, congrArg (· + 1) htries⟩

theorem mem_keys_of_lt {n m : Nat} (h : IsLeast (b.freeNumbers key) n) (hm : 1 ≤ m) (hlt : m < n) :
    numbered key m ∈ b.keys := by
  by_contra hfree
  exact hlt.not_ge (h.2 ⟨hm, hfree⟩)

/-- The search passes over what is taken, up to the first number that is free. -/
theorem searchEnds_of_isLeast {n : Nat} (h : IsLeast (b.freeNumbers key) n) :
    b.SearchEnds key 1 n n := by
  have hpassed : ∀ gap first, 1 ≤ first → first + gap = n →
      b.SearchEnds key first n (gap + 1) := by
    intro gap
    induction gap with
    | zero =>
        rintro first - rfl
        exact .free h.1.2
    | succ gap ih =>
        intro first hfirst hn
        exact .taken (mem_keys_of_lt h hfirst (by omega)) (ih (first + 1) (by omega) (by omega))
  obtain ⟨gap, rfl⟩ := Nat.exists_eq_add_of_le' h.1.1
  exact hpassed gap 1 (Nat.le_refl 1) (Nat.add_comm 1 gap)

/-- The stand-ins that are free depend on which keys there are and not on their order. -/
theorem freeNumbers_congr (h : ∀ k, k ∈ other.keys ↔ k ∈ b.keys) :
    other.freeNumbers key = b.freeNumbers key := by
  ext n
  exact and_congr_right fun _ => (h (numbered key n)).not

/-- **The search for a free key ends.** For a key that is taken, trying its stand-ins from number
one on ends at the least number that is free, after as many tries, which are no more than there are
bindings, and under this stand-in the value is bound. Bindings with the same keys in another order
end the search at the same number. -/
theorem searchEnds_isLeast (b : Bindings) (key : String) (h : key ∈ b.keys) :
    ∃ n, b.SearchEnds key 1 n n ∧ n ≤ b.size ∧ IsLeast (b.freeNumbers key) n ∧
      (∀ last tries, b.SearchEnds key 1 last tries → last = n) ∧
      (∀ value, b.bind key value = (b.size + 1, ⟨b.entries ++ [(numbered key n, value)]⟩)) ∧
      ∀ other : Bindings, (∀ k, k ∈ other.keys ↔ k ∈ b.keys) →
        other.SearchEnds key 1 n n ∧ other.freeKey key = b.freeKey key := by
  obtain ⟨n, hn, hsize, hkey⟩ := exists_isLeast_freeNumbers h
  have hends := searchEnds_of_isLeast hn
  refine ⟨n, hends, hsize, hn, fun last tries hlast => (hlast.unique hends).1, fun value => ?_,
    fun other hother => ?_⟩
  · rw [bind, hkey]
  · obtain ⟨m, hm, -, hother'⟩ := exists_isLeast_freeNumbers ((hother key).2 h)
    have hsame : m = n := by
      rw [freeNumbers_congr hother] at hm
      exact hm.unique hn
    subst hsame
    exact ⟨searchEnds_of_isLeast hm, hother'.trans hkey.symm⟩

/-- The keys of callers may look like stand-ins. -/
def crowdedBindings : Bindings :=
  ⟨[("rank__dup2", .integer 0), ("rank", .integer 1), ("rank__dup1", .integer 2)]⟩

/-- The search needs as many tries as there are bindings. -/
theorem searchEnds_isLeast_crowdedBindings :
    "rank" ∈ crowdedBindings.keys ∧ crowdedBindings.SearchEnds "rank" 1 3 3 ∧
    (crowdedBindings.bind "rank" (.integer 3)).2.keys =
      ["rank__dup2", "rank", "rank__dup1", "rank__dup3"] := by
  have hkey : "rank" ∈ crowdedBindings.keys := by decide
  obtain ⟨n, hends, hsize, hleast, -, hbind, -⟩ := searchEnds_isLeast crowdedBindings "rank" hkey
  have hthree : n = 3 := by
    have hone : n ≠ 1 := fun h => (h ▸ hleast.1.2) (by decide +kernel)
    have htwo : n ≠ 2 := fun h => (h ▸ hleast.1.2) (by decide +kernel)
    have hpositive := hleast.1.1
    have hbound : n ≤ 3 := hsize
    omega
  subst hthree
  exact ⟨hkey, hends, by rw [hbind]; decide +kernel⟩

end RecordSearch.Bindings
