/-!
# Distinct elements
-/

namespace RecordSearch

/-- The elements of a list without repetition, each where it is first seen. -/
def distinct {α : Type} [BEq α] : List α → List α
  | [] => []
  | x :: xs => x :: (distinct xs).filter (· != x)

section Distinct

variable {α : Type} [BEq α] [LawfulBEq α]

theorem eraseDups_filter (p : α → Bool) :
    ∀ xs : List α, (xs.filter p).eraseDups = xs.eraseDups.filter p
  | [] => rfl
  | x :: xs => by
      have hrest := eraseDups_filter p (xs.filter fun y => !y == x)
      rw [List.eraseDups_cons]
      by_cases hx : p x = true
      · rw [List.filter_cons_of_pos hx, List.filter_cons_of_pos hx, List.eraseDups_cons, ← hrest]
        simp only [List.filter_filter, Bool.and_comm]
      · rw [List.filter_cons_of_neg hx, List.filter_cons_of_neg hx, ← hrest, List.filter_filter]
        congr 1
        refine List.filter_congr fun y _ => ?_
        by_cases hyx : y = x <;> simp_all
termination_by xs => xs.length
decreasing_by
  exact Nat.lt_succ_of_le (List.length_filter_le _ _)

theorem distinct_eq_eraseDups (xs : List α) : distinct xs = xs.eraseDups := by
  induction xs with
  | nil => rfl
  | cons x xs ih =>
      rw [distinct, ih, List.eraseDups_cons, eraseDups_filter]
      rfl

theorem mem_distinct {x : α} {xs : List α} : x ∈ distinct xs ↔ x ∈ xs := by
  rw [distinct_eq_eraseDups, List.mem_eraseDups]

/-- An element stands before those that are first seen later. -/
theorem pairwise_idxOf_distinct (xs : List α) :
    (distinct xs).Pairwise fun x y => xs.idxOf x < xs.idxOf y := by
  induction xs with
  | nil => exact .nil
  | cons x xs ih =>
      have hshift {y : α} (hy : y ∈ (distinct xs).filter (· != x)) :
          (x :: xs).idxOf y = xs.idxOf y + 1 := by
        have hxy : x ≠ y := fun h => by simp [h] at hy
        rw [List.idxOf_cons, beq_eq_false_iff_ne.2 hxy]
        rfl
      refine List.pairwise_cons.2 ⟨fun y hy => ?_, ?_⟩
      · rw [hshift hy, List.idxOf_cons_self]
        exact Nat.succ_pos _
      · refine (ih.filter _).imp_of_mem fun hy hz hlt => ?_
        rw [hshift hy, hshift hz]
        exact Nat.succ_lt_succ hlt

theorem nodup_distinct (xs : List α) : (distinct xs).Nodup := by
  refine List.Pairwise.imp ?_ (pairwise_idxOf_distinct xs)
  rintro x _ hlt rfl
  exact Nat.lt_irrefl _ hlt

theorem distinct_of_nodup {xs : List α} (h : xs.Nodup) : distinct xs = xs := by
  induction xs with
  | nil => rfl
  | cons x xs ih =>
      obtain ⟨hx, hxs⟩ := List.nodup_cons.1 h
      rw [distinct, ih hxs, List.filter_eq_self.2]
      intro y hy
      have hyx : y ≠ x := fun heq => hx (heq ▸ hy)
      simp [hyx]

/-- A map that sends different elements to different images keeps the first places. -/
theorem distinct_filterMap {β : Type} [BEq β] [LawfulBEq β] {f : α → Option β}
    (hf : ∀ x y z, f x = some z → f y = some z → x = y) (xs : List α) :
    distinct (xs.filterMap f) = (distinct xs).filterMap f := by
  induction xs with
  | nil => rfl
  | cons x xs ih =>
      cases hx : f x with
      | none =>
          have hskip : ((distinct xs).filter (· != x)).filterMap f = (distinct xs).filterMap f := by
            rw [List.filterMap_filter]
            congr 1
            funext y
            by_cases hyx : y = x <;> simp [hyx, hx]
          rw [List.filterMap_cons_none hx, ih, distinct, List.filterMap_cons_none hx, hskip]
      | some z =>
          have hskip : ((distinct xs).filterMap f).filter (· != z) =
              ((distinct xs).filter (· != x)).filterMap f := by
            rw [List.filter_filterMap, List.filterMap_filter]
            congr 1
            funext y
            by_cases hyx : y = x
            · simp [hyx, hx]
            · have hyz : f y ≠ some z := fun hy => hyx (hf y x z hy hx)
              cases hy : f y with
              | none => simp
              | some w =>
                  have hwz : w ≠ z := fun h => hyz (by rw [hy, h])
                  simp [hyx, hwz]
          rw [List.filterMap_cons_some hx, distinct, ih, distinct, List.filterMap_cons_some hx,
            hskip]

end Distinct

end RecordSearch
