import RecordSearch.Proofs.Store.Sorting

/-!
# A column of mixed values has one order

The order of members is total and transitive whatever types a column mixes, with equality only in
steps that are all equal. Hence rows have one order by a column: two ways to sort them that keep
ties as they were give the same list.
-/

namespace RecordSearch

namespace Json

/-- What a row may hold under a column: nothing, or a value whose number is finite. -/
def FiniteIfPresent (a : Option Json) : Prop :=
  ∀ value ∈ a, value.isFinite = true

section Order

variable {a b c : Option Json}

theorem compareFields_self (ha : FiniteIfPresent a) : compareFields a a = .eq := by
  rw [compareFields_eq ha ha]
  exact Std.ReflCmp.compare_self

theorem compareFields_swap (ha : FiniteIfPresent a) (hb : FiniteIfPresent b) :
    compareFields b a = (compareFields a b).swap := by
  rw [compareFields_eq ha hb, compareFields_eq hb ha]
  exact Std.OrientedCmp.eq_swap

theorem compareFields_trans (ha : FiniteIfPresent a) (hb : FiniteIfPresent b)
    (hc : FiniteIfPresent c) (hab : compareFields a b ≠ .gt) (hbc : compareFields b c ≠ .gt) :
    compareFields a c ≠ .gt := by
  rw [compareFields_eq ha hb] at hab
  rw [compareFields_eq hb hc] at hbc
  rw [compareFields_eq ha hc]
  apply Ordering.ne_gt_iff_isLE.2
  exact Std.TransCmp.isLE_trans (Ordering.ne_gt_iff_isLE.1 hab) (Ordering.ne_gt_iff_isLE.1 hbc)

theorem compareFields_antisymm (ha : FiniteIfPresent a) (hb : FiniteIfPresent b)
    (hab : compareFields a b ≠ .gt) (hba : compareFields b a ≠ .gt) : compareFields a b = .eq := by
  rw [compareFields_swap ha hb] at hba
  cases h : compareFields a b with
  | lt => exact absurd (by rw [h]; rfl) hba
  | eq => rfl
  | gt => exact absurd h hab

/-- The last of three members in order is equal to the first only if nothing between them rises. -/
theorem compareFields_eq_of_trans (ha : FiniteIfPresent a) (hb : FiniteIfPresent b)
    (hc : FiniteIfPresent c) (hab : compareFields a b ≠ .gt) (hbc : compareFields b c ≠ .gt)
    (hac : compareFields a c = .eq) : compareFields a b = .eq ∧ compareFields b c = .eq := by
  have hca : compareFields c a ≠ .gt := by
    rw [compareFields_swap ha hc, hac]
    decide
  constructor
  · exact compareFields_antisymm ha hb hab (compareFields_trans hb hc ha hbc hca)
  · exact compareFields_antisymm hb hc hbc (compareFields_trans hc ha hb hca hab)

end Order

end Json

namespace Store

open Json

variable {column : String} {rows ranked ranked' : List Json}

/-- Of two lists of the same rows in order the first rows are tied, and as ties stand in the same
order in both lists, they are the same row. -/
theorem eq_of_perm_of_ties (hrows : IsFinite column ranked) (hperm : ranked.Perm ranked')
    (hordered : ranked.Pairwise fun a b => compareRows column a b ≠ .gt)
    (hordered' : ranked'.Pairwise fun a b => compareRows column a b ≠ .gt)
    (hties : ∀ row ∈ ranked,
      ranked.filter (isTied column row) = ranked'.filter (isTied column row)) :
    ranked = ranked' := by
  induction ranked generalizing ranked' with
  | nil => exact (List.nil_perm.1 hperm).symm
  | cons a rest ih =>
      cases ranked' with
      | nil => exact absurd (List.perm_nil.1 hperm) (List.cons_ne_nil a rest)
      | cons b rest' =>
          have ha : a ∈ a :: rest := List.mem_cons_self
          have hb : b ∈ a :: rest := hperm.mem_iff.2 List.mem_cons_self
          have hself : isTied column a a = true := by
            rw [isTied, beq_iff_eq]
            exact compareFields_self (hrows a ha)
          have htied : isTied column a b = true := by
            rw [isTied, beq_iff_eq]
            rcases List.mem_cons.1 hb with rfl | hb'
            · exact compareFields_self (hrows b hb)
            · rcases List.mem_cons.1 (hperm.mem_iff.1 ha) with rfl | ha'
              · exact compareFields_self (hrows a ha)
              · exact compareFields_antisymm (hrows a ha) (hrows b hb)
                  (List.rel_of_pairwise_cons hordered hb')
                  (List.rel_of_pairwise_cons hordered' ha')
          have hfirst := hties a ha
          rw [List.filter_cons_of_pos hself, List.filter_cons_of_pos htied] at hfirst
          obtain ⟨rfl, -⟩ := List.cons.inj hfirst
          have hrest : rest = rest' := by
            apply ih (fun row hrow => hrows row (List.mem_cons_of_mem a hrow)) hperm.cons_inv
              hordered.of_cons hordered'.of_cons
            intro row hrow
            have hrow := hties row (List.mem_cons_of_mem a hrow)
            by_cases h : isTied column row a = true
            · rw [List.filter_cons_of_pos h, List.filter_cons_of_pos h] at hrow
              exact (List.cons.inj hrow).2
            · rwa [List.filter_cons_of_neg h, List.filter_cons_of_neg h] at hrow
          rw [hrest]

theorem IsAscending.eq (hrows : IsFinite column rows) (h : IsAscending column rows ranked)
    (h' : IsAscending column rows ranked') : ranked = ranked' := by
  have hmem {row : Json} (hrow : row ∈ ranked) : row ∈ rows := h.perm.mem_iff.1 hrow
  apply eq_of_perm_of_ties (fun row hrow => hrows row (hmem hrow)) (h.perm.trans h'.perm.symm)
    h.ordered h'.ordered
  intro row hrow
  rw [h.ties row (hmem hrow), h'.ties row (hmem hrow)]

/-- **The order of members is total, and sorting by it has one result.** Whatever types the members
have, each is equal to itself, the order of two is turned around with them, and members in order
stay so across steps, being equal at the ends only if they are equal in each step. So the rows of a
table stand in order, ties as they were, in one list only, which is the list that sorting finds. -/
theorem compareFields_total :
    (∀ a b c : Option Json, FiniteIfPresent a → FiniteIfPresent b → FiniteIfPresent c →
      compareFields a a = .eq ∧
      compareFields b a = (compareFields a b).swap ∧
      (compareFields a b ≠ .gt → compareFields b c ≠ .gt →
        compareFields a c ≠ .gt ∧
        (compareFields a c = .eq → compareFields a b = .eq ∧ compareFields b c = .eq))) ∧
    ∀ (column : String) (rows ranked : List Json), IsFinite column rows →
      (IsAscending column rows ranked ↔ ranked = sorted column .ascending rows) := by
  constructor
  · intro a b c ha hb hc
    refine ⟨compareFields_self ha, compareFields_swap ha hb, fun hab hbc => ⟨?_, fun hac => ?_⟩⟩
    · exact compareFields_trans ha hb hc hab hbc
    · exact compareFields_eq_of_trans ha hb hc hab hbc hac
  · intro column rows ranked hrows
    constructor
    · exact fun h => h.eq hrows (isAscending_sorted hrows)
    · rintro rfl
      exact isAscending_sorted hrows

/-- A text that looks like a number, a number and a list. -/
def mixedRows : List Json :=
  [.object [("mark", .array [.bool true])], .object [("mark", .integer 10)],
    .object [("mark", .string "9")]]

theorem compareFields_total_mixedRows :
    compareFields (some (.string "9")) (some (.integer 10)) = .lt ∧
    compareFields (some (.integer 10)) (some (.array [.bool true])) = .lt ∧
    compareFields (some (.string "9")) (some (.array [.bool true])) ≠ .gt ∧
    IsAscending "mark" mixedRows mixedRows.reverse := by
  have hfinite : IsFinite "mark" mixedRows := by
    simp only [IsFinite, mixedRows]
    decide +kernel
  have htext : compareFields (some (.string "9")) (some (.integer 10)) = .lt := by decide +kernel
  have hnumber : compareFields (some (.integer 10)) (some (.array [.bool true])) = .lt := by
    decide +kernel
  obtain ⟨hlaws, hsorted⟩ := compareFields_total
  obtain ⟨-, -, htrans⟩ := hlaws (some (.string "9")) (some (.integer 10))
    (some (.array [.bool true])) (by simp [FiniteIfPresent, isFinite])
    (by simp [FiniteIfPresent, isFinite]) (by simp [FiniteIfPresent, isFinite])
  have hle := (htrans (by simp [htext]) (by simp [hnumber])).1
  refine ⟨htext, hnumber, hle, (hsorted "mark" mixedRows _ hfinite).2 ?_⟩
  have hfirst : compareFields (get? "mark" (.object [("mark", .array [.bool true])]))
      (get? "mark" (.object [("mark", .integer 10)])) = .gt := by decide +kernel
  have hlast : compareFields (get? "mark" (.object [("mark", .integer 10)]))
      (get? "mark" (.object [("mark", .string "9")])) = .gt := by decide +kernel
  simp [sorted, mixedRows, List.mergeSort, List.MergeSort.Internal.splitInTwo, hfirst, hlast]

end Store

end RecordSearch
