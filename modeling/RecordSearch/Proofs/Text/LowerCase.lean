import RecordSearch.Text.LowerCase

/-!
# Two ways to disregard case

Equality without case compares full lower case, patterns compare small letters one by one. The two
differ for a dotted capital I, which becomes two characters in lower case and loses its dot letter
by letter, and for a capital sigma at the end of a word. Where two texts have one lower case, one of
them starts and ends with the small letters of the other only if it has the same small letters.
-/

namespace RecordSearch

namespace Text

/-- The dot that lower case puts behind the small letter of a dotted capital I. -/
def combiningDot : Char := '\u0307'

section Chars

variable {before after cs ds : List Char} {c : Char}

theorem lowerAt_of_plain (hsigma : c ≠ 'Σ') (hdotted : c ≠ 'İ') :
    lowerAt before c after = [foldChar c] := by
  simp [lowerAt, hsigma, hdotted]

theorem length_lowerAt : (lowerAt before c after).length = if c = 'İ' then 2 else 1 := by
  by_cases hsigma : c = 'Σ'
  · subst hsigma
    simp [lowerAt, apply_ite List.length]
  · by_cases hdotted : c = 'İ'
    · simp [lowerAt, hdotted]
    · simp [lowerAt_of_plain hsigma hdotted, hdotted]

theorem foldChar_dotted : foldChar 'İ' = 'i' := by
  decide +kernel

theorem foldChar_sigma : foldChar 'Σ' = 'σ' := by
  decide +kernel

/-- But for combining dots, lower case has as many characters as there are letters. -/
theorem countP_lowerAt :
    (lowerAt before c after).countP (· != combiningDot) =
      [foldChar c].countP (· != combiningDot) := by
  by_cases hsigma : c = 'Σ'
  · subst hsigma
    rw [foldChar_sigma, lowerAt, if_pos rfl]
    split <;> rfl
  · by_cases hdotted : c = 'İ'
    · subst hdotted
      rw [foldChar_dotted, lowerAt, if_neg hsigma, if_pos rfl]
      rfl
    · rw [lowerAt_of_plain hsigma hdotted]

theorem length_lowerFrom : (lowerFrom before cs).length = cs.length + cs.count 'İ' := by
  induction cs generalizing before with
  | nil => rfl
  | cons c cs ih =>
      rw [lowerFrom, List.length_append, length_lowerAt, ih, List.length_cons, List.count_cons]
      by_cases hdotted : c = 'İ'
      · simp [hdotted]
        omega
      · simp [hdotted]
        omega

theorem countP_lowerFrom :
    (lowerFrom before cs).countP (· != combiningDot) =
      (cs.map foldChar).countP (· != combiningDot) := by
  induction cs generalizing before with
  | nil => rfl
  | cons c cs ih =>
      rw [lowerFrom, List.countP_append, countP_lowerAt, ih, ← List.countP_append]
      rfl

theorem lowerFrom_eq_map (h : ∀ c ∈ cs, c ≠ 'Σ' ∧ c ≠ 'İ') :
    lowerFrom before cs = cs.map foldChar := by
  induction cs generalizing before with
  | nil => rfl
  | cons c cs ih =>
      obtain ⟨hsigma, hdotted⟩ := h c List.mem_cons_self
      rw [lowerFrom, lowerAt_of_plain hsigma hdotted,
        ih fun d hd => h d (List.mem_cons_of_mem c hd)]
      rfl

/-- A word that goes on from the start of `front ++ word` repeats `front`. -/
theorem forall_eq_of_prefix_append {x : Char} {front word : List Char}
    (hfront : ∀ c ∈ front, c = x) (hne : front ≠ []) (h : word <+: front ++ word) :
    ∀ c ∈ word, c = x := by
  induction word generalizing front with
  | nil => simp
  | cons c word ih =>
      cases front with
      | nil => exact absurd rfl hne
      | cons y front =>
          obtain ⟨rfl, hrest⟩ := List.cons_prefix_cons.1 h
          have hc : c = x := hfront c List.mem_cons_self
          have hnext : word <+: (front ++ [c]) ++ word := by
            rw [List.append_assoc]
            exact hrest
          have hword := ih (fun d hd => hfront d (by simpa [or_comm] using hd)) (by simp) hnext
          exact List.forall_mem_cons.2 ⟨hc, hword⟩

/-- A text and a longer one with the same lower case differ by dotted letters, so what the longer
one has in front of the shorter one is combining dots. If it also starts like the shorter one, this
is all dots as well and has no dotted letter. -/
theorem map_foldChar_eq_of_prefix_of_suffix (hlower : lowerChars cs = lowerChars ds)
    (hstart : cs.map foldChar <+: ds.map foldChar)
    (hend : cs.map foldChar <:+ ds.map foldChar) : cs.map foldChar = ds.map foldChar := by
  obtain ⟨front, hfront⟩ := hend
  by_cases hnil : front = []
  · rw [← hfront, hnil, List.nil_append]
  · exfalso
    have hcount : front.countP (· != combiningDot) = 0 := by
      have hsame := congrArg (List.countP (· != combiningDot)) hlower
      rw [lowerChars, lowerChars, countP_lowerFrom, countP_lowerFrom, ← hfront,
        List.countP_append] at hsame
      omega
    have hdots : ∀ c ∈ front, c = combiningDot := by
      simpa [List.countP_eq_zero] using hcount
    rw [← hfront] at hstart
    have hall := forall_eq_of_prefix_append hdots hnil hstart
    have hdotless : cs.count 'İ' = 0 := by
      rw [List.count_eq_zero]
      intro hmem
      have hi := hall _ (List.mem_map_of_mem hmem)
      rw [foldChar_dotted] at hi
      exact absurd hi (by decide)
    have hlength := congrArg List.length hlower
    rw [lowerChars, lowerChars, length_lowerFrom, length_lowerFrom, hdotless] at hlength
    have hlonger := congrArg List.length hfront
    rw [List.length_append, List.length_map, List.length_map] at hlonger
    have hpositive : 0 < front.length := List.length_pos_iff.2 hnil
    omega

end Chars

theorem lowerCase_eq_iff {s t : String} :
    lowerCase s = lowerCase t ↔ lowerChars s.toList = lowerChars t.toList := by
  rw [lowerCase, lowerCase, String.ofList_inj]

end Text

end RecordSearch
