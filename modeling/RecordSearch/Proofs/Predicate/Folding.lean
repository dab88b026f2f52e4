import RecordSearch.Proofs.Predicate.Fields
import RecordSearch.Proofs.Text.LowerCase
import RecordSearch.Proofs.Text.Wildcard

/-!
# Equality and patterns without case

A column that equals a text without case has the same lower case as the text. It matches the
patterns of the text as well exactly if the two are the same letter by letter, which a capital I
with a dot or a capital sigma at the end of a word can prevent.
-/

namespace RecordSearch

open Text

namespace Predicate

variable {column text actual : String} {row : Json}

theorem isMatch_exact_fold_iff :
    isMatch ⟨column, .exact (.text text), true⟩ row = true ↔
      ∃ actual, row.get? column = some (.string actual) ∧ lowerCase actual = lowerCase text := by
  have hpasses (field : Json) : Test.passes (.exact (.text text)) true field = true ↔
      ∃ actual, field = .string actual ∧ lowerCase actual = lowerCase text := by
    cases field <;> simp [Test.passes, equals, compareField, Value.isText, Json.asText?]
  rw [isMatch_iff (by simp)]
  simp only [Json.field?_eq_some_iff, hpasses]
  constructor
  · rintro ⟨_, ⟨hget, -⟩, actual, rfl, hlower⟩
    exact ⟨actual, hget, hlower⟩
  · rintro ⟨actual, hget, hlower⟩
    exact ⟨_, ⟨hget, rfl⟩, actual, rfl, hlower⟩

theorem isMatch_like_fold_iff (hget : row.get? column = some (.string actual)) (mode : LikeMode) :
    isMatch ⟨column, .like text mode, true⟩ row = true ↔
      mode.Finds (text.toList.map foldChar) (actual.toList.map foldChar) := by
  rw [isMatch_of_field? (Json.field?_eq_some_iff.2 ⟨hget, rfl⟩)]
  exact mode.likeMatches_pattern_iff actual text true

/-- **Equality without case gives the patterns exactly if each letter folds alike.** If a column
equals a text without case, it holds a text with the same lower case. It then contains the text,
starts with it and ends with it, all without case, if and only if the small letters of the two are
the same one by one. They are for texts without a capital sigma and without a dotted capital I. -/
theorem isMatch_like_of_isMatch_exact
    (h : isMatch ⟨column, .exact (.text text), true⟩ row = true) :
    ∃ actual, row.get? column = some (.string actual) ∧ lowerCase actual = lowerCase text ∧
      ((∀ mode, isMatch ⟨column, .like text mode, true⟩ row = true) ↔
        text.toList.map foldChar = actual.toList.map foldChar) ∧
      ((∀ c ∈ text.toList ++ actual.toList, c ≠ 'Σ' ∧ c ≠ 'İ') →
        ∀ mode, isMatch ⟨column, .like text mode, true⟩ row = true) := by
  obtain ⟨actual, hget, hlower⟩ := isMatch_exact_fold_iff.1 h
  have hchars : lowerChars text.toList = lowerChars actual.toList :=
    lowerCase_eq_iff.1 hlower.symm
  have hpatterns : (∀ mode, isMatch ⟨column, .like text mode, true⟩ row = true) ↔
      text.toList.map foldChar = actual.toList.map foldChar := by
    simp only [isMatch_like_fold_iff hget]
    constructor
    · intro hfinds
      exact map_foldChar_eq_of_prefix_of_suffix hchars (hfinds .startsWith) (hfinds .endsWith)
    · intro hfold mode
      rw [hfold]
      cases mode with
      | contains => exact List.infix_rfl
      | startsWith => exact List.prefix_rfl
      | endsWith => exact List.suffix_rfl
  refine ⟨actual, hget, hlower, hpatterns, fun hplain => hpatterns.2 ?_⟩
  rw [List.forall_mem_append] at hplain
  rwa [lowerChars, lowerChars, lowerFrom_eq_map hplain.1, lowerFrom_eq_map hplain.2] at hchars

def streetRow (street : String) : Json := .object [("street", .string street)]

/-- A capital sigma inside a word does no harm. -/
theorem isMatch_like_of_isMatch_exact_streetRow :
    isMatch ⟨"street", .exact (.text "σπίτι"), true⟩ (streetRow "ΣΠΊΤΙ") = true ∧
    ∀ mode, isMatch ⟨"street", .like "σπίτι" mode, true⟩ (streetRow "ΣΠΊΤΙ") = true := by
  have hexact : isMatch ⟨"street", .exact (.text "σπίτι"), true⟩ (streetRow "ΣΠΊΤΙ") = true := by
    decide +kernel
  obtain ⟨actual, hget, -, hpatterns, -⟩ := isMatch_like_of_isMatch_exact hexact
  obtain rfl : "ΣΠΊΤΙ" = actual := Json.string.inj (Option.some.inj hget)
  exact ⟨hexact, hpatterns.2 (by decide +kernel)⟩

/-- The final sigma of a word is equal to the capital one in full lower case, but letter by letter
the capital one becomes the sigma that stands inside words. -/
theorem isMatch_like_finalSigma :
    isMatch ⟨"street", .exact (.text "οδος"), true⟩ (streetRow "ΟΔΟΣ") = true ∧
    ∀ mode, isMatch ⟨"street", .like "οδος" mode, true⟩ (streetRow "ΟΔΟΣ") = false := by
  refine ⟨by decide +kernel, fun mode => ?_⟩
  cases mode with
  | contains => decide +kernel
  | startsWith => decide +kernel
  | endsWith => decide +kernel

/-- The dot of a dotted capital I is a character of its own in full lower case only. -/
example : isMatch ⟨"street", .exact (.text "i\u0307"), true⟩ (streetRow "İ") = true ∧
    isMatch ⟨"street", .like "i\u0307" .contains, true⟩ (streetRow "İ") = false := by
  decide +kernel

end Predicate

end RecordSearch
