import Mathlib.Data.List.Forall2
import RecordSearch.Predicate.Matching

/-!
# What patterns match

A text fits a pattern if it can be cut into consecutive pieces, one for each token. The rows that
decide this hold, for every front of the pattern, whether it fits the text read so far, and so their
last entry tells whether the text fits the pattern. A pattern that is made from a text, with its
wildcards escaped, is fitted by the texts in which this text stands.
-/

namespace RecordSearch

namespace Text

def Token.Takes : Token → List Char → Prop
  | .literal c, piece => piece = [c]
  | .anyOne, piece => piece.length = 1
  | .anyRun, _ => True

def Covers (tokens : List Token) (text : List Char) : Prop :=
  ∃ pieces : List (List Char), pieces.flatten = text ∧ List.Forall₂ Token.Takes tokens pieces

@[simp]
theorem covers_nil_iff {text : List Char} : Covers [] text ↔ text = [] := by
  constructor
  · rintro ⟨pieces, rfl, hpieces⟩
    simp [List.forall₂_nil_left_iff.1 hpieces]
  · rintro rfl
    exact ⟨[], rfl, .nil⟩

theorem covers_append_iff {front back : List Token} {text : List Char} :
    Covers (front ++ back) text ↔
      ∃ before after, text = before ++ after ∧ Covers front before ∧ Covers back after := by
  constructor
  · rintro ⟨pieces, rfl, hpieces⟩
    have hfront := List.forall₂_take front.length hpieces
    have hback := List.forall₂_drop front.length hpieces
    rw [List.take_left] at hfront
    rw [List.drop_left] at hback
    refine ⟨_, _, ?_, ⟨_, rfl, hfront⟩, ⟨_, rfl, hback⟩⟩
    rw [← List.flatten_append, List.take_append_drop]
  · rintro ⟨_, _, rfl, ⟨fronts, rfl, hfront⟩, ⟨backs, rfl, hback⟩⟩
    exact ⟨fronts ++ backs, List.flatten_append, List.rel_append hfront hback⟩

@[simp]
theorem covers_singleton_iff {token : Token} {text : List Char} :
    Covers [token] text ↔ token.Takes text := by
  constructor
  · rintro ⟨pieces, rfl, hpieces⟩
    obtain ⟨piece, _, htakes, hrest, rfl⟩ := List.forall₂_cons_left_iff.1 hpieces
    rw [List.forall₂_nil_left_iff] at hrest
    simpa [hrest] using htakes
  · intro htakes
    exact ⟨[text], by simp, .cons htakes .nil⟩

theorem covers_concat_iff {front : List Token} {token : Token} {text : List Char} :
    Covers (front ++ [token]) text ↔
      ∃ before piece, text = before ++ piece ∧ Covers front before ∧ token.Takes piece := by
  simp only [covers_append_iff, covers_singleton_iff]

/-! ### Rows -/

section Rows

variable {front : List Token} {text : List Char} {c : Char}

theorem covers_concat_nil_iff {token : Token} :
    Covers (front ++ [token]) [] ↔ Covers front [] ∧ token = .anyRun := by
  rw [covers_concat_iff]
  constructor
  · rintro ⟨before, piece, hcut, hfront, htakes⟩
    obtain ⟨rfl, rfl⟩ := List.append_eq_nil_iff.1 hcut.symm
    refine ⟨hfront, ?_⟩
    cases token with
    | anyRun => rfl
    | literal c => simp [Token.Takes] at htakes
    | anyOne => simp [Token.Takes] at htakes
  · rintro ⟨hfront, rfl⟩
    exact ⟨[], [], rfl, hfront, trivial⟩

theorem covers_concat_of_single {token : Token} (htoken : ∀ piece, token.Takes piece →
    piece.length = 1) :
    Covers (front ++ [token]) (text ++ [c]) ↔ Covers front text ∧ token.Takes [c] := by
  rw [covers_concat_iff]
  constructor
  · rintro ⟨before, piece, hcut, hfront, htakes⟩
    obtain ⟨d, rfl⟩ := List.length_eq_one_iff.1 (htoken piece htakes)
    obtain ⟨rfl, hlast⟩ := List.append_inj' hcut rfl
    rw [hlast]
    exact ⟨hfront, htakes⟩
  · rintro ⟨hfront, htakes⟩
    exact ⟨text, [c], rfl, hfront, htakes⟩

theorem covers_concat_literal_iff {expected : Char} :
    Covers (front ++ [.literal expected]) (text ++ [c]) ↔ Covers front text ∧ expected = c := by
  have hsingle : ∀ piece, (Token.literal expected).Takes piece → piece.length = 1 := by
    rintro _ rfl
    rfl
  rw [covers_concat_of_single hsingle]
  simp [Token.Takes, eq_comm]

theorem covers_concat_anyOne_iff :
    Covers (front ++ [.anyOne]) (text ++ [c]) ↔ Covers front text := by
  have hsingle : ∀ piece, Token.anyOne.Takes piece → piece.length = 1 := fun _ htakes => htakes
  rw [covers_concat_of_single hsingle]
  simp [Token.Takes]

theorem covers_concat_anyRun_iff :
    Covers (front ++ [.anyRun]) (text ++ [c]) ↔
      Covers (front ++ [.anyRun]) text ∨ Covers front (text ++ [c]) := by
  constructor
  · intro h
    obtain ⟨before, piece, hcut, hfront, -⟩ := covers_concat_iff.1 h
    -- The last character is in the run, unless the run is empty.
    rcases List.eq_nil_or_concat' piece with rfl | ⟨run, d, rfl⟩
    · right
      rw [hcut, List.append_nil]
      exact hfront
    · left
      rw [← List.append_assoc] at hcut
      obtain ⟨rfl, -⟩ := List.append_inj' hcut rfl
      exact covers_concat_iff.2 ⟨before, run, rfl, hfront, trivial⟩
  · rintro (h | h)
    · obtain ⟨before, run, rfl, hfront, -⟩ := covers_concat_iff.1 h
      exact covers_concat_iff.2 ⟨before, run ++ [c], by simp, hfront, trivial⟩
    · exact covers_concat_iff.2 ⟨text ++ [c], [], by simp, h, trivial⟩

end Rows

open Classical in
/-- Which fronts of a pattern, from `front` on, fit a text. -/
noncomputable def rowOf (text : List Char) (front : List Token) : List Token → List Bool
  | [] => [decide (Covers front text)]
  | token :: rest => decide (Covers front text) :: rowOf text (front ++ [token]) rest

open Classical in
theorem headD_rowOf (text : List Char) (front rest : List Token) :
    (rowOf text front rest).headD false = decide (Covers front text) := by
  cases rest <;> rfl

open Classical in
theorem getLastD_rowOf (text : List Char) (front rest : List Token) :
    (rowOf text front rest).getLastD false = decide (Covers (front ++ rest) text) := by
  induction rest generalizing front with
  | nil => simp [rowOf]
  | cons token rest ih =>
      have hrest := ih (front ++ [token])
      rw [List.append_assoc, List.singleton_append] at hrest
      rw [rowOf, List.getLastD_cons, ← hrest]
      cases rest <;> rfl

open Classical in
theorem openingRow_eq_rowOf (front rest : List Token) :
    openingRow (decide (Covers front [])) rest = rowOf [] front rest := by
  induction rest generalizing front with
  | nil => rfl
  | cons token rest ih =>
      have hnext : (decide (Covers front []) && decide (token = .anyRun)) =
          decide (Covers (front ++ [token]) []) := by
        rw [← Bool.decide_and, decide_eq_decide]
        exact covers_concat_nil_iff.symm
      rw [openingRow, rowOf, hnext, ih]

open Classical in
/-- One more character turns the row of a text into the row of the longer text. -/
theorem nextRow_rowOf (text : List Char) (c : Char) (front rest : List Token) :
    nextRow c (decide (Covers front (text ++ [c]))) rest (rowOf text front rest) =
      rowOf (text ++ [c]) front rest := by
  induction rest generalizing front with
  | nil => rfl
  | cons token rest ih =>
      have hrest := ih (front ++ [token])
      cases token with
      | literal expected =>
          have hhere : (decide (Covers front text) && decide (expected = c)) =
              decide (Covers (front ++ [.literal expected]) (text ++ [c])) := by
            rw [← Bool.decide_and, decide_eq_decide, covers_concat_literal_iff]
          simp only [rowOf, nextRow, hhere, hrest]
      | anyOne =>
          have hhere : decide (Covers front text) =
              decide (Covers (front ++ [.anyOne]) (text ++ [c])) := by
            rw [decide_eq_decide, covers_concat_anyOne_iff]
          simp only [rowOf, nextRow, hhere, hrest]
      | anyRun =>
          have hhere : ((rowOf text (front ++ [.anyRun]) rest).headD false ||
              decide (Covers front (text ++ [c]))) =
              decide (Covers (front ++ [.anyRun]) (text ++ [c])) := by
            rw [headD_rowOf, ← Bool.decide_or, decide_eq_decide, covers_concat_anyRun_iff]
          simp only [rowOf, nextRow, hhere, hrest]

open Classical in
theorem finalRow_rowOf (tokens : List Token) (text rest : List Char) :
    finalRow tokens rest (rowOf text [] tokens) = rowOf (text ++ rest) [] tokens := by
  induction rest generalizing text with
  | nil => simp [finalRow]
  | cons c rest ih =>
      have hstart : decide (Covers [] (text ++ [c])) = false := by simp
      rw [finalRow, ← hstart, nextRow_rowOf, ih, List.append_assoc, List.singleton_append]

/-- **Fitting a pattern.** The rows find out whether the text can be cut into pieces. -/
theorem fits_iff_covers (tokens : List Token) (text : List Char) :
    fits tokens text = true ↔ Covers tokens text := by
  classical
  have hstart : decide (Covers [] []) = true := by simp
  rw [fits, ← hstart, openingRow_eq_rowOf, finalRow_rowOf, getLastD_rowOf]
  simp

/-! ### Escaped texts -/

theorem covers_literals_iff {part text : List Char} :
    Covers (part.map .literal) text ↔ text = part := by
  induction part generalizing text with
  | nil => simp
  | cons c part ih =>
      rw [List.map_cons, ← List.singleton_append, covers_append_iff]
      simp only [covers_singleton_iff, Token.Takes, ih]
      constructor
      · rintro ⟨_, _, rfl, rfl, rfl⟩
        rfl
      · rintro rfl
        exact ⟨[c], part, rfl, rfl, rfl⟩

theorem tokenize_of_plain {c : Char} (hc : ¬(c = '\\' ∨ c = '%' ∨ c = '_')) (rest : List Char) :
    tokenize (c :: rest) = .literal c :: tokenize rest := by
  rw [tokenize] <;> simp_all

theorem tokenize_escapeWildcards_append (part back : List Char) :
    tokenize (escapeWildcards part ++ back) = part.map .literal ++ tokenize back := by
  induction part with
  | nil => rfl
  | cons c part ih =>
      by_cases hc : c = '\\' ∨ c = '%' ∨ c = '_'
      · rw [escapeWildcards, if_pos hc]
        simp only [List.cons_append, tokenize, ih, List.map_cons]
      · rw [escapeWildcards, if_neg hc, List.cons_append, tokenize_of_plain hc, ih]
        rfl

theorem map_fold_literals (part : List Char) :
    (part.map Token.literal).map Token.fold = (part.map foldChar).map Token.literal := by
  simp [Token.fold, Function.comp_def]

/-- The characters of a text as patterns compare them. -/
def compared (fold : Bool) (text : String) : List Char :=
  if fold then text.toList.map foldChar else text.toList

end Text

open Text

namespace LikeMode

def Finds : LikeMode → List Char → List Char → Prop
  | .contains, part, whole => part <:+: whole
  | .startsWith, part, whole => part <+: whole
  | .endsWith, part, whole => part <:+ whole

def tokens (mode : LikeMode) (part : List Char) : List Token :=
  match mode with
  | .contains => [.anyRun] ++ part.map .literal ++ [.anyRun]
  | .startsWith => part.map .literal ++ [.anyRun]
  | .endsWith => [.anyRun] ++ part.map .literal

theorem tokenize_pattern (mode : LikeMode) (text : String) :
    tokenize (mode.pattern text).toList = mode.tokens text.toList := by
  have hescaped := tokenize_escapeWildcards_append text.toList
  cases mode with
  | contains => simp [pattern, tokens, tokenize, hescaped]
  | startsWith => simp [pattern, tokens, tokenize, hescaped]
  | endsWith =>
      have hend := hescaped []
      rw [List.append_nil] at hend
      simp [pattern, tokens, tokenize, hend]

theorem map_fold_tokens (mode : LikeMode) (part : List Char) :
    (mode.tokens part).map Token.fold = mode.tokens (part.map foldChar) := by
  cases mode <;> simp only [tokens, List.map_append, map_fold_literals] <;> rfl

theorem covers_tokens_iff (mode : LikeMode) {part whole : List Char} :
    Covers (mode.tokens part) whole ↔ mode.Finds part whole := by
  cases mode with
  | contains =>
      simp only [tokens, Finds, covers_append_iff, covers_singleton_iff, covers_literals_iff,
        Token.Takes, true_and, and_true]
      constructor
      · rintro ⟨_, after, rfl, before, _, rfl, rfl⟩
        exact ⟨before, after, rfl⟩
      · rintro ⟨before, after, rfl⟩
        exact ⟨_, after, rfl, before, part, rfl, rfl⟩
  | startsWith =>
      simp only [tokens, Finds, covers_append_iff, covers_singleton_iff, covers_literals_iff,
        Token.Takes, and_true]
      constructor
      · rintro ⟨_, after, rfl, rfl⟩
        exact ⟨after, rfl⟩
      · rintro ⟨after, rfl⟩
        exact ⟨part, after, rfl, rfl⟩
  | endsWith =>
      simp only [tokens, Finds, covers_append_iff, covers_singleton_iff, covers_literals_iff,
        Token.Takes, true_and]
      constructor
      · rintro ⟨before, _, rfl, rfl⟩
        exact ⟨before, rfl⟩
      · rintro ⟨before, rfl⟩
        exact ⟨before, part, rfl, rfl⟩

/-- A text fits the pattern of another exactly if this other text stands in it, wherever the mode
wants it. -/
theorem likeMatches_pattern_iff (mode : LikeMode) (actual text : String) (fold : Bool) :
    likeMatches actual (mode.pattern text) fold = true ↔
      mode.Finds (compared fold text) (compared fold actual) := by
  cases fold with
  | false =>
      simp only [likeMatches, compared, Bool.false_eq_true, if_false]
      rw [fits_iff_covers, tokenize_pattern, covers_tokens_iff]
  | true =>
      simp only [likeMatches, compared, if_true]
      rw [fits_iff_covers, tokenize_pattern, map_fold_tokens, covers_tokens_iff]

end LikeMode

namespace Predicate

/-- **Texts are matched literally.** A row satisfies a pattern exactly if its column holds a text in
which the text of the pattern stands, with whatever wildcards and backslashes either has. -/
theorem isMatch_like_iff (column text : String) (mode : LikeMode) (fold : Bool) (row : Json) :
    isMatch ⟨column, .like text mode, fold⟩ row = true ↔
      ∃ actual, row.get? column = some (.string actual) ∧
        mode.Finds (compared fold text) (compared fold actual) := by
  have hmatch : isMatch ⟨column, .like text mode, fold⟩ row = true ↔
      ∃ actual, row.field? column = some (.string actual) ∧
        likeMatches actual (mode.pattern text) fold = true := by
    unfold isMatch
    cases row.field? column with
    | none => simp
    | some field => cases field <;> simp [Test.passes, Json.asText?]
  have hfield : ∀ actual, row.field? column = some (.string actual) ↔
      row.get? column = some (.string actual) := by
    intro actual
    rw [Json.field?, Option.filter_eq_some_iff]
    simp [Json.isNull]
  simp only [hmatch, hfield, LikeMode.likeMatches_pattern_iff]

/-- A text that is all wildcards and ends with a backslash. -/
example : isMatch ⟨"rate", .like "%_\\" .startsWith, true⟩
    (.ofMembers [("rate", .string "%_\\ of all")]) = true := by
  decide +kernel

end Predicate

end RecordSearch
