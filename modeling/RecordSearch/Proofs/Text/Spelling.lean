import RecordSearch.Proofs.Text.Wildcard

/-!
# Patterns as they are written

A pattern spells its tokens in one way only: a percent sign and an underscore are the wildcards, a
backslash goes with the character after it, and everything else stands for itself, a backslash at
the end included. A text matches a pattern if it can be cut into pieces that the tokens admit one by
one, whether case counts or not.
-/

namespace RecordSearch.Text

/-- How the characters of a pattern spell its tokens. -/
inductive Spells : List Char → List Token → Prop
  | nil : Spells [] []
  | anyRun {pattern : List Char} {tokens : List Token} (rest : Spells pattern tokens) :
      Spells ('%' :: pattern) (.anyRun :: tokens)
  | anyOne {pattern : List Char} {tokens : List Token} (rest : Spells pattern tokens) :
      Spells ('_' :: pattern) (.anyOne :: tokens)
  | escaped {pattern : List Char} {tokens : List Token} (c : Char) (rest : Spells pattern tokens) :
      Spells ('\\' :: c :: pattern) (.literal c :: tokens)
  | loneBackslash : Spells ['\\'] [.literal '\\']
  | plain {pattern : List Char} {tokens : List Token} {c : Char}
      (hc : ¬(c = '\\' ∨ c = '%' ∨ c = '_')) (rest : Spells pattern tokens) :
      Spells (c :: pattern) (.literal c :: tokens)

theorem spells_tokenize (pattern : List Char) : Spells pattern (tokenize pattern) := by
  fun_induction tokenize pattern with
  | case1 => exact .nil
  | case2 => exact .loneBackslash
  | case3 c rest ih => exact .escaped c ih
  | case4 rest ih => exact .anyRun ih
  | case5 rest ih => exact .anyOne ih
  | case6 c rest hlone hescaped hrun hone ih =>
      -- One of the three signs would have been read by a case before.
      refine .plain ?_ ih
      rintro (rfl | rfl | rfl)
      · cases rest with
        | nil => exact hlone rfl rfl
        | cons d rest => exact hescaped d rest rfl rfl
      · exact hrun rfl
      · exact hone rfl

/-- A pattern has one spelling, the one that is read. -/
theorem spells_iff {pattern : List Char} {tokens : List Token} :
    Spells pattern tokens ↔ tokens = tokenize pattern := by
  constructor
  · intro h
    induction h with
    | nil => rfl
    | anyRun rest ih => rw [tokenize, ← ih]
    | anyOne rest ih => rw [tokenize, ← ih]
    | escaped c rest ih => rw [tokenize, ← ih]
    | loneBackslash => rfl
    | plain hc rest ih => rw [tokenize_of_plain hc, ← ih]
  · rintro rfl
    exact spells_tokenize pattern

/-- A character as patterns compare it. -/
def letter (fold : Bool) (c : Char) : Char :=
  if fold then foldChar c else c

/-- Whether a token of a pattern admits a piece of text. -/
def Token.Admits (fold : Bool) : Token → List Char → Prop
  | .literal c, piece => ∃ d, piece = [d] ∧ letter fold c = letter fold d
  | .anyOne, piece => ∃ d, piece = [d]
  | .anyRun, _ => True

theorem takes_eq_admits : Token.Takes = Token.Admits false := by
  funext token piece
  cases token with
  | literal c => simp [Token.Takes, Token.Admits, letter]
  | anyOne => simp [Token.Takes, Token.Admits, List.length_eq_one_iff]
  | anyRun => rfl

theorem takes_fold_iff_admits {token : Token} {piece : List Char} :
    token.fold.Takes (piece.map foldChar) ↔ token.Admits true piece := by
  cases token with
  | literal c =>
      simp only [Token.fold, Token.Takes, Token.Admits, letter, if_true, List.map_eq_singleton_iff]
      exact exists_congr fun d => and_congr_right fun _ => eq_comm
  | anyOne =>
      simp [Token.fold, Token.Takes, Token.Admits, List.length_eq_one_iff]
  | anyRun => rfl

theorem exists_flatten_eq_of_map_eq {α β : Type} {f : α → β} {xs : List α}
    {parts : List (List β)} (h : xs.map f = parts.flatten) :
    ∃ pieces : List (List α), pieces.flatten = xs ∧ pieces.map (List.map f) = parts := by
  induction parts generalizing xs with
  | nil => exact ⟨[], (List.map_eq_nil_iff.1 h).symm, rfl⟩
  | cons part parts ih =>
      obtain ⟨piece, rest, rfl, hpiece, hrest⟩ := List.map_eq_append_iff.1 h
      obtain ⟨pieces, rfl, hpieces⟩ := ih hrest
      exact ⟨piece :: pieces, List.flatten_cons, by rw [List.map_cons, hpiece, hpieces]⟩

theorem covers_fold_iff {tokens : List Token} {text : List Char} :
    Covers (tokens.map Token.fold) (text.map foldChar) ↔
      ∃ pieces : List (List Char), pieces.flatten = text ∧
        List.Forall₂ (Token.Admits true) tokens pieces := by
  constructor
  · rintro ⟨foldedPieces, hflatten, hpieces⟩
    obtain ⟨pieces, htext, rfl⟩ := exists_flatten_eq_of_map_eq hflatten.symm
    refine ⟨pieces, htext, ?_⟩
    rw [List.forall₂_map_left_iff, List.forall₂_map_right_iff] at hpieces
    exact hpieces.imp fun _ _ => takes_fold_iff_admits.1
  · rintro ⟨pieces, rfl, hpieces⟩
    refine ⟨pieces.map (List.map foldChar), List.map_flatten.symm, ?_⟩
    rw [List.forall₂_map_left_iff, List.forall₂_map_right_iff]
    exact hpieces.imp fun _ _ => takes_fold_iff_admits.2

/-- **Matching a pattern.** A text matches a pattern exactly if it can be cut into consecutive
pieces, one for each token that the pattern spells, such that a percent sign has any piece, an
underscore a single character, and any other token the character that it stands for, up to case if
case is disregarded. -/
theorem likeMatches_iff_admits (text pattern : String) (fold : Bool) :
    likeMatches text pattern fold = true ↔
      ∃ (tokens : List Token) (pieces : List (List Char)), Spells pattern.toList tokens ∧
        pieces.flatten = text.toList ∧ List.Forall₂ (Token.Admits fold) tokens pieces := by
  simp only [spells_iff, exists_and_left, exists_eq_left]
  cases fold with
  | false =>
      simp only [likeMatches, Bool.false_eq_true, if_false, fits_iff_covers, Covers,
        takes_eq_admits]
  | true =>
      simp only [likeMatches, if_true, fits_iff_covers, covers_fold_iff]

end RecordSearch.Text
