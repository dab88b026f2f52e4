import RecordSearch.Proofs.Sql.Grammar
import RecordSearch.Proofs.Sql.Statements

/-!
# Statements are read as they were written

The words of a statement are those of its clauses, since a blank divides them. Names and numbers are
single words, and no word of a condition begins another clause, so that every clause ends where it
was meant to end.
-/

namespace RecordSearch.Sql

open Number (digits intDecimal)

/-! ### Words of texts -/

section Words

variable {one two : String}

theorem words_append
    (hborder : ∀ a ∈ one.toList.getLast?, ∀ b ∈ two.toList.head?, joins a b = false) :
    words (one ++ two) = words one ++ words two := by
  rw [words, String.toList_append, List.splitBy_append hborder, List.filter_append,
    List.map_append]
  rfl

theorem words_append_of_head (hfree : two.toList.head?.any isFree = true) :
    words (one ++ two) = words one ++ words two := by
  refine words_append fun a _ b hb => joins_eq_false_of_isFree_right ?_
  rw [Option.mem_def.1 hb] at hfree
  exact hfree

theorem words_append_of_getLast (hfree : one.toList.getLast?.any isFree = true) :
    words (one ++ two) = words one ++ words two := by
  refine words_append fun a ha b _ => joins_eq_false_of_isFree_left ?_
  rw [Option.mem_def.1 ha] at hfree
  exact hfree

theorem words_blank_append (text : String) : words (" " ++ text) = words text := by
  have hblank : words " " = [] := rfl
  rw [words_append_of_getLast rfl, hblank, List.nil_append]

theorem words_intercalate_blank (texts : List String) :
    words (" ".intercalate texts) = texts.flatMap words := by
  induction texts with
  | nil => rfl
  | cons text rest ih =>
      cases rest with
      | nil => simp
      | cons next rest =>
          have hhead : (" " ++ " ".intercalate (next :: rest)).toList.head?.any isFree = true := by
            simp [show isFree ' ' = true from rfl]
          rw [String.intercalate_cons_cons, String.append_assoc, words_append_of_head hhead,
            words_blank_append, ih, ← List.flatMap_cons]

theorem words_joinClauses (clauses : List String) :
    words (joinClauses clauses) = clauses.flatMap words := by
  rw [joinClauses, words_intercalate_blank]
  induction clauses with
  | nil => rfl
  | cons clause rest ih =>
      by_cases hclause : clause = ""
      · subst hclause
        have hempty : words "" = [] := rfl
        simpa [hempty] using ih
      · rw [List.filter_cons_of_pos (by simpa using hclause), List.flatMap_cons, ih,
          List.flatMap_cons]

theorem words_of_isWordChar {word : String} (hne : word ≠ "")
    (hword : ∀ c ∈ word.toList, isWordChar c = true) : words word = [word] := by
  have hchars : word.toList ≠ [] := fun h => hne (String.toList_inj.1 h)
  have hblank : word.toList ≠ [' '] := by
    intro h
    exact absurd (hword ' ' (by simp [h])) (by decide)
  rw [words, splitBy_word hchars hword]
  simp [hblank]

theorem words_name {name : String} (hname : Name.fault? name = none) : words name = [name] := by
  obtain ⟨first, rest, hchars, -, hpart, -⟩ := Name.exists_of_fault?_eq_none hname
  refine words_of_isWordChar ?_ fun c hc => ?_
  · rintro rfl
    cases hchars
  · rw [hchars] at hc
    simp [isWordChar, hpart c hc]

end Words

/-! ### Clauses -/

section Number

variable {i : Int} (hi : 0 ≤ i)

include hi

theorem toList_intDecimal : (intDecimal i).toList = digits i.toNat := by
  have habs : i.natAbs = i.toNat := by omega
  rw [intDecimal, Number.intDigits, if_neg (by omega), String.toList_ofList, habs]

theorem isDigit_of_mem_intDecimal {c : Char} (hc : c ∈ (intDecimal i).toList) :
    Number.isDigit c = true := by
  rw [toList_intDecimal hi] at hc
  exact Number.isDigit_of_mem_digits hc

theorem intDecimal_ne_empty : intDecimal i ≠ "" := by
  intro hempty
  have hchars := toList_intDecimal hi
  rw [hempty] at hchars
  exact Number.digits_ne_nil _ hchars.symm

theorem words_intDecimal : words (intDecimal i) = [intDecimal i] := by
  refine words_of_isWordChar (intDecimal_ne_empty hi) fun c hc => ?_
  have hdigit : c.isDigit = true := isDigit_of_mem_intDecimal hi hc
  simp [isWordChar, Name.isPart, Char.isAlphanum, hdigit]

theorem readNumber?_intDecimal : readNumber? (intDecimal i) = some i.toNat := by
  have hdigits : (intDecimal i).toList.all Number.isDigit = true :=
    List.all_eq_true.2 fun c hc => isDigit_of_mem_intDecimal hi hc
  rw [readNumber?, if_pos ⟨intDecimal_ne_empty hi, hdigits⟩, toList_intDecimal hi,
    Number.ofDigits_digits]

end Number

theorem readTable?_words (table : TableName) (rest : List String) :
    readTable? ("FROM" :: (words table.text ++ "AS" :: "r" :: rest)) = some (table.text, rest) := by
  rcases Name.exists_of_tableFault?_eq_none table.valid with
    hname | ⟨schema, name, htext, hschema, hname⟩
  · rw [words_name hname]
    simp [readTable?, hname]
  · have hwords : words table.text = [schema, ".", name] := by
      have hdot : words "." = ["."] := rfl
      rw [htext, words_append_of_getLast (by simp; rfl), words_append_of_head rfl,
        words_name hschema, hdot, words_name hname]
      rfl
    rw [hwords, htext]
    simp [readTable?, hschema, hname]

theorem readWhere?_eq_bind (text : String) :
    readWhere? text = ((words text).mapM fun word => Token.read? word.toList).bind readClause? := by
  have htokens : (words text).mapM (fun word => Token.read? word.toList) = tokens? text.toList := by
    simp [words, tokens?, List.mapM_map, Function.comp_def]
  rw [htokens, readWhere?]
  cases tokens? text.toList with
  | none => rfl
  | some tokens =>
      cases tokens with
      | nil => rfl
      | cons token tokens => cases token <;> rfl

/-- A word with which a clause begins cannot be read in a condition. -/
theorem isClauseWord_eq_false_of_read? {word : String} {token : Token}
    (h : Token.read? word.toList = some token) : isClauseWord word = false := by
  have hnone : ∀ word ∈ ["ORDER", "OFFSET", "LIMIT"], Token.read? word.toList = none := by
    decide +kernel
  rw [← Bool.not_eq_true]
  intro hclause
  rw [hnone word (List.contains_iff_mem.1 hclause)] at h
  cases h

def Target.words : Target → List String
  | .records => ["SELECT", "to_jsonb", "(", "r", ")", "AS", "record"]
  | .count => ["SELECT", "COUNT", "(", "*", ")", "AS", "total"]

theorem readTarget?_words (target : Target) (rest : List String) :
    readTarget? (target.words ++ rest) = some (target, rest) := by
  cases target <;> simp [Target.words, readTarget?]

/-- A statement is read clause by clause: the condition ends where the next clause begins. -/
theorem readStatement?_of_words {text conditionText : String} {target : Target} {table : TableName}
    {behind behindOrder behindOffset : List String} {clause : Option Condition}
    {order : Option (String × SortOrder)} {offset : Nat} {limit : Option Nat}
    (hwords : words text = target.words ++
      "FROM" :: (words table.text ++ "AS" :: "r" :: (words conditionText ++ behind)))
    (hclause : readWhere? conditionText = some clause)
    (hbehind : ∀ word ∈ behind.head?, isClauseWord word = true)
    (horder : readOrder? behind = some (order, behindOrder))
    (hoffset : readOffset? behindOrder = some (offset, behindOffset))
    (hlimit : readLimit? behindOffset = some limit) :
    readStatement? text = some { target, table := table.text, clause, order, offset, limit } := by
  rw [readWhere?_eq_bind] at hclause
  obtain ⟨tokens, htokens, hclause⟩ := Option.bind_eq_some_iff.1 hclause
  have hinside : ∀ word ∈ words conditionText, (!isClauseWord word) = true := by
    intro word hword
    obtain ⟨token, -, htoken⟩ := exists_right_of_forall₂ (mapM_eq_some_iff.1 htokens) hword
    simp [isClauseWord_eq_false_of_read? htoken]
  have hstop : behind.takeWhile (!isClauseWord ·) = [] ∧
      behind.dropWhile (!isClauseWord ·) = behind := by
    cases behind with
    | nil => exact ⟨rfl, rfl⟩
    | cons word behind => simp [hbehind word rfl]
  simp only [readStatement?, hwords, readTarget?_words, readTable?_words, Option.bind_eq_bind,
    Option.bind_some, List.takeWhile_append_of_pos hinside, List.dropWhile_append_of_pos hinside,
    hstop, List.append_nil, htokens, hclause, horder, hoffset, hlimit]

/-! ### Whole statements -/

theorem words_from {front : String} (target : Target)
    (hfront : words front = target.words ++ ["FROM"])
    (hlast : front.toList.getLast?.any isFree = true) (table : TableName) :
    words (front ++ table.text ++ " AS r") =
      target.words ++ "FROM" :: (words table.text ++ ["AS", "r"]) := by
  have hname : words " AS r" = ["AS", "r"] := rfl
  rw [words_append_of_head rfl, words_append_of_getLast hlast, hfront, hname]
  simp

theorem words_select (table : TableName) :
    words ("SELECT to_jsonb(r) AS record FROM " ++ table.text ++ " AS r") =
      Target.records.words ++ "FROM" :: (words table.text ++ ["AS", "r"]) :=
  words_from .records rfl rfl table

theorem words_count (table : TableName) :
    words ("SELECT COUNT(*) AS total FROM " ++ table.text ++ " AS r") =
      Target.count.words ++ "FROM" :: (words table.text ++ ["AS", "r"]) :=
  words_from .count rfl rfl table

theorem words_orderClause (sortBy : FieldName) (order : SortOrder) :
    words (orderClause sortBy order) =
      "ORDER" :: "BY" :: sortBy.text :: (if order.isDescending then ["DESC"] else []) := by
  have horder : words "ORDER BY " = ["ORDER", "BY"] := rfl
  have hdesc : words " DESC" = ["DESC"] := rfl
  have hcolumn : words ("ORDER BY " ++ sortBy.text) = ["ORDER", "BY", sortBy.text] := by
    rw [words_append_of_getLast rfl, horder, words_name sortBy.valid]
    rfl
  cases order with
  | ascending => exact hcolumn
  | descending =>
      have htext : orderClause sortBy .descending = "ORDER BY " ++ sortBy.text ++ " DESC" := by
        rw [orderClause, String.append_assoc]
        rfl
      rw [htext, words_append_of_head rfl, hcolumn, hdesc]
      rfl

theorem readOrder?_words (sortBy : FieldName) (order : SortOrder) {rest : List String}
    (hrest : rest.head? ≠ some "DESC") :
    readOrder? (words (orderClause sortBy order) ++ rest) =
      some (some (sortBy.text, order), rest) := by
  rw [words_orderClause]
  cases order with
  | ascending =>
      cases rest with
      | nil => simp [readOrder?, SortOrder.isDescending, sortBy.valid]
      | cons word rest =>
          have hword : word ≠ "DESC" := fun h => hrest (h ▸ rfl)
          simp [readOrder?, SortOrder.isDescending, sortBy.valid, hword]
  | descending => simp [readOrder?, SortOrder.isDescending, sortBy.valid]

theorem words_windowClause {offset length : Int} (hoffset : 0 ≤ offset) (hlength : 0 ≤ length) :
    words (windowClause offset length) =
      ["OFFSET", intDecimal offset, "LIMIT", intDecimal length] := by
  have hfront : words "OFFSET " = ["OFFSET"] := rfl
  have hmiddle : words " LIMIT " = ["LIMIT"] := rfl
  have hlast : ("OFFSET " ++ intDecimal offset ++ " LIMIT ").toList.getLast?.any isFree = true := by
    rw [String.toList_append, List.getLast?_append]
    rfl
  rw [windowClause, words_append_of_getLast hlast, words_append_of_head rfl,
    words_append_of_getLast rfl, hfront, hmiddle, words_intDecimal hoffset,
    words_intDecimal hlength]
  rfl

theorem isClauseWord_of_mem_head?_orderClause {sortBy : FieldName} {order : SortOrder}
    {rest : List String} : ∀ word ∈ (words (orderClause sortBy order) ++ rest).head?,
      isClauseWord word = true := by
  rw [words_orderClause]
  rintro _ ⟨⟩
  decide

namespace Select

variable {s : Select} {clause : Option Condition}

/-- **Reading a statement back.** The text of a selection is read as this selection. -/
theorem readStatement?_text (hclause : readWhere? (whereClause s.conditions) = some clause)
    (hwindow : ∀ offset length, s.window = some (offset, length) → 0 ≤ offset ∧ 0 ≤ length) :
    readStatement? s.text = some
      { target := .records
        table := s.table.text
        clause
        order := some (s.sortBy.text, s.sortOrder)
        offset := (s.window.map (·.1.toNat)).getD 0
        limit := s.window.map (·.2.toNat) } := by
  cases hs : s.window with
  | none =>
      have hwords : words s.text = Target.records.words ++ "FROM" :: (words s.table.text ++
          "AS" :: "r" :: (words (whereClause s.conditions) ++
            (words (orderClause s.sortBy s.sortOrder) ++ []))) := by
        simp [text, hs, words_joinClauses, words_select, show words "" = [] from rfl]
      exact readStatement?_of_words hwords hclause isClauseWord_of_mem_head?_orderClause
        (readOrder?_words s.sortBy s.sortOrder (by simp)) rfl rfl
  | some window =>
      obtain ⟨offset, length⟩ := window
      obtain ⟨hoffset, hlength⟩ := hwindow offset length hs
      have hwords : words s.text = Target.records.words ++ "FROM" :: (words s.table.text ++
          "AS" :: "r" :: (words (whereClause s.conditions) ++
            (words (orderClause s.sortBy s.sortOrder) ++
              ["OFFSET", intDecimal offset, "LIMIT", intDecimal length]))) := by
        simp [text, hs, words_joinClauses, words_select, words_windowClause hoffset hlength]
      have hreadOffset : readOffset? ["OFFSET", intDecimal offset, "LIMIT", intDecimal length] =
          some (offset.toNat, ["LIMIT", intDecimal length]) := by
        simp [readOffset?, readNumber?_intDecimal hoffset]
      have hreadLimit : readLimit? ["LIMIT", intDecimal length] = some (some length.toNat) := by
        simp [readLimit?, readNumber?_intDecimal hlength]
      exact readStatement?_of_words hwords hclause isClauseWord_of_mem_head?_orderClause
        (readOrder?_words s.sortBy s.sortOrder (by simp)) hreadOffset hreadLimit

theorem readStatement?_countText (hclause : readWhere? (whereClause s.conditions) = some clause)
    {count : String} (hcount : s.countText? = some count) :
    readStatement? count = some
      { target := .count
        table := s.table.text
        clause
        order := none
        offset := 0
        limit := none } := by
  obtain ⟨window, -, rfl⟩ := Option.map_eq_some_iff.1 hcount
  have hwords : words (joinClauses ["SELECT COUNT(*) AS total FROM " ++ s.table.text ++ " AS r",
      whereClause s.conditions]) = Target.count.words ++ "FROM" :: (words s.table.text ++
        "AS" :: "r" :: (words (whereClause s.conditions) ++ [])) := by
    simp [words_joinClauses, words_count]
  exact readStatement?_of_words hwords hclause (by simp) rfl rfl rfl

end Select

theorem selectByKey_eq_intercalate (table : TableName) (key : FieldName) :
    selectByKey table key = " ".intercalate [
      "SELECT to_jsonb(r) AS record FROM " ++ table.text ++ " AS r",
      "WHERE " ++ key.text ++ " = $1", "LIMIT 1"] := by
  have hmiddle : " AS r WHERE " = " AS r" ++ (" " ++ "WHERE ") := rfl
  have hend : " = $1 LIMIT 1" = " = $1" ++ (" " ++ "LIMIT 1") := rfl
  unfold selectByKey
  simp only [hmiddle, hend, String.intercalate_cons_cons, String.intercalate_singleton,
    String.append_assoc]

theorem readStatement?_selectByKey (table : TableName) (key : FieldName) :
    readStatement? (selectByKey table key) = some
      { target := .records
        table := table.text
        clause := some (.equal (.column key.text) (.parameter 1))
        order := none
        offset := 0
        limit := some 1 } := by
  have hclause : readWhere? ("WHERE " ++ key.text ++ " = $1") =
      some (some (.equal (.column key.text) (.parameter 1))) := by
    have hopening : tokens? "WHERE ".toList = some [.where] := rfl
    have hequal : tokens? " = $1".toList = some [.equal, .parameter 1] := rfl
    have htokens : tokens? ("WHERE " ++ key.text ++ " = $1").toList =
        some [.where, .name key.text, .equal, .parameter 1] := by
      rw [String.toList_append, String.toList_append, List.append_assoc]
      exact tokens?_append_of_getLast hopening
        (tokens?_append_of_head (tokens?_name key.valid) hequal rfl) rfl
    rw [readWhere?, htokens]
    rfl
  have hwords : words (selectByKey table key) = Target.records.words ++ "FROM" ::
      (words table.text ++ "AS" :: "r" :: (words ("WHERE " ++ key.text ++ " = $1") ++
        ["LIMIT", "1"])) := by
    have hbehind : words "LIMIT 1" = ["LIMIT", "1"] := rfl
    rw [selectByKey_eq_intercalate, words_intercalate_blank]
    simp [words_select, hbehind]
  have horder : readOrder? ["LIMIT", "1"] = some (none, ["LIMIT", "1"]) := rfl
  have hoffset : readOffset? ["LIMIT", "1"] = some (0, ["LIMIT", "1"]) := rfl
  have hlimit : readLimit? ["LIMIT", "1"] = some (some 1) := rfl
  exact readStatement?_of_words hwords hclause (by decide) horder hoffset hlimit

end RecordSearch.Sql
