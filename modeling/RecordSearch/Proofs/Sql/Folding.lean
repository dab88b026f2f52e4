import Mathlib.Data.List.Infix
import RecordSearch.Proofs.Sql.Binding

/-!
# What is put in lower case

`LOWER` stands in the text of a condition exactly if an operand is put in lower case, unless a
column has it in its name. Predicates that disregard case have nothing but text among their values,
and a list without values leaves its column alone. A range without bounds does not: it puts a column
in lower case of which nothing says that it holds text.
-/

namespace RecordSearch

/-- A border that no part of a word can be. -/
theorem infix_append_cons_iff {α : Type} {word front back : List α} {x : α} (hx : x ∉ word) :
    word <:+: front ++ x :: back ↔ word <:+: front ∨ word <:+: back := by
  have hstart : ∀ {start}, start <+: x :: back → x ∉ start → start = [] := by
    intro start hprefix hmem
    rcases List.prefix_cons_iff.1 hprefix with rfl | ⟨rest, rfl, -⟩
    · rfl
    · exact absurd List.mem_cons_self hmem
  constructor
  · intro h
    rcases List.infix_append_iff.1 h with hfront | hback | ⟨one, two, rfl, hone, htwo⟩
    · exact .inl hfront
    · rcases List.infix_cons_iff.1 hback with hprefix | hback
      · exact .inl (hstart hprefix hx ▸ List.nil_infix)
      · exact .inr hback
    · obtain rfl : two = [] := hstart htwo fun hmem => hx (List.mem_append_right one hmem)
      exact .inl (by simpa using hone.isInfix)
  · rintro (hfront | hback)
    · exact hfront.trans List.infix_append_left
    · exact (List.infix_cons hback).trans List.infix_append_right

namespace Sql

/-- Whether a text has a word in it. -/
def Mentions (text word : String) : Prop :=
  word.toList <:+: text.toList

instance (text word : String) : Decidable (Mentions text word) :=
  inferInstanceAs (Decidable (_ <:+: _))

/-! ### Texts of conditions -/

def Operand.isLowered : Operand → Bool
  | .lower _ => true
  | _ => false

def Condition.operands : Condition → List Operand
  | .equal left right => [left, right]
  | .atLeast left right => [left, right]
  | .atMost left right => [left, right]
  | .like left right => [left, right]
  | .isIn left items => left :: items
  | .isNull operand => [operand]
  | .both left right => left.operands ++ right.operands
  | .either left right => left.operands ++ right.operands

/-- The name of the function, alone and with the bracket behind it. -/
def lowerWords : List String :=
  ["LOWER", "LOWER("]

/-- The words and signs that are written between operands. -/
def conditionSigns : List String :=
  ["=", ">=", "<=", "LIKE", "IN", "IS", "NULL", "AND", "OR"]

section Words

variable {word : String} (hword : word ∈ lowerWords)

include hword

theorem not_mem_lowerWord {c : Char} (hc : c ∈ [' ', ',', ')']) : c ∉ word.toList := by
  have hall : ∀ word ∈ lowerWords, ∀ c ∈ [' ', ',', ')'], c ∉ word.toList := by
    simp [lowerWords]
  exact hall word hword c hc

theorem not_infix_sign {sign : String} (hsign : sign ∈ conditionSigns) :
    ¬ word.toList <:+: sign.toList := by
  have hall : ∀ word ∈ lowerWords, ∀ sign ∈ conditionSigns,
      ¬ word.toList <:+: sign.toList := by decide
  exact hall word hword sign hsign

theorem not_infix_nil : ¬ word.toList <:+: [] := by
  have hall : ∀ word ∈ lowerWords, ¬ word.toList <:+: [] := by decide
  exact hall word hword

theorem infix_between_iff (front back : List Char) {sign : String}
    (hsign : sign ∈ conditionSigns) :
    word.toList <:+: front ++ ' ' :: (sign.toList ++ ' ' :: back) ↔
      word.toList <:+: front ∨ word.toList <:+: back := by
  have hblank : ' ' ∉ word.toList := not_mem_lowerWord hword (by simp)
  rw [infix_append_cons_iff hblank, infix_append_cons_iff hblank,
    or_iff_right (not_infix_sign hword hsign)]

theorem infix_brackets_iff (inner : List Char) :
    word.toList <:+: '(' :: (inner ++ [')']) ↔ word.toList <:+: inner := by
  have hclosing : ')' ∉ word.toList := not_mem_lowerWord hword (by simp)
  have hopening : ¬ word.toList <+: '(' :: (inner ++ [')']) := by
    have hhead : ∀ word ∈ lowerWords, word.toList.head? = some 'L' := by decide
    intro hprefix
    obtain ⟨rest, hrest⟩ := hprefix
    have hfirst := congrArg List.head? hrest
    rw [List.head?_append, hhead word hword] at hfirst
    cases hfirst
  rw [List.infix_cons_iff, or_iff_right hopening, infix_append_cons_iff hclosing,
    or_iff_left (not_infix_nil hword)]

theorem infix_items_iff : ∀ items : List Operand,
    word.toList <:+: (", ".intercalate (items.map Operand.text)).toList ↔
      ∃ item ∈ items, word.toList <:+: item.text.toList
  | [] => by simpa using not_infix_nil hword
  | [item] => by simp
  | item :: next :: rest => by
      have hcomma : ',' ∉ word.toList := not_mem_lowerWord hword (by simp)
      have hblank : ' ' ∉ word.toList := not_mem_lowerWord hword (by simp)
      have hchars : (", ".intercalate ((item :: next :: rest).map Operand.text)).toList =
          item.text.toList ++ ',' :: ([] ++ ' ' ::
            (", ".intercalate ((next :: rest).map Operand.text)).toList) := by
        simp [String.intercalate_cons_cons]
      rw [hchars, infix_append_cons_iff hcomma, infix_append_cons_iff hblank,
        or_iff_right (not_infix_nil hword), infix_items_iff (next :: rest)]
      simp

/-- The name of the function stands in a condition exactly if it stands in an operand: what is
written between operands does not give rise to it. -/
theorem mentions_condition_iff : ∀ condition : Condition,
    Mentions condition.text word ↔ ∃ operand ∈ condition.operands, Mentions operand.text word
  | .equal left right => by
      have hsign : "=" ∈ conditionSigns := by decide
      have hbetween := infix_between_iff hword left.text.toList right.text.toList hsign
      simpa [Mentions, Condition.text, Condition.operands] using hbetween
  | .atLeast left right => by
      have hsign : ">=" ∈ conditionSigns := by decide
      have hbetween := infix_between_iff hword left.text.toList right.text.toList hsign
      simpa [Mentions, Condition.text, Condition.operands] using hbetween
  | .atMost left right => by
      have hsign : "<=" ∈ conditionSigns := by decide
      have hbetween := infix_between_iff hword left.text.toList right.text.toList hsign
      simpa [Mentions, Condition.text, Condition.operands] using hbetween
  | .like left right => by
      have hsign : "LIKE" ∈ conditionSigns := by decide
      have hbetween := infix_between_iff hword left.text.toList right.text.toList hsign
      simpa [Mentions, Condition.text, Condition.operands] using hbetween
  | .isIn left items => by
      have hsign : "IN" ∈ conditionSigns := by decide
      have hlist := infix_between_iff hword left.text.toList
        ('(' :: ((", ".intercalate (items.map Operand.text)).toList ++ [')'])) hsign
      rw [infix_brackets_iff hword, infix_items_iff hword] at hlist
      simpa [Mentions, Condition.text, Condition.operands] using hlist
  | .isNull operand => by
      have hsign : "IS" ∈ conditionSigns := by decide
      have hnull : ¬ word.toList <:+: "NULL".toList := not_infix_sign hword (by decide)
      have hbetween := infix_between_iff hword operand.text.toList "NULL".toList hsign
      rw [or_iff_left hnull] at hbetween
      simpa [Mentions, Condition.text, Condition.operands] using hbetween
  | .both left right => by
      have hsign : "AND" ∈ conditionSigns := by decide
      have hinner := infix_between_iff hword left.text.toList right.text.toList hsign
      have hboth := (infix_brackets_iff hword _).trans (hinner.trans
        (or_congr (mentions_condition_iff left) (mentions_condition_iff right)))
      simpa [Mentions, Condition.text, Condition.operands, or_and_right, exists_or] using hboth
  | .either left right => by
      have hsign : "OR" ∈ conditionSigns := by decide
      have hinner := infix_between_iff hword left.text.toList right.text.toList hsign
      have heither := (infix_brackets_iff hword _).trans (hinner.trans
        (or_congr (mentions_condition_iff left) (mentions_condition_iff right)))
      simpa [Mentions, Condition.text, Condition.operands, or_and_right, exists_or] using heither

theorem mentions_operand_iff (operand : Operand) :
    Mentions operand.text word ↔
      operand.isLowered = true ∨ ∃ name, operand = .column name ∧ Mentions name word := by
  cases operand with
  | column name => simp [Operand.isLowered, Operand.text]
  | parameter place =>
      have hdigits : ¬ Mentions (Operand.parameter place).text word := by
        intro hmentions
        have hletter : ∀ word ∈ lowerWords, 'W' ∈ word.toList := by decide
        have hmem := hmentions.subset (hletter word hword)
        have hchars : (placeholder place).toList = '$' :: Number.digits place := by
          simp [placeholder, Number.decimal]
        rw [Operand.text, hchars, List.mem_cons, or_iff_right (by decide)] at hmem
        exact absurd (Number.isDigit_of_mem_digits hmem) (by decide)
      simp [Operand.isLowered, hdigits]
  | null =>
      have hsign : "NULL" ∈ conditionSigns := by decide
      have hnull : ¬ Mentions Operand.null.text word := not_infix_sign hword hsign
      simp [Operand.isLowered, hnull]
  | lower inner =>
      have hopening : ∀ word ∈ lowerWords, word.toList <+: "LOWER(".toList := by decide
      have hprefix : word.toList <+: (Operand.lower inner).text.toList := by
        rw [Operand.text, String.toList_append, String.toList_append, List.append_assoc]
        exact (hopening word hword).trans (List.prefix_append _ _)
      simp [Operand.isLowered, Mentions, hprefix.isInfix]

end Words

theorem not_mentions_name {name : String} (hname : Name.fault? name = none) :
    ¬ Mentions name "LOWER(" := by
  obtain ⟨first, rest, hchars, -, hpart, -⟩ := Name.exists_of_fault?_eq_none hname
  intro hmentions
  have hmem : '(' ∈ name.toList := hmentions.subset (by decide)
  exact absurd (hpart '(' (hchars ▸ hmem)) (by decide)

/-! ### Conditions of predicates -/

/-- Whether the condition of a test puts its column and its values in lower case. -/
def lowers (fold : Bool) : Test → Bool
  | .exact value => fold && value.isText
  | .oneOf [] => false
  | _ => fold

section Condition

variable (column : String) (fold : Bool) (b : Bindings)

theorem mem_operands_condition (test : Test) {operand : Operand}
    (h : operand ∈ (condition column fold b test).1.operands) :
    operand = foldCase (.column column) (lowers fold test) ∨
      (∃ place, operand = foldCase (.parameter place) (lowers fold test)) ∨ operand = .null := by
  cases test with
  | exact value =>
      simp only [condition, Condition.operands, fst_bindOperand, List.mem_cons, List.not_mem_nil,
        or_false] at h
      exact h.imp_right fun h => .inl ⟨_, h⟩
  | like text mode =>
      simp only [condition, Condition.operands, fst_bindOperand, List.mem_cons, List.not_mem_nil,
        or_false] at h
      exact h.imp_right fun h => .inl ⟨_, h⟩
  | oneOf values =>
      cases values with
      | nil =>
          simp only [condition, Condition.operands, List.mem_cons, List.not_mem_nil, or_false] at h
          exact h.imp_right .inr
      | cons value rest =>
          simp only [condition, Condition.operands, fst_bindItems, List.mem_cons, List.mem_map] at h
          rcases h with h | ⟨place, -, h⟩
          · exact .inl h
          · exact .inr (.inl ⟨place, h.symm⟩)
  | between min max =>
      cases min <;> cases max <;>
        simp only [condition, fst_bindBound, Option.map_none, Option.map_some, Condition.operands,
          List.cons_append, List.nil_append, List.mem_cons, List.not_mem_nil, or_false, or_self]
          at h
      · exact .inl h
      · exact h.imp_right fun h => .inl ⟨_, h⟩
      · exact h.imp_right fun h => .inl ⟨_, h⟩
      · rcases h with h | h | h | h
        · exact .inl h
        · exact .inr (.inl ⟨_, h⟩)
        · exact .inl h
        · exact .inr (.inl ⟨_, h⟩)

theorem column_mem_operands_condition (test : Test) :
    foldCase (.column column) (lowers fold test) ∈
      (condition column fold b test).1.operands := by
  cases test with
  | exact value => exact List.mem_cons_self
  | like text mode => exact List.mem_cons_self
  | oneOf values => cases values <;> exact List.mem_cons_self
  | between min max => cases min <;> cases max <;> exact List.mem_cons_self

theorem exists_isLowered_iff (test : Test) :
    (∃ operand ∈ (condition column fold b test).1.operands, operand.isLowered = true) ↔
      lowers fold test = true := by
  constructor
  · rintro ⟨operand, hoperand, hlowered⟩
    by_contra hlowers
    rw [Bool.not_eq_true] at hlowers
    rcases mem_operands_condition column fold b test hoperand with rfl | ⟨place, rfl⟩ | rfl
    · simp [hlowers, foldCase, Operand.isLowered] at hlowered
    · simp [hlowers, foldCase, Operand.isLowered] at hlowered
    · simp [Operand.isLowered] at hlowered
  · intro hlowers
    refine ⟨_, column_mem_operands_condition column fold b test, ?_⟩
    simp [hlowers, foldCase, Operand.isLowered]

/-- The name of the function stands in the condition of a test if the column and the values are put
in lower case, or else if the column has it in its name. -/
theorem mentions_condition_of_test {word : String} (hword : word ∈ lowerWords) (test : Test) :
    Mentions (condition column fold b test).1.text word ↔
      lowers fold test = true ∨ Mentions column word := by
  rw [mentions_condition_iff hword, ← exists_isLowered_iff column fold b test]
  constructor
  · rintro ⟨operand, hoperand, hmentions⟩
    rcases (mentions_operand_iff hword operand).1 hmentions with hlowered | ⟨name, rfl, hname⟩
    · exact .inl ⟨operand, hoperand, hlowered⟩
    · rcases mem_operands_condition column fold b test hoperand with h | ⟨place, h⟩ | h
      · cases hlowers : lowers fold test
        · rw [hlowers] at h
          exact .inr (Operand.column.inj h ▸ hname)
        · simp [hlowers, foldCase] at h
      · cases hlowers : lowers fold test <;> simp [hlowers, foldCase] at h
      · cases h
  · rintro (⟨operand, hoperand, hlowered⟩ | hcolumn)
    · exact ⟨operand, hoperand, (mentions_operand_iff hword operand).2 (.inl hlowered)⟩
    · refine ⟨_, column_mem_operands_condition column fold b test,
        (mentions_operand_iff hword _).2 ?_⟩
      cases lowers fold test
      · exact .inr ⟨column, rfl, hcolumn⟩
      · exact .inl rfl

end Condition

theorem test_and_fold_of_on {column : String} {test : Test} {fold : Bool} {p : Predicate}
    (h : Predicate.on column test fold = .ok p) : p.test = test ∧ p.fold = fold := by
  unfold Predicate.on at h
  cases hname : Predicate.checkedColumn column with
  | error misuse =>
      rw [hname] at h
      cases h
  | ok name =>
      rw [hname] at h
      rw [← Except.ok.inj h]
      exact ⟨rfl, rfl⟩

/-- What is built disregards case only if the values for which this has a meaning are text. -/
theorem Built.isText_of_fold {p : Predicate} (h : Built p) :
    p.fold = true → ∀ value ∈ Predicate.Test.folded p.test, value.isText = true := by
  induction h with
  | exact h | oneOf h | between h =>
      intro hfold
      rw [(test_and_fold_of_on h).2] at hfold
      cases hfold
  | like h =>
      rw [(test_and_fold_of_on h).1]
      simp [Predicate.Test.folded]
  | ignoreCase _ h _ =>
      unfold Predicate.ignoreCase at h
      split at h
      · cases h
      · rename_i hfind
        rw [← Except.ok.inj h]
        simpa using hfind
  | caseSensitive _ _ => simp [Predicate.caseSensitive]

theorem lowers_iff_of_built {p : Predicate} (h : Built p) :
    lowers p.fold p.test = true ↔
      p.fold = true ∧ p.test ≠ .oneOf [] ∧ ∀ value ∈ p.test.bound, value.isText = true := by
  have htext := h.isText_of_fold
  obtain ⟨column, test, fold⟩ := p
  cases test with
  | exact value => simp [lowers, Test.bound]
  | like text mode => simp [lowers, Test.bound, Value.isText]
  | oneOf values =>
      cases values with
      | nil => simp [lowers]
      | cons value rest => exact ⟨fun hfold => ⟨hfold, by simp, htext hfold⟩, And.left⟩
  | between min max => exact ⟨fun hfold => ⟨hfold, by simp, htext hfold⟩, And.left⟩

theorem bound_eq_nil_iff {test : Test} :
    test.bound = [] ↔ test = .oneOf [] ∨ test = .between none none := by
  cases test with
  | exact value => simp [Test.bound]
  | like text mode => simp [Test.bound]
  | oneOf values => simp [Test.bound]
  | between min max => cases min <;> cases max <;> simp [Test.bound]

/-- **Lower case is for text, but for a range without bounds.** A predicate that is built is
compiled over any bindings. Its condition has `LOWER` applied in it exactly if the predicate
disregards case, is not the empty list, and has nothing but text among the values that it binds. It
then binds at least one value, unless it is a range without bounds, whose column may hold anything.
Beyond this the word stands in the condition only if the column has it in its name. -/
theorem compile_lowers {p : Predicate} (h : Built p) (b : Bindings) :
    ∃ condition b', compile p b = .ok (condition, b') ∧ b.Extends p.test.bound b' ∧
      (Mentions condition.text "LOWER(" ↔
        p.fold = true ∧ p.test ≠ .oneOf [] ∧ ∀ value ∈ p.test.bound, value.isText = true) ∧
      (Mentions condition.text "LOWER(" → (p.test.bound = [] ↔ p.test = .between none none)) ∧
      (Mentions condition.text "LOWER" ↔
        Mentions condition.text "LOWER(" ∨ Mentions p.column "LOWER") := by
  have hcall : Mentions (condition p.column p.fold b p.test).1.text "LOWER(" ↔
      lowers p.fold p.test = true := by
    rw [mentions_condition_of_test _ _ _ (by decide), or_iff_left (not_mentions_name h.fault?)]
  refine ⟨(condition p.column p.fold b p.test).1, (condition p.column p.fold b p.test).2,
    compile_of_fault? h.fault? b, extends_condition b _ _ _, ?_, ?_, ?_⟩
  · rw [hcall, lowers_iff_of_built h]
  · rw [hcall, lowers_iff_of_built h]
    rintro ⟨-, hlist, -⟩
    rw [bound_eq_nil_iff, or_iff_right hlist]
  · rw [hcall, mentions_condition_of_test _ _ _ (by decide)]

/-- A list of texts whose column has the name of the function in its own. -/
def shoutedPredicate : Predicate :=
  ⟨"LOWER_CASE", .oneOf [.text "Active", .text "PENDING"], true⟩

theorem compile_lowers_shoutedPredicate :
    Built shoutedPredicate ∧
    ∃ condition b', compile shoutedPredicate .empty = .ok (condition, b') ∧
      b'.values = [.text "Active", .text "PENDING"] ∧ Mentions condition.text "LOWER(" := by
  have hlist : Predicate.oneOf "LOWER_CASE" [.text "Active", .text "PENDING"] =
      .ok ⟨"LOWER_CASE", .oneOf [.text "Active", .text "PENDING"], false⟩ := rfl
  have hbuilt : Built shoutedPredicate := .ignoreCase (.oneOf hlist) rfl
  obtain ⟨condition, b', hcompile, ⟨added, hadded, hvalues⟩, hcall, -⟩ :=
    compile_lowers hbuilt .empty
  refine ⟨hbuilt, condition, b', hcompile, ?_, hcall.2 (by decide)⟩
  rw [Bindings.values, hadded]
  exact hvalues

/-- Dates between any two, without case: nothing is bound that could tell that they are not text. -/
theorem compile_boundless_lowers :
    Built ⟨"start_date", .between none none, true⟩ ∧
    ∃ condition, compile ⟨"start_date", .between none none, true⟩ .empty =
        .ok (condition, .empty) ∧
      condition.text = "(LOWER(start_date) = LOWER(start_date) OR LOWER(start_date) IS NULL)" ∧
      Mentions condition.text "LOWER" ∧ Bindings.empty.values = [] := by
  have hrange : Predicate.between "start_date" none none =
      .ok ⟨"start_date", .between none none, false⟩ := rfl
  refine ⟨.ignoreCase (.between hrange) rfl, _, rfl, ?_, ?_, rfl⟩
  · decide +kernel
  · decide +kernel

end Sql

end RecordSearch
