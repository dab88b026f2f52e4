import Mathlib.Data.List.SplitBy
import RecordSearch.Proofs.Record.Decoding
import RecordSearch.Proofs.Sql.Reading

/-!
# The tokens of conditions

Two texts side by side have the tokens of the one and then those of the other, unless a word or a
sign runs on across the border. In the text of a condition the parts are divided by blanks, brackets
and commas, which do not, and so its tokens are those of its parts.
-/

namespace RecordSearch.Sql

/-- Whether a character stands alone, whatever is beside it. -/
def isFree (c : Char) : Bool :=
  !joins c c

theorem joins_eq_false_of_isFree_right {a b : Char} (hb : isFree b = true) : joins a b = false := by
  cases hword : isWordChar b <;> cases hsign : isSignChar b <;>
    simp_all [isFree, joins]

theorem joins_eq_false_of_isFree_left {a b : Char} (ha : isFree a = true) : joins a b = false := by
  cases hword : isWordChar a <;> cases hsign : isSignChar a <;>
    simp_all [isFree, joins]

section Append

variable {front back : List Char} {frontTokens backTokens : List Token}

theorem tokens?_append (hfront : tokens? front = some frontTokens)
    (hback : tokens? back = some backTokens)
    (hborder : ∀ a ∈ front.getLast?, ∀ b ∈ back.head?, joins a b = false) :
    tokens? (front ++ back) = some (frontTokens ++ backTokens) := by
  unfold tokens? at hfront hback ⊢
  rw [List.splitBy_append hborder, List.filter_append, List.mapM_append, hfront, hback]
  rfl

/-- A border before a character that stands alone. -/
theorem tokens?_append_of_head (hfront : tokens? front = some frontTokens)
    (hback : tokens? back = some backTokens) (hfree : back.head?.any isFree = true) :
    tokens? (front ++ back) = some (frontTokens ++ backTokens) := by
  refine tokens?_append hfront hback fun a _ b hb => joins_eq_false_of_isFree_right ?_
  rw [Option.mem_def.1 hb] at hfree
  exact hfree

theorem tokens?_append_of_getLast (hfront : tokens? front = some frontTokens)
    (hback : tokens? back = some backTokens) (hfree : front.getLast?.any isFree = true) :
    tokens? (front ++ back) = some (frontTokens ++ backTokens) := by
  refine tokens?_append hfront hback fun a ha b _ => joins_eq_false_of_isFree_left ?_
  rw [Option.mem_def.1 ha] at hfree
  exact hfree

/-- Two texts with one between them that begins and ends with characters that stand alone. -/
theorem tokens?_between {middle : List Char} {middleTokens : List Token}
    (hfront : tokens? front = some frontTokens) (hmiddle : tokens? middle = some middleTokens)
    (hback : tokens? back = some backTokens) (hhead : middle.head?.any isFree = true)
    (hlast : middle.getLast?.any isFree = true) :
    tokens? (front ++ (middle ++ back)) =
      some (frontTokens ++ (middleTokens ++ backTokens)) := by
  refine tokens?_append_of_head hfront (tokens?_append_of_getLast hmiddle hback hlast) ?_
  obtain ⟨c, hc, hfree⟩ := (Option.any_eq_true _ _).1 hhead
  rw [List.head?_append, hc]
  exact hfree

theorem tokens?_intercalate {separator : List Char} {separatorTokens : List Token}
    (hseparator : tokens? separator = some separatorTokens)
    (hhead : separator.head?.any isFree = true) (hlast : separator.getLast?.any isFree = true)
    {parts : List (List Char)} {partTokens : List (List Token)}
    (hparts : List.Forall₂ (fun part tokens => tokens? part = some tokens) parts partTokens) :
    tokens? (separator.intercalate parts) = some (separatorTokens.intercalate partTokens) := by
  induction hparts with
  | nil => rfl
  | @cons part tokens parts partTokens hpart hparts ih =>
      cases hparts with
      | nil => simpa using hpart
      | cons _ _ =>
          rw [List.intercalate_cons_cons, List.intercalate_cons_cons, List.append_assoc,
            List.append_assoc]
          exact tokens?_between hpart hseparator ih hhead hlast

end Append

/-! ### Words -/

theorem splitBy_word {word : List Char} (hne : word ≠ [])
    (hword : ∀ c ∈ word, isWordChar c = true) :
    word.splitBy joins = [word] := by
  refine List.splitBy_of_isChain hne (List.Pairwise.isChain ?_)
  refine List.pairwise_of_forall_mem_list fun a ha b hb => ?_
  simp [joins, hword a ha, hword b hb]

theorem tokens?_word {first : Char} {rest : List Char}
    (hword : ∀ c ∈ first :: rest, isWordChar c = true) {token : Token}
    (htoken : Token.ofWord? (first :: rest) = some token) :
    tokens? (first :: rest) = some [token] := by
  have hfirst : isWordChar first = true := hword first List.mem_cons_self
  have hblank : (first :: rest) ≠ [' '] := by
    rintro ⟨⟩
    exact absurd hfirst (by decide)
  have hread : Token.read? (first :: rest) = some token := by
    unfold Token.read?
    split <;> simp_all [isWordChar, Name.isPart]
  rw [tokens?, splitBy_word (List.cons_ne_nil _ _) hword]
  simp [hblank, hread]

theorem tokens?_name {name : String} (hname : Name.fault? name = none) :
    tokens? name.toList = some [.name name] := by
  obtain ⟨first, rest, hchars, hstart, hpart, hreserved⟩ := Name.exists_of_fault?_eq_none hname
  rw [hchars]
  refine tokens?_word (fun c hc => by simp [isWordChar, hpart c hc]) ?_
  have hdollar : first ≠ '$' := by
    rintro rfl
    exact absurd hstart (by decide)
  have hkeyword : keywords.lookup (upper (first :: rest)) = none := by
    rw [List.lookup_eq_none_iff]
    intro keyword hmem
    have hall : ∀ keyword ∈ keywords, keyword.1 ∈ Name.reservedWords := by decide
    rw [bne_iff_ne]
    intro heq
    rw [upper] at heq
    exact hreserved (heq ▸ hall keyword hmem)
  have htext : String.ofList (first :: rest) = name := by rw [← hchars, String.ofList_toList]
  unfold Token.ofWord?
  split
  · rename_i heq
    exact absurd (List.cons.inj heq).1 hdollar
  · simp [hkeyword, htext, hname]

theorem tokens?_placeholder (place : Nat) :
    tokens? (placeholder place).toList = some [.parameter place] := by
  have hchars : (placeholder place).toList = '$' :: Number.digits place := by
    simp [placeholder, Number.decimal]
  rw [hchars]
  refine tokens?_word (fun c hc => ?_) ?_
  · rcases List.mem_cons.1 hc with rfl | hc
    · decide
    · have hdigit : c.isDigit = true := Number.isDigit_of_mem_digits hc
      simp [isWordChar, Name.isPart, Char.isAlphanum, hdigit]
  · have hdigits : (Number.digits place).all Number.isDigit = true :=
      List.all_eq_true.2 fun c hc => Number.isDigit_of_mem_digits hc
    simp [Token.ofWord?, Number.digits_ne_nil, hdigits, Number.ofDigits_digits]

/-! ### Operands and conditions -/

def Operand.tokens : Operand → List Token
  | .column name => [.name name]
  | .parameter place => [.parameter place]
  | .null => [.null]
  | .lower inner => .name "LOWER" :: .opening :: (inner.tokens ++ [.closing])

/-- Whether every column has the name of a column. -/
def Operand.IsNamed : Operand → Prop
  | .column name => Name.fault? name = none
  | .parameter _ => True
  | .null => True
  | .lower inner => inner.IsNamed

theorem Operand.tokens?_text : ∀ operand : Operand, operand.IsNamed →
    tokens? operand.text.toList = some operand.tokens
  | .column name => fun hnamed => tokens?_name hnamed
  | .parameter place => fun _ => tokens?_placeholder place
  | .null => fun _ => by decide +kernel
  | .lower inner => by
      intro hnamed
      have hinner := tokens?_text inner hnamed
      have hopening : tokens? "LOWER(".toList = some [.name "LOWER", .opening] := by
        decide +kernel
      have hclosing : tokens? ")".toList = some [.closing] := by decide +kernel
      rw [text, String.toList_append, String.toList_append, List.append_assoc]
      exact tokens?_append_of_getLast hopening (tokens?_append_of_head hinner hclosing rfl) rfl

def Condition.tokens : Condition → List Token
  | .equal left right => left.tokens ++ .equal :: right.tokens
  | .atLeast left right => left.tokens ++ .atLeast :: right.tokens
  | .atMost left right => left.tokens ++ .atMost :: right.tokens
  | .like left right => left.tokens ++ .like :: right.tokens
  | .isIn left items =>
    left.tokens ++
      .isIn :: .opening :: ([.comma].intercalate (items.map Operand.tokens) ++ [.closing])
  | .isNull operand => operand.tokens ++ [.is, .null]
  | .both left right => .opening :: (left.tokens ++ .and :: (right.tokens ++ [.closing]))
  | .either left right => .opening :: (left.tokens ++ .or :: (right.tokens ++ [.closing]))

/-- Whether a condition can be read back: its columns have the names of columns, and its lists are
not empty. -/
def Condition.IsReadable : Condition → Prop
  | .equal left right => left.IsNamed ∧ right.IsNamed
  | .atLeast left right => left.IsNamed ∧ right.IsNamed
  | .atMost left right => left.IsNamed ∧ right.IsNamed
  | .like left right => left.IsNamed ∧ right.IsNamed
  | .isIn left items => left.IsNamed ∧ items ≠ [] ∧ ∀ item ∈ items, item.IsNamed
  | .isNull operand => operand.IsNamed
  | .both left right => left.IsReadable ∧ right.IsReadable
  | .either left right => left.IsReadable ∧ right.IsReadable

theorem tokens?_opening : tokens? ['('] = some [.opening] := by decide +kernel

theorem tokens?_closing : tokens? [')'] = some [.closing] := by decide +kernel

theorem tokens?_bracketed {text : List Char} {tokens : List Token}
    (h : tokens? text = some tokens) :
    tokens? ('(' :: (text ++ [')'])) = some (.opening :: (tokens ++ [.closing])) :=
  tokens?_append_of_getLast tokens?_opening (tokens?_append_of_head h tokens?_closing rfl) rfl

theorem tokens?_comparison {left right : Operand} (hleft : left.IsNamed) (hright : right.IsNamed)
    {sign : String} {token : Token} (hsign : tokens? sign.toList = some [token])
    (hhead : sign.toList.head?.any isFree = true) (hlast : sign.toList.getLast?.any isFree = true) :
    tokens? (left.text ++ sign ++ right.text).toList =
      some (left.tokens ++ token :: right.tokens) := by
  rw [String.toList_append, String.toList_append, List.append_assoc]
  exact tokens?_between (left.tokens?_text hleft) hsign (right.tokens?_text hright) hhead hlast

theorem tokens?_connective {left right : String} {leftTokens rightTokens : List Token}
    (hleft : tokens? left.toList = some leftTokens)
    (hright : tokens? right.toList = some rightTokens) {word : String} {token : Token}
    (hword : tokens? word.toList = some [token]) (hhead : word.toList.head?.any isFree = true)
    (hlast : word.toList.getLast?.any isFree = true) :
    tokens? ("(" ++ left ++ word ++ right ++ ")").toList =
      some (.opening :: (leftTokens ++ token :: (rightTokens ++ [.closing]))) := by
  have hinner := tokens?_bracketed (tokens?_between hleft hword hright hhead hlast)
  simpa using hinner

theorem Condition.tokens?_text : ∀ condition : Condition, condition.IsReadable →
    tokens? condition.text.toList = some condition.tokens
  | .equal left right => fun ⟨hleft, hright⟩ =>
      tokens?_comparison hleft hright (by decide +kernel) rfl rfl
  | .atLeast left right => fun ⟨hleft, hright⟩ =>
      tokens?_comparison hleft hright (by decide +kernel) rfl rfl
  | .atMost left right => fun ⟨hleft, hright⟩ =>
      tokens?_comparison hleft hright (by decide +kernel) rfl rfl
  | .like left right => fun ⟨hleft, hright⟩ =>
      tokens?_comparison hleft hright (by decide +kernel) rfl rfl
  | .isIn left items => by
      rintro ⟨hleft, -, hitems⟩
      have hlist : tokens? (", ".intercalate (items.map Operand.text)).toList =
          some ([.comma].intercalate (items.map Operand.tokens)) := by
        rw [String.toList_intercalate, List.map_map]
        refine tokens?_intercalate (by decide +kernel) rfl rfl ?_
        rw [List.forall₂_map_left_iff, List.forall₂_map_right_iff, List.forall₂_same]
        exact fun item hitem => item.tokens?_text (hitems item hitem)
      have hkeyword : tokens? " IN ".toList = some [.isIn] := by decide +kernel
      have hinner := tokens?_between (left.tokens?_text hleft) hkeyword (tokens?_bracketed hlist)
        rfl rfl
      simpa [text, tokens] using hinner
  | .isNull operand => by
      intro hnamed
      have hkeyword : tokens? " IS NULL".toList = some [.is, .null] := by decide +kernel
      rw [text, String.toList_append]
      exact tokens?_append_of_head (operand.tokens?_text hnamed) hkeyword rfl
  | .both left right => fun ⟨hleft, hright⟩ =>
      tokens?_connective (tokens?_text left hleft) (tokens?_text right hright) (by decide +kernel)
        rfl rfl
  | .either left right => fun ⟨hleft, hright⟩ =>
      tokens?_connective (tokens?_text left hleft) (tokens?_text right hright) (by decide +kernel)
        rfl rfl

/-- A condition in brackets. -/
def Condition.bracketed (condition : Condition) : List Token :=
  .opening :: (condition.tokens ++ [.closing])

theorem tokens?_whereClause {first : Condition} {rest : List Condition}
    (hreadable : ∀ condition ∈ first :: rest, condition.IsReadable) :
    tokens? (whereClause (first :: rest)).toList =
      some (.where :: [.and].intercalate ((first :: rest).map Condition.bracketed)) := by
  have hparts : tokens? (" AND ".intercalate
      ((first :: rest).map fun condition => "(" ++ condition.text ++ ")")).toList =
      some ([.and].intercalate ((first :: rest).map Condition.bracketed)) := by
    rw [String.toList_intercalate, List.map_map]
    refine tokens?_intercalate (by decide +kernel) rfl rfl ?_
    rw [List.forall₂_map_left_iff, List.forall₂_map_right_iff, List.forall₂_same]
    intro condition hmem
    have hbracketed := tokens?_bracketed (condition.tokens?_text (hreadable condition hmem))
    simpa [Condition.bracketed] using hbracketed
  have hwhere : tokens? "WHERE ".toList = some [.where] := by decide +kernel
  simp only [whereClause, String.toList_append]
  exact tokens?_append_of_getLast hwhere hparts rfl

end RecordSearch.Sql
