import Mathlib.Data.List.TakeWhile
import RecordSearch.Proofs.Sql.Binding

/-!
# Placeholders

The text of a condition holds a placeholder for each value that it refers to and nothing of the
values themselves. Its characters are those of names, of digits and of a few signs, and a dollar
sign stands nowhere but in front of a place.
-/

namespace RecordSearch.Sql

open Number (isDigit digits)

/-- The placeholders in a text from left to right: every dollar sign with the digits behind it. -/
def placeholdersIn : List Char → List String
  | [] => []
  | c :: rest =>
    if c = '$' then String.ofList (c :: rest.takeWhile isDigit) :: placeholdersIn rest
    else placeholdersIn rest

/-- Letters, digits, and the signs of conditions. -/
def isConditionChar (c : Char) : Bool :=
  c.isAlphanum || "_$(),=<> ".toList.contains c

section Append

variable {front back : List Char}

theorem placeholdersIn_of_forall_ne {text : List Char} (h : ∀ c ∈ text, c ≠ '$') :
    placeholdersIn text = [] := by
  induction text with
  | nil => rfl
  | cons c rest ih =>
      obtain ⟨hc, hrest⟩ := List.forall_mem_cons.1 h
      rw [placeholdersIn, if_neg hc, ih hrest]

/-- Two texts have the placeholders of both unless digits at the border run on. -/
theorem placeholdersIn_append (hback : ∀ c ∈ back.head?, isDigit c = false) :
    placeholdersIn (front ++ back) = placeholdersIn front ++ placeholdersIn back := by
  induction front with
  | nil => rfl
  | cons c front ih =>
      have hdigits : (front ++ back).takeWhile isDigit = front.takeWhile isDigit := by
        have hstop : back.takeWhile isDigit = [] := by
          cases back with
          | nil => rfl
          | cons first back =>
              have hfirst : isDigit first = false := hback first rfl
              simp [hfirst]
        rw [List.takeWhile_append, hstop, List.append_nil]
        split
        · exact ((List.takeWhile_prefix isDigit).eq_of_length ‹_›).symm
        · rfl
      by_cases hc : c = '$'
      · simp only [List.cons_append, placeholdersIn, if_pos hc, hdigits, ih]
      · simp only [List.cons_append, placeholdersIn, if_neg hc, ih]

end Append

theorem placeholdersIn_placeholder (place : Nat) :
    placeholdersIn (placeholder place).toList = [placeholder place] := by
  have hdigits : ∀ c ∈ digits place, isDigit c = true := fun c => Number.isDigit_of_mem_digits
  have hdollar : ∀ c ∈ digits place, c ≠ '$' := by
    rintro c hc rfl
    exact absurd (hdigits _ hc) (by decide)
  have htext : (placeholder place).toList = '$' :: digits place := by
    simp [placeholder, Number.decimal]
  rw [htext, placeholdersIn, if_pos rfl, placeholdersIn_of_forall_ne hdollar,
    List.takeWhile_eq_self_iff.2 hdigits, ← htext, String.ofList_toList]

/-! ### Texts of conditions -/

theorem isDigit_eq_false_of_isStart {c : Char} (h : Name.isStart c = true) : isDigit c = false := by
  rw [← Bool.not_eq_true]
  intro hdigit
  have hnine : c ≤ '9' := of_decide_eq_true (Bool.and_eq_true_iff.1 hdigit).2
  have hbeyond : ∀ first : Char, '9' < first → ¬first ≤ c := fun first hfirst hle =>
    absurd (Char.le_trans hle hnine) (Char.not_le.2 hfirst)
  rcases Bool.or_eq_true_iff.1 h with hletter | hunderscore
  · rcases Bool.or_eq_true_iff.1 hletter with hupper | hlower
    · exact hbeyond 'A' (by decide) (of_decide_eq_true hupper).1
    · exact hbeyond 'a' (by decide) (of_decide_eq_true (Bool.and_eq_true_iff.1 hlower).1)
  · obtain rfl : c = '_' := by simpa using hunderscore
    exact hbeyond '_' (by decide) (Char.le_refl _)

theorem isConditionChar_of_isPart {c : Char} (h : Name.isPart c = true) :
    isConditionChar c = true := by
  rcases Bool.or_eq_true_iff.1 h with halphanum | hunderscore
  · simp [isConditionChar, halphanum]
  · obtain rfl : c = '_' := by simpa using hunderscore
    decide

/-- The characters of conditions between names and places. -/
def isSign (c : Char) : Bool :=
  isConditionChar c && c != '$' && !isDigit c

/-- A text that can stand in a condition: of the characters of conditions, and with no digit in
front that would lengthen a placeholder before it. -/
structure Stands (text : String) (places : List Nat) : Prop where
  chars : ∀ c ∈ text.toList, isConditionChar c = true
  head : ∀ c ∈ text.toList.head?, isDigit c = false
  placeholders : placeholdersIn text.toList = places.map placeholder

namespace Stands

variable {one two : String} {places others : List Nat}

theorem append (hone : Stands one places) (htwo : Stands two others) :
    Stands (one ++ two) (places ++ others) := by
  refine ⟨fun c hc => ?_, fun c hc => ?_, ?_⟩
  · rw [String.toList_append] at hc
    rcases List.mem_append.1 hc with hc | hc
    · exact hone.chars c hc
    · exact htwo.chars c hc
  · rw [String.toList_append, List.head?_append] at hc
    cases hhead : one.toList.head? with
    | none =>
        rw [hhead] at hc
        exact htwo.head c hc
    | some first =>
        rw [hhead] at hc
        exact hone.head c (hhead ▸ hc)
  · rw [String.toList_append, placeholdersIn_append htwo.head, hone.placeholders,
      htwo.placeholders, List.map_append]

theorem of_forall_ne {text : String}
    (hchars : ∀ c ∈ text.toList, isConditionChar c = true ∧ c ≠ '$')
    (hhead : ∀ c ∈ text.toList.head?, isDigit c = false) : Stands text [] :=
  ⟨fun c hc => (hchars c hc).1, hhead, placeholdersIn_of_forall_ne fun c hc => (hchars c hc).2⟩

theorem sign {text : String} (h : text.toList.all isSign = true) : Stands text [] := by
  have hsign : ∀ c ∈ text.toList, (isConditionChar c = true ∧ c ≠ '$') ∧ isDigit c = false := by
    simpa [isSign] using h
  refine of_forall_ne (fun c hc => (hsign c hc).1) fun c hc => ?_
  exact (hsign c (List.mem_of_mem_head? hc)).2

theorem name {name : String} (hname : Name.fault? name = none) : Stands name [] := by
  obtain ⟨first, rest, htext, hstart, hpart, -⟩ := Name.exists_of_fault?_eq_none hname
  refine of_forall_ne (fun c hc => ?_) (fun c hc => ?_)
  · have hc : Name.isPart c = true := hpart c (htext ▸ hc)
    refine ⟨isConditionChar_of_isPart hc, ?_⟩
    rintro rfl
    exact absurd hc (by decide)
  · obtain rfl : first = c := by simpa [htext] using hc
    exact isDigit_eq_false_of_isStart hstart

theorem placeholder (place : Nat) : Stands (placeholder place) [place] := by
  have htext : (RecordSearch.placeholder place).toList = '$' :: digits place := by
    simp [RecordSearch.placeholder, Number.decimal]
  refine ⟨fun c hc => ?_, fun c hc => ?_, placeholdersIn_placeholder place⟩
  · rw [htext] at hc
    rcases List.mem_cons.1 hc with rfl | hc
    · decide
    · have hdigit : c.isDigit = true := Number.isDigit_of_mem_digits hc
      simp [isConditionChar, Char.isAlphanum, hdigit]
  · obtain rfl : '$' = c := by simpa [htext] using hc
    decide

theorem operand : ∀ operand : Operand, operand.IsNamed → Stands operand.text operand.places
  | .column name => fun hnamed => .name hnamed
  | .parameter place => fun _ => .placeholder place
  | .null => fun _ => .sign rfl
  | .lower inner => fun hnamed => by
      have hopening : Stands "LOWER(" [] := .sign rfl
      have hclosing : Stands ")" [] := .sign rfl
      simpa [Operand.text, Operand.places] using
        (hopening.append (operand inner hnamed)).append hclosing

theorem between (hone : Stands one places) (htwo : Stands two others) {sign : String}
    (hsign : Stands sign []) : Stands (one ++ sign ++ two) (places ++ others) := by
  simpa using (hone.append hsign).append htwo

theorem brackets (hone : Stands one places) : Stands ("(" ++ one ++ ")") places := by
  have hopening : Stands "(" [] := .sign rfl
  have hclosing : Stands ")" [] := .sign rfl
  simpa using (hopening.append hone).append hclosing

theorem items : ∀ items : List Operand, (∀ item ∈ items, item.IsNamed) →
    Stands (", ".intercalate (items.map Operand.text)) (items.flatMap Operand.places)
  | [] => fun _ => .sign rfl
  | [item] => fun hnamed => by
      simpa using operand item (hnamed item (by simp))
  | item :: next :: rest => fun hnamed => by
      obtain ⟨hitem, hrest⟩ := List.forall_mem_cons.1 hnamed
      have hcomma : Stands ", " [] := .sign rfl
      rw [List.map_cons, List.map_cons, String.intercalate_cons_cons, ← List.map_cons,
        List.flatMap_cons]
      exact between (operand item hitem) (items (next :: rest) hrest) hcomma

theorem condition : ∀ condition : Condition, condition.IsReadable →
    Stands condition.text condition.places
  | .equal left right => fun ⟨hleft, hright⟩ =>
      between (operand left hleft) (operand right hright) (.sign rfl)
  | .atLeast left right => fun ⟨hleft, hright⟩ =>
      between (operand left hleft) (operand right hright) (.sign rfl)
  | .atMost left right => fun ⟨hleft, hright⟩ =>
      between (operand left hleft) (operand right hright) (.sign rfl)
  | .like left right => fun ⟨hleft, hright⟩ =>
      between (operand left hleft) (operand right hright) (.sign rfl)
  | .isIn left list => fun ⟨hleft, _, hitems⟩ => by
      have hin : Stands " IN (" [] := .sign rfl
      have hclosing : Stands ")" [] := .sign rfl
      have hlist := (between (operand left hleft) (items list hitems) hin).append hclosing
      simpa [Condition.text, Condition.places, String.append_assoc] using hlist
  | .isNull inner => fun hnamed => by
      have hisNull : Stands " IS NULL" [] := .sign rfl
      simpa [Condition.text, Condition.places] using (operand inner hnamed).append hisNull
  | .both left right => fun ⟨hleft, hright⟩ => by
      have hand : Stands " AND " [] := .sign rfl
      have hboth := between (condition left hleft) (condition right hright) hand
      simpa [Condition.text, Condition.places, String.append_assoc] using hboth.brackets
  | .either left right => fun ⟨hleft, hright⟩ => by
      have hor : Stands " OR " [] := .sign rfl
      have heither := between (condition left hleft) (condition right hright) hor
      simpa [Condition.text, Condition.places, String.append_assoc] using heither.brackets

theorem join : ∀ conditions : List Condition, (∀ condition ∈ conditions, condition.IsReadable) →
    Stands (String.join (conditions.map Condition.text)) (conditions.flatMap Condition.places)
  | [] => fun _ => .sign rfl
  | first :: rest => fun hreadable => by
      obtain ⟨hfirst, hrest⟩ := List.forall_mem_cons.1 hreadable
      rw [List.map_cons, String.join_cons, List.flatMap_cons]
      exact (condition first hfirst).append (join rest hrest)

end Stands

/-- **Values are bound and never written.** Predicates with valid columns are compiled over any
bindings. Their values are bound in order after those that are there, the placeholders of the
conditions are the places of these values from left to right, the conditions consist of characters
of conditions, and other predicates that differ in values alone have the same conditions, whatever
is bound before under whatever keys, if it is as much. -/
theorem compileAll_binds (predicates : List Predicate)
    (hnames : ∀ p ∈ predicates, Name.fault? p.column = none) (b : Bindings) :
    ∃ conditions b', compileAll b predicates = .ok (conditions, b') ∧
      b.Extends (boundValues predicates) b' ∧
      placeholdersIn (String.join (conditions.map Condition.text)).toList =
        (List.range' (b.size + 1) (boundValues predicates).length).map RecordSearch.placeholder ∧
      (∀ condition ∈ conditions, ∀ c ∈ condition.text.toList, isConditionChar c = true) ∧
      ∀ others c, List.Forall₂ Predicate.Alike predicates others → c.size = b.size →
        ∃ conditions' c', compileAll c others = .ok (conditions', c') ∧
          conditions'.map Condition.text = conditions.map Condition.text := by
  have hreadable := isReadable_conditionsAfter hnames b
  refine ⟨_, _, compileAll_of_fault? hnames b, ?_, ?_, ?_, ?_⟩
  · rw [← values_allRequests]
    exact b.extends_bindAll _
  · rw [(Stands.join _ hreadable).placeholders, places_conditionsAfter]
  · intro condition hcondition
    exact (Stands.condition condition (hreadable condition hcondition)).chars
  · intro others c halike hsize
    refine ⟨_, _, compileAll_of_fault? (fault?_of_alike halike hnames) c, ?_⟩
    rw [conditionsAfter_eq_of_alike halike hsize.symm]

def hostilePredicates : List Predicate := [
  ⟨"name", .like "x'); DROP TABLE r; -- $9" .contains, true⟩,
  ⟨"rank", .between (some (.integer 1)) (some (.integer 3)), false⟩]

theorem compileAll_binds_hostilePredicates :
    (∀ p ∈ hostilePredicates, Name.fault? p.column = none) ∧
    ∃ conditions b', compileAll (Bindings.empty.bind "name" (.text "$8")).2 hostilePredicates =
        .ok (conditions, b') ∧
      placeholdersIn (String.join (conditions.map Condition.text)).toList = ["$2", "$3", "$4"] := by
  have hnames : ∀ p ∈ hostilePredicates, Name.fault? p.column = none := by decide +kernel
  obtain ⟨conditions, b', hcompile, -, hplaceholders, -⟩ :=
    compileAll_binds hostilePredicates hnames (Bindings.empty.bind "name" (.text "$8")).2
  refine ⟨hnames, conditions, b', hcompile, hplaceholders.trans ?_⟩
  decide +kernel

end RecordSearch.Sql
