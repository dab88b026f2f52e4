import RecordSearch.Proofs.Sql.Lexing

/-!
# Reading what was written

The grammar reads the tokens of a condition as this condition, whatever stands behind it. Compound
conditions are written in brackets, so that the rank of `AND` and `OR` never decides. A clause is
read as the conjunction of its conditions.
-/

namespace RecordSearch.Sql

/-- An operand is read back unless a bracket behind it makes it a function. -/
theorem readOperand?_tokens : ∀ (operand : Operand) {rest : List Token},
    rest.head? ≠ some .opening → readOperand? (operand.tokens ++ rest) = some (operand, rest)
  | .column name, rest => by
      intro hrest
      cases rest with
      | nil => rfl
      | cons token rest =>
          cases token with
          | opening => exact absurd rfl hrest
          | _ => rfl
  | .parameter place, rest => fun _ => rfl
  | .null, rest => fun _ => rfl
  | .lower inner, rest => by
      intro _
      have hinner : readOperand? (inner.tokens ++ .closing :: rest) =
          some (inner, .closing :: rest) := readOperand?_tokens inner (by simp)
      have hupper : upper "LOWER".toList = "LOWER" := by decide
      simp only [Operand.tokens, List.cons_append, List.append_assoc, List.nil_append,
        readOperand?, hupper, if_true, hinner]

theorem readItems?_tokens {rest : List Token} : ∀ {items : List Operand}, items ≠ [] →
    ∀ {fuel : Nat}, items.length ≤ fuel →
      readItems? fuel ([.comma].intercalate (items.map Operand.tokens) ++ .closing :: rest) =
        some (items, rest)
  | [item], _, fuel + 1, _ => by
      have hitem : readOperand? (item.tokens ++ .closing :: rest) = some (item, .closing :: rest) :=
        readOperand?_tokens item (by simp)
      simp [readItems?, hitem]
  | item :: next :: items, _, fuel + 1, hfuel => by
      have hlength : (next :: items).length ≤ fuel := by simpa using hfuel
      have hothers : readItems? fuel ([.comma].intercalate ((next :: items).map Operand.tokens) ++
          .closing :: rest) = some (next :: items, rest) :=
        readItems?_tokens (List.cons_ne_nil next items) hlength
      have hitem : ∀ back, readOperand? (item.tokens ++ .comma :: back) =
          some (item, .comma :: back) := fun back => readOperand?_tokens item (by simp)
      rw [List.map_cons] at hothers
      simp [readItems?, hitem, hothers, List.intercalate_cons_cons]

theorem length_le_length_intercalate (items : List Operand) :
    items.length ≤ ([.comma].intercalate (items.map Operand.tokens)).length + 1 := by
  induction items with
  | nil => simp
  | cons item items ih =>
      cases items with
      | nil => simp
      | cons next items =>
          simp only [List.map_cons, List.intercalate_cons_cons, List.length_append,
            List.length_cons, List.length_nil] at ih ⊢
          omega

section Levels

variable {fuel : Nat} {tokens rest : List Token} {left right condition : Condition}

theorem readConjunction?_of_primary (h : readPrimary? fuel tokens = some (condition, rest))
    (hrest : rest.head? ≠ some .and) :
    readConjunction? (fuel + 1) tokens = some (condition, rest) := by
  rw [readConjunction?, h]
  cases rest with
  | nil => rfl
  | cons token rest =>
      cases token with
      | and => exact absurd rfl hrest
      | _ => rfl

theorem readConjunction?_and (hleft : readPrimary? fuel tokens = some (left, .and :: rest))
    {behind : List Token} (hright : readConjunction? fuel rest = some (right, behind)) :
    readConjunction? (fuel + 1) tokens = some (.both left right, behind) := by
  rw [readConjunction?, hleft]
  simp [hright]

theorem readDisjunction?_of_conjunction
    (h : readConjunction? fuel tokens = some (condition, rest)) (hrest : rest.head? ≠ some .or) :
    readDisjunction? (fuel + 1) tokens = some (condition, rest) := by
  rw [readDisjunction?, h]
  cases rest with
  | nil => rfl
  | cons token rest =>
      cases token with
      | or => exact absurd rfl hrest
      | _ => rfl

theorem readDisjunction?_or (hleft : readConjunction? fuel tokens = some (left, .or :: rest))
    {behind : List Token} (hright : readDisjunction? fuel rest = some (right, behind)) :
    readDisjunction? (fuel + 1) tokens = some (.either left right, behind) := by
  rw [readDisjunction?, hleft]
  simp [hright]

theorem readPrimary?_brackets
    (h : readDisjunction? fuel tokens = some (condition, .closing :: rest)) :
    readPrimary? (fuel + 1) (.opening :: tokens) = some (condition, rest) := by
  rw [readPrimary?, h]

theorem readPrimary?_of_operand (operand : Operand) (rest : List Token) :
    readPrimary? (fuel + 1) (operand.tokens ++ rest) =
      readComparison? fuel (operand.tokens ++ rest) := by
  cases operand <;> simp [Operand.tokens, readPrimary?]

end Levels

/-- Reading a comparison comes down to reading what stands behind its first operand and sign. -/
theorem readPrimary?_comparison {fuel : Nat} (make : Operand → Operand → Condition) {sign : Token}
    (hsign : sign ≠ .opening) {left right : Operand} {rest : List Token}
    (hread : ∀ back, readOperand? (left.tokens ++ sign :: back) = some (left, sign :: back) →
      readComparison? fuel (left.tokens ++ sign :: back) = readRight? (make left) back)
    (hrest : rest.head? ≠ some .opening) :
    readPrimary? (fuel + 1) ((left.tokens ++ sign :: right.tokens) ++ rest) =
      some (make left right, rest) := by
  have hleft : ∀ back, readOperand? (left.tokens ++ sign :: back) = some (left, sign :: back) :=
    fun back => readOperand?_tokens left (by simpa using hsign)
  rw [List.append_assoc, readPrimary?_of_operand, List.cons_append, hread _ (hleft _), readRight?,
    readOperand?_tokens right hrest]
  rfl

/-- The tokens of a condition are read as this condition, and what stands behind them is left. Each
bracket leads three levels down, so the fuel is three times the number of tokens. -/
theorem readPrimary?_tokens : ∀ (condition : Condition) {rest : List Token} {fuel : Nat},
    condition.IsReadable → rest.head? ≠ some .opening → 3 * condition.tokens.length ≤ fuel →
    readPrimary? (fuel + 1) (condition.tokens ++ rest) = some (condition, rest)
  | .equal left right, rest, fuel => fun _ hrest _ =>
      readPrimary?_comparison .equal (by decide)
        (fun back hleft => by rw [readComparison?, hleft]) hrest
  | .atLeast left right, rest, fuel => fun _ hrest _ =>
      readPrimary?_comparison .atLeast (by decide)
        (fun back hleft => by rw [readComparison?, hleft]) hrest
  | .atMost left right, rest, fuel => fun _ hrest _ =>
      readPrimary?_comparison .atMost (by decide)
        (fun back hleft => by rw [readComparison?, hleft]) hrest
  | .like left right, rest, fuel => fun _ hrest _ =>
      readPrimary?_comparison .like (by decide)
        (fun back hleft => by rw [readComparison?, hleft]) hrest
  | .isIn left items, rest, fuel => by
      rintro ⟨-, hitems, -⟩ _ hfuel
      have hlength : items.length ≤ fuel := by
        have hcommas := length_le_length_intercalate items
        simp only [Condition.tokens, List.length_append, List.length_cons, List.length_nil] at hfuel
        omega
      have hleft : ∀ back, readOperand? (left.tokens ++ .isIn :: .opening :: back) =
          some (left, .isIn :: .opening :: back) := fun back => readOperand?_tokens left (by simp)
      rw [Condition.tokens, List.append_assoc, readPrimary?_of_operand]
      simp only [List.cons_append, List.append_assoc, List.nil_append, readComparison?, hleft,
        readItems?_tokens hitems hlength, Option.map_some]
  | .isNull operand, rest, fuel => fun _ _ _ => by
      have hoperand : readOperand? (operand.tokens ++ .is :: .null :: rest) =
          some (operand, .is :: .null :: rest) := readOperand?_tokens operand (by simp)
      rw [Condition.tokens, List.append_assoc, readPrimary?_of_operand]
      simp only [List.cons_append, List.nil_append, readComparison?, hoperand]
  | .both left right, rest, fuel => by
      rintro ⟨hleft, hright⟩ _ hfuel
      simp only [Condition.tokens, List.length_append, List.length_cons, List.length_nil] at hfuel
      obtain ⟨fuel, rfl⟩ : ∃ fewer, fuel = fewer + 4 := ⟨fuel - 4, by omega⟩
      have hfirst : readPrimary? (fuel + 2) (left.tokens ++ .and :: (right.tokens ++
          .closing :: rest)) = some (left, .and :: (right.tokens ++ .closing :: rest)) :=
        readPrimary?_tokens left hleft (by simp) (by omega)
      have hsecond : readPrimary? (fuel + 1) (right.tokens ++ .closing :: rest) =
          some (right, .closing :: rest) :=
        readPrimary?_tokens right hright (by simp) (by omega)
      have hboth := readConjunction?_and hfirst (readConjunction?_of_primary hsecond (by simp))
      have hread := readPrimary?_brackets (readDisjunction?_of_conjunction hboth (by simp))
      simpa [Condition.tokens] using hread
  | .either left right, rest, fuel => by
      rintro ⟨hleft, hright⟩ _ hfuel
      simp only [Condition.tokens, List.length_append, List.length_cons, List.length_nil] at hfuel
      obtain ⟨fuel, rfl⟩ : ∃ fewer, fuel = fewer + 4 := ⟨fuel - 4, by omega⟩
      have hfirst : readPrimary? (fuel + 2) (left.tokens ++ .or :: (right.tokens ++
          .closing :: rest)) = some (left, .or :: (right.tokens ++ .closing :: rest)) :=
        readPrimary?_tokens left hleft (by simp) (by omega)
      have hsecond : readPrimary? (fuel + 1) (right.tokens ++ .closing :: rest) =
          some (right, .closing :: rest) :=
        readPrimary?_tokens right hright (by simp) (by omega)
      have heither := readDisjunction?_or (readConjunction?_of_primary hfirst (by simp))
        (readDisjunction?_of_conjunction (readConjunction?_of_primary hsecond (by simp)) (by simp))
      have hread := readPrimary?_brackets heither
      simpa [Condition.tokens] using hread

/-- The conjunction of conditions, the first with that of the others. -/
def conjunction (first : Condition) : List Condition → Condition
  | [] => first
  | next :: rest => .both first (conjunction next rest)

theorem readPrimary?_bracketed {condition : Condition} (hreadable : condition.IsReadable)
    {rest : List Token} {fuel : Nat} (hfuel : 3 * condition.tokens.length + 4 ≤ fuel) :
    readPrimary? fuel (condition.bracketed ++ rest) = some (condition, rest) := by
  obtain ⟨fuel, rfl⟩ : ∃ fewer, fuel = fewer + 4 := ⟨fuel - 4, by omega⟩
  have hprimary : readPrimary? (fuel + 1) (condition.tokens ++ .closing :: rest) =
      some (condition, .closing :: rest) :=
    readPrimary?_tokens condition hreadable (by simp) (by omega)
  have hdisjunction := readDisjunction?_of_conjunction
    (readConjunction?_of_primary hprimary (by simp)) (by simp)
  have hread := readPrimary?_brackets hdisjunction
  simpa [Condition.bracketed] using hread

theorem readConjunction?_bracketed : ∀ (first : Condition) (rest : List Condition),
    (∀ condition ∈ first :: rest, condition.IsReadable) →
    ∀ {fuel : Nat},
      3 * ([.and].intercalate ((first :: rest).map Condition.bracketed)).length ≤ fuel →
      readConjunction? (fuel + 1)
          ([.and].intercalate ((first :: rest).map Condition.bracketed)) =
        some (conjunction first rest, [])
  | first, [] => by
      intro hreadable fuel hfuel
      simp only [List.map_cons, List.map_nil, List.intercalate_singleton, Condition.bracketed,
        List.length_cons, List.length_append, List.length_nil] at hfuel
      have hfirst : readPrimary? fuel (first.bracketed ++ []) = some (first, []) :=
        readPrimary?_bracketed (hreadable first (by simp)) (by omega)
      have hread := readConjunction?_of_primary hfirst (by simp)
      simpa [conjunction] using hread
  | first, next :: rest => by
      intro hreadable fuel hfuel
      obtain ⟨hfirst, hrest⟩ := List.forall_mem_cons.1 hreadable
      rw [List.map_cons, List.map_cons, List.intercalate_cons_cons, ← List.map_cons,
        List.append_assoc] at hfuel ⊢
      simp only [List.length_append, List.length_cons, List.length_nil, Condition.bracketed]
        at hfuel
      obtain ⟨fuel, rfl⟩ : ∃ fewer, fuel = fewer + 1 := ⟨fuel - 1, by omega⟩
      exact readConjunction?_and (readPrimary?_bracketed hfirst (by omega))
        (readConjunction?_bracketed next rest hrest (by omega))

/-- **Reading a clause back.** The text of a clause is read as the conjunction of its conditions. -/
theorem readWhere?_whereClause (first : Condition) (rest : List Condition)
    (hreadable : ∀ condition ∈ first :: rest, condition.IsReadable) :
    readWhere? (whereClause (first :: rest)) = some (some (conjunction first rest)) := by
  have hread : ∀ tokens, [.and].intercalate ((first :: rest).map Condition.bracketed) = tokens →
      readDisjunction? (3 * tokens.length + 3) tokens = some (conjunction first rest, []) := by
    rintro _ rfl
    exact readDisjunction?_of_conjunction
      (readConjunction?_bracketed first rest hreadable (Nat.le_succ _)) (by simp)
  rw [readWhere?, tokens?_whereClause hreadable]
  simp only [hread _ rfl]

/-- Without brackets `AND` would bind more tightly. -/
example : readWhere? "WHERE a = $1 OR b = $2 AND c IS NULL" =
    some (some (.either (.equal (.column "a") (.parameter 1))
      (.both (.equal (.column "b") (.parameter 2)) (.isNull (.column "c"))))) := by
  decide +kernel

end RecordSearch.Sql
