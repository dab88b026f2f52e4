import RecordSearch.Json.Printer

/-!
# The order of values as an order of keys

Values of two types are compared by their texts, and the first character of a text tells the type:
a quote, a digit or a sign, a bracket, a letter or a brace, which have their code points in this
order. So the order of values is the lexicographic order of keys: first the type, then the place of
a number or the text of any other value. This makes it transitive, which three orders for different
pairs of types need not be together.

A number that is not finite spoils it: JSON has no text for it, so it is written like null, while it
is compared with other numbers by its place. Values are taken to be finite here.
-/

namespace RecordSearch

open Number (Binary64)

theorem Number.exists_digits_eq_cons (n : Nat) :
    ∃ c cs, digits n = c :: cs ∧ isDigit c = true := by
  obtain ⟨c, cs, h⟩ := List.exists_cons_of_ne_nil (digits_ne_nil n)
  exact ⟨c, cs, h, isDigit_of_mem_digits (h ▸ List.mem_cons_self)⟩

theorem Number.exists_positional_eq_cons (d : Decimal) :
    ∃ c cs, positional d = c :: cs ∧ isDigit c = true := by
  obtain ⟨c, cs, h, hc⟩ := exists_digits_eq_cons d.digits
  unfold positional
  simp only [h]
  split
  · exact ⟨c, _, rfl, hc⟩
  · split
    · rename_i hplaces
      obtain ⟨kept, hkept⟩ : ∃ kept, (c :: cs).length - d.exponent.natAbs = kept + 1 :=
        Nat.exists_eq_add_one_of_ne_zero (by omega)
      rw [hkept, List.take_succ_cons]
      exact ⟨c, _, rfl, hc⟩
    · exact ⟨'0', _, rfl, rfl⟩

theorem Number.exists_compactLayout_eq_cons (d : Decimal) :
    ∃ c cs, compactLayout d = c :: cs ∧ isDigit c = true := by
  obtain ⟨c, cs, h, hc⟩ := exists_digits_eq_cons d.digits
  obtain ⟨c', cs', h', hc'⟩ := exists_positional_eq_cons d
  unfold compactLayout
  simp only [h, h']
  split
  · exact ⟨c', _, rfl, hc'⟩
  · split
    · exact ⟨c', _, rfl, hc'⟩
    · cases cs with
      | nil => exact ⟨c, _, rfl, hc⟩
      | cons c₂ cs => exact ⟨c, _, rfl, hc⟩

theorem Number.position?_ofInt_isSome (i : Int) : (Binary64.ofInt i).position?.isSome = true := by
  unfold Binary64.ofInt Binary64.ofRatio Binary64.ofUnits
  split
  · rfl
  · rfl

theorem Number.position?_isSome_of_json? {x : Binary64} (h : x.json?.isSome = true) :
    x.position?.isSome = true := by
  cases x with
  | nan => cases h
  | infinite negative => cases h
  | finite negative units => rfl

namespace Json

/-- The type of a value, in the order of the first characters of texts. -/
def rank : Json → Nat
  | .string _ => 0
  | .integer _ => 1
  | .float _ => 1
  | .array _ => 2
  | .null => 3
  | .bool _ => 3
  | .object _ => 4

/-- The type that the first character of a text tells. -/
def initialRank (c : Char) : Nat :=
  if c < '-' then 0
  else if c < '[' then 1
  else if c < 'a' then 2
  else if c < '\x7b' then 3
  else 4

/-- Whether a value is no infinity and no `nan`, which no value of JSON is. -/
def isFinite : Json → Bool
  | .float x => x.json?.isSome
  | _ => true

/-- The place of a number on the line of floating point numbers. -/
def place (a : Json) : Int :=
  (a.asFloat?.bind Binary64.position?).getD 0

/-- The text by which a value is compared with others of its type. -/
def sortText : Json → String
  | .string s => s
  | .integer _ => ""
  | .float _ => ""
  | a => a.render

def sortKey (a : Json) : Nat × Int × String :=
  (a.rank, a.place, a.sortText)

/-- The key of a member of a row, missing ones last. -/
def memberKey (a : Option Json) : Nat × Int × String :=
  ((a.filter (!·.isNull)).map sortKey).getD (5, 0, "")

def compareKeys : Nat × Int × String → Nat × Int × String → Ordering :=
  compareLex (compareOn (·.1)) (compareLex (compareOn (·.2.1)) (compareOn (·.2.2)))

instance : Std.TransCmp compareKeys := inferInstanceAs (Std.TransCmp (compareLex _ _))

section Keys

variable {k l : Nat × Int × String}

theorem compareKeys_of_lt (h : k.1 < l.1) : compareKeys k l = .lt := by
  simp [compareKeys, compareLex, compareOn, Nat.compare_eq_lt.2 h]

theorem compareKeys_of_gt (h : l.1 < k.1) : compareKeys k l = .gt := by
  simp [compareKeys, compareLex, compareOn, Nat.compare_eq_gt.2 h]

theorem compareKeys_of_eq (h : k.1 = l.1) :
    compareKeys k l = (compare k.2.1 l.2.1).then (compare k.2.2 l.2.2) := by
  simp [compareKeys, compareLex, compareOn, h]

end Keys

theorem initialRank_mono {c d : Char} (h : c ≤ d) : initialRank c ≤ initialRank d := by
  unfold initialRank
  grind

theorem initialRank_of_isDigit {c : Char} (h : Number.isDigit c = true) : initialRank c = 1 := by
  simp only [Number.isDigit, Bool.and_eq_true, decide_eq_true_eq] at h
  exact Nat.le_antisymm (initialRank_mono h.2) (initialRank_mono h.1)

theorem exists_render_eq_cons {a : Json} (ha : a.isFinite = true) :
    ∃ c cs, a.render.toList = c :: cs ∧ initialRank c = a.rank := by
  cases a with
  | null => exact ⟨'n', ['u', 'l', 'l'], rfl, rfl⟩
  | bool b =>
      cases b with
      | false => exact ⟨'f', ['a', 'l', 's', 'e'], rfl, rfl⟩
      | true => exact ⟨'t', ['r', 'u', 'e'], rfl, rfl⟩
  | integer i =>
      obtain ⟨c, cs, h, hc⟩ := Number.exists_digits_eq_cons i.natAbs
      simp only [render, Number.intDecimal, Number.intDigits, String.toList_ofList, h]
      split
      · exact ⟨'-', _, rfl, rfl⟩
      · exact ⟨c, cs, rfl, initialRank_of_isDigit hc⟩
  | float x =>
      cases x with
      | nan => cases ha
      | infinite negative => cases ha
      | finite negative units =>
          obtain ⟨c, cs, h, hc⟩ := Number.exists_compactLayout_eq_cons (.shortest .even units)
          simp only [render, Binary64.json?, Number.signed, Option.getD_some,
            String.toList_ofList, h]
          split
          · exact ⟨'-', _, rfl, rfl⟩
          · split
            · exact ⟨'0', _, rfl, rfl⟩
            · exact ⟨c, cs, rfl, initialRank_of_isDigit hc⟩
  | string s => exact ⟨'"', _, by simp [render, quote]; rfl, rfl⟩
  | array items => exact ⟨'[', _, by simp [render]; rfl, rfl⟩
  | object members => exact ⟨'\x7b', _, by simp [render]; rfl, rfl⟩

theorem compare_render_of_rank_lt {a b : Json} (ha : a.isFinite = true) (hb : b.isFinite = true)
    (h : a.rank < b.rank) : compare a.render b.render = .lt := by
  obtain ⟨c, cs, hrender, hc⟩ := exists_render_eq_cons ha
  obtain ⟨d, ds, hrender', hd⟩ := exists_render_eq_cons hb
  have hcd : c < d := by
    refine Char.not_le.1 fun hle => ?_
    have := initialRank_mono hle
    omega
  have hlt : a.render < b.render := by
    rw [String.lt_iff, hrender, hrender']
    exact List.Lex.rel hcd
  exact if_pos hlt

theorem rank_eq_one_of_asFloat? {a : Json} {x : Binary64} (h : a.asFloat? = some x) :
    a.rank = 1 := by
  cases a with
  | integer i => rfl
  | float x => rfl
  | _ => cases h

theorem comparePresent_of_rank_ne {a b : Json} (h : a.rank ≠ b.rank) :
    comparePresent a b = compare a.render b.render := by
  unfold comparePresent
  split
  · exact absurd rfl h
  · exact absurd rfl h
  · split
    · rename_i hx hy
      exact absurd ((rank_eq_one_of_asFloat? hx).trans (rank_eq_one_of_asFloat? hy).symm) h
    · rfl

theorem exists_asFloat?_eq_some {a : Json} (ha : a.isFinite = true) (hrank : a.rank = 1) :
    ∃ x, a.asFloat? = some x ∧ x.position? = some a.place := by
  obtain ⟨x, hx, hposition⟩ : ∃ x, a.asFloat? = some x ∧ x.position?.isSome = true := by
    cases a with
    | integer i => exact ⟨_, rfl, Number.position?_ofInt_isSome i⟩
    | float x => exact ⟨x, rfl, Number.position?_isSome_of_json? ha⟩
    | _ => cases hrank
  obtain ⟨position, hposition⟩ := Option.isSome_iff_exists.1 hposition
  exact ⟨x, hx, by simp [place, hx, hposition]⟩

theorem comparePresent_number {a b : Json} (ha : a.isFinite = true) (hb : b.isFinite = true)
    (hrank : a.rank = 1) (hrank' : b.rank = 1) :
    comparePresent a b = compare a.place b.place := by
  obtain ⟨x, hx, hplace⟩ := exists_asFloat?_eq_some ha hrank
  obtain ⟨y, hy, hplace'⟩ := exists_asFloat?_eq_some hb hrank'
  unfold comparePresent
  split
  · cases hrank
  · cases hrank
  · simp only [hx, hy, Binary64.compare?, hplace, hplace', Option.getD_some]

theorem place_eq_zero {a : Json} (h : a.rank ≠ 1) : a.place = 0 := by
  cases hx : a.asFloat? with
  | none => simp [place, hx]
  | some x => exact absurd (rank_eq_one_of_asFloat? hx) h

theorem sortText_eq_empty {a : Json} (h : a.rank = 1) : a.sortText = "" := by
  cases a with
  | integer i => rfl
  | float x => rfl
  | _ => cases h

theorem comparePresent_text {a b : Json} (hrank : a.rank = b.rank) (h : a.rank ≠ 1) :
    comparePresent a b = compare a.sortText b.sortText := by
  cases a with
  | string s => cases b with
    | string t => rfl
    | _ => cases hrank
  | array items => cases b with
    | array items' => rfl
    | _ => cases hrank
  | object members => cases b with
    | object members' => rfl
    | _ => cases hrank
  | null => cases b with
    | null => rfl
    | bool q => rfl
    | _ => cases hrank
  | bool p => cases b with
    | null => rfl
    | bool q => cases p <;> cases q <;> rfl
    | _ => cases hrank
  | integer i => exact absurd rfl h
  | float x => exact absurd rfl h

theorem comparePresent_eq {a b : Json} (ha : a.isFinite = true) (hb : b.isFinite = true) :
    comparePresent a b = compareKeys a.sortKey b.sortKey := by
  rcases Nat.lt_trichotomy a.rank b.rank with h | h | h
  · rw [compareKeys_of_lt h, comparePresent_of_rank_ne (Nat.ne_of_lt h)]
    exact compare_render_of_rank_lt ha hb h
  · rw [compareKeys_of_eq h]
    by_cases hnumber : a.rank = 1
    · have hnumber' : b.rank = 1 := h ▸ hnumber
      rw [comparePresent_number ha hb hnumber hnumber']
      simp [sortKey, sortText_eq_empty hnumber, sortText_eq_empty hnumber']
    · have hnumber' : b.rank ≠ 1 := h ▸ hnumber
      rw [comparePresent_text h hnumber]
      simp [sortKey, place_eq_zero hnumber, place_eq_zero hnumber']
  · rw [compareKeys_of_gt h, comparePresent_of_rank_ne (Nat.ne_of_gt h)]
    exact Std.OrientedCmp.gt_iff_lt.2 (compare_render_of_rank_lt hb ha h)

theorem rank_lt_five (a : Json) : a.rank < 5 := by
  cases a <;> simp [rank]

theorem compareFields_eq {a b : Option Json} (ha : ∀ value ∈ a, value.isFinite = true)
    (hb : ∀ value ∈ b, value.isFinite = true) :
    compareFields a b = compareKeys (memberKey a) (memberKey b) := by
  unfold compareFields memberKey
  cases hvalue : a.filter (!·.isNull) with
  | none => cases hvalue' : b.filter (!·.isNull) with
    | none => exact Std.ReflCmp.compare_self.symm
    | some value' => exact (compareKeys_of_gt (rank_lt_five value')).symm
  | some value => cases hvalue' : b.filter (!·.isNull) with
    | none => exact (compareKeys_of_lt (rank_lt_five value)).symm
    | some value' =>
        exact comparePresent_eq (ha _ (Option.eq_some_of_filter_eq_some hvalue))
          (hb _ (Option.eq_some_of_filter_eq_some hvalue'))

end Json

end RecordSearch
