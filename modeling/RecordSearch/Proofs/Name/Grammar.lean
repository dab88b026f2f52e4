import Mathlib.Data.String.Basic
import RecordSearch.Name

/-!
# Which texts are names

A text is a name exactly if it consists of 1 to 63 ASCII letters, digits and underscores, does not
start with a digit, and is no reserved word in any case. A table name is such a name or two of them
with a dot between them. What is not a name is refused for the first of its faults, in a fixed order
of faults, and a table name for its schema before the rest. Whether a text is a name does not depend
on the case of its letters.
-/

namespace RecordSearch

namespace Name

/-- Whether two texts are the same but for the case of ASCII letters. -/
def SameLetters (text other : String) : Prop :=
  text.toList.map Char.toLower = other.toList.map Char.toLower

structure IsIdentifier (text : String) : Prop where
  one_le_length : 1 ≤ text.length
  length_le : text.length ≤ 63
  chars : ∀ c ∈ text.toList, c.isAlphanum = true ∨ c = '_'
  start : ∀ c ∈ text.toList.head?, c.isDigit = false
  free : ∀ word ∈ reservedWords, ¬ SameLetters text word

def IsTableIdentifier (text : String) : Prop :=
  IsIdentifier text ∨
    ∃ schema table, text = schema ++ "." ++ table ∧ IsIdentifier schema ∧ IsIdentifier table

/-- The faults of a text. -/
def HasFault (text : String) : NameFault → Prop
  | .empty => text = ""
  | .tooLong name => name = text ∧ 63 < text.utf8ByteSize
  | .badStart name => name = text ∧ ∃ c ∈ text.toList.head?, c.isAlpha = false ∧ c ≠ '_'
  | .badCharacter name => name = text ∧ ∃ c ∈ text.toList, c.isAlphanum = false ∧ c ≠ '_'
  | .reserved name => name = text ∧ ∃ word ∈ reservedWords, SameLetters text word

/-- The place of a fault in the order in which faults are looked for. -/
def rank : NameFault → Nat
  | .empty => 0
  | .tooLong _ => 1
  | .badStart _ => 2
  | .badCharacter _ => 3
  | .reserved _ => 4

def IsFirstFault (text : String) (fault : NameFault) : Prop :=
  HasFault text fault ∧ ∀ other, HasFault text other → rank fault ≤ rank other

/-- The first fault of a table name. What stands behind its first dot is looked at only if what
stands before it is a name. -/
def IsFirstTableFault (text : String) (fault : NameFault) : Prop :=
  ('.' ∉ text.toList ∧ IsFirstFault text fault) ∨
    ∃ schema table, text = schema ++ "." ++ table ∧ '.' ∉ schema.toList ∧
      (IsFirstFault schema fault ∨ IsIdentifier schema ∧ IsFirstFault table fault)

/-! ### Characters -/

section Char

variable {c : Char}

theorem isUpper_iff : c.isUpper = true ↔ 65 ≤ c.toNat ∧ c.toNat ≤ 90 := by
  have hupper : c.isUpper = decide (c.val ≥ 'A'.val ∧ c.val ≤ 'Z'.val) := rfl
  simp [hupper, UInt32.le_iff_toNat_le]

theorem isLower_iff : c.isLower = true ↔ 97 ≤ c.toNat ∧ c.toNat ≤ 122 := by
  have hlower : c.isLower = (decide (c.val ≥ 'a'.val) && decide (c.val ≤ 'z'.val)) := rfl
  simp [hlower, UInt32.le_iff_toNat_le]

theorem isAlpha_iff :
    c.isAlpha = true ↔ (65 ≤ c.toNat ∧ c.toNat ≤ 90) ∨ (97 ≤ c.toNat ∧ c.toNat ≤ 122) := by
  have halpha : c.isAlpha = (c.isUpper || c.isLower) := rfl
  rw [halpha, Bool.or_eq_true, isUpper_iff, isLower_iff]

/-- The library has this with the characters in place of their codes. -/
theorem isDigit_iff : c.isDigit = true ↔ 48 ≤ c.toNat ∧ c.toNat ≤ 57 :=
  Char.isDigit_iff_toNat

theorem toNat_toLower (c : Char) :
    c.toLower.toNat = if 65 ≤ c.toNat ∧ c.toNat ≤ 90 then c.toNat + 32 else c.toNat := by
  by_cases hrange : 65 ≤ c.toNat ∧ c.toNat ≤ 90
  · have hupper : c.val ≥ 'A'.val ∧ c.val ≤ 'Z'.val := by
      simpa [UInt32.le_iff_toNat_le] using hrange
    have hshifted : c.toLower.val = c.val + ('a'.val - 'A'.val) := by
      delta Char.toLower
      rw [dif_pos hupper]
    have hshift : ('a'.val - 'A'.val).toNat = 32 := rfl
    rw [← Char.toNat_val, hshifted, if_pos hrange, UInt32.toNat_add, hshift, Char.toNat_val]
    omega
  · have hupper : ¬ (c.val ≥ 'A'.val ∧ c.val ≤ 'Z'.val) := by
      simpa [UInt32.le_iff_toNat_le] using hrange
    have hsame : c.toLower = c := dif_neg hupper
    rw [hsame, if_neg hrange]

theorem toNat_toUpper (c : Char) :
    c.toUpper.toNat = if 97 ≤ c.toNat ∧ c.toNat ≤ 122 then c.toNat - 32 else c.toNat := by
  by_cases hrange : 97 ≤ c.toNat ∧ c.toNat ≤ 122
  · have hlower : 'a'.val ≤ c.val ∧ c.val ≤ 'z'.val := by
      simpa [UInt32.le_iff_toNat_le] using hrange
    have hshifted : c.toUpper.val = c.val + ('A'.val - 'a'.val) := by
      delta Char.toUpper
      rw [dif_pos hlower]
    have hshift : ('A'.val - 'a'.val).toNat = 4294967264 := rfl
    rw [← Char.toNat_val, hshifted, if_pos hrange, UInt32.toNat_add, hshift, Char.toNat_val]
    omega
  · have hlower : ¬ ('a'.val ≤ c.val ∧ c.val ≤ 'z'.val) := by
      simpa [UInt32.le_iff_toNat_le] using hrange
    have hsame : c.toUpper = c := dif_neg hlower
    rw [hsame, if_neg hrange]

-- The library's lemmas on the case of ASCII letters come with nothing less than all of Mathlib.
theorem toUpper_toLower (c : Char) : c.toLower.toUpper = c.toUpper := by
  rw [← Char.toNat_inj, toNat_toUpper, toNat_toUpper, toNat_toLower]
  split_ifs <;> omega

theorem toLower_toUpper (c : Char) : c.toUpper.toLower = c.toLower := by
  rw [← Char.toNat_inj, toNat_toLower, toNat_toLower, toNat_toUpper]
  split_ifs <;> omega

theorem toUpper_toUpper (c : Char) : c.toUpper.toUpper = c.toUpper := by
  rw [← Char.toNat_inj, toNat_toUpper, toNat_toUpper]
  split_ifs <;> omega

theorem isDigit_toLower (c : Char) : c.toLower.isDigit = c.isDigit := by
  rw [Bool.eq_iff_iff, isDigit_iff, isDigit_iff, toNat_toLower]
  split <;> omega

theorem isAlphanum_toLower (c : Char) : c.toLower.isAlphanum = c.isAlphanum := by
  have halpha : c.toLower.isAlpha = c.isAlpha := by
    rw [Bool.eq_iff_iff, isAlpha_iff, isAlpha_iff, toNat_toLower]
    split <;> omega
  rw [Char.isAlphanum, Char.isAlphanum, halpha, isDigit_toLower]

/-- Only letters have a lower case of their own. -/
theorem toLower_eq_iff {sign : Char} (hsign : sign.isAlpha = false) :
    c.toLower = sign ↔ c = sign := by
  rw [← Bool.not_eq_true, isAlpha_iff] at hsign
  rw [← Char.toNat_inj, ← Char.toNat_inj, toNat_toLower]
  split <;> omega

theorem toNat_lt_of_isAlphanum (h : c.isAlphanum = true ∨ c = '_') : c.toNat < 128 := by
  rcases h with h | rfl
  · rw [Char.isAlphanum, Bool.or_eq_true, isAlpha_iff, isDigit_iff] at h
    omega
  · decide

end Char

theorem sameLetters_iff {text other : String} :
    SameLetters text other ↔ text.toList.map Char.toUpper = other.toList.map Char.toUpper := by
  constructor
  · intro h
    have hupper := congrArg (List.map Char.toUpper) h
    simpa [Function.comp_def, toUpper_toLower] using hupper
  · intro h
    have hlower := congrArg (List.map Char.toLower) h
    simpa [SameLetters, Function.comp_def, toLower_toUpper] using hlower

theorem contains_reservedWords_iff {text : String} :
    reservedWords.contains (String.ofList (text.toList.map Char.toUpper)) = true ↔
      ∃ word ∈ reservedWords, SameLetters text word := by
  rw [List.contains_iff_mem]
  constructor
  · intro hmem
    refine ⟨_, hmem, sameLetters_iff.2 ?_⟩
    rw [String.toList_ofList, List.map_map]
    exact List.map_congr_left fun c _ => (toUpper_toUpper c).symm
  · rintro ⟨word, hmem, hsame⟩
    have hcapital : ∀ word ∈ reservedWords, word.toList.map Char.toUpper = word.toList := by
      decide +kernel
    rw [sameLetters_iff, hcapital word hmem] at hsame
    rwa [hsame, String.ofList_toList]

open Classical in
theorem fault?_eq (text : String) :
    fault? text =
      if HasFault text .empty then some .empty
      else if HasFault text (.tooLong text) then some (.tooLong text)
      else if HasFault text (.badStart text) then some (.badStart text)
      else if HasFault text (.badCharacter text) then some (.badCharacter text)
      else if HasFault text (.reserved text) then some (.reserved text)
      else none := by
  unfold fault?
  cases hchars : text.toList with
  | nil =>
    have hempty : HasFault text .empty := String.toList_eq_nil_iff.1 hchars
    rw [if_pos hempty]
  | cons first rest =>
    have hempty : ¬ HasFault text .empty := by
      rintro rfl
      cases hchars
    have hlong : HasFault text (.tooLong text) ↔ maxLength < text.utf8ByteSize := by
      simp [HasFault, maxLength]
    have hstart : HasFault text (.badStart text) ↔ (!isStart first) = true := by
      simp [HasFault, hchars, isStart]
    have hpart : HasFault text (.badCharacter text) ↔ (!(first :: rest).all isPart) = true := by
      simp [HasFault, hchars, isPart]
    have hword : HasFault text (.reserved text) ↔
        reservedWords.contains (String.ofList ((first :: rest).map Char.toUpper)) = true := by
      rw [← hchars, contains_reservedWords_iff]
      simp [HasFault]
    simp only [hempty, hlong, hstart, hpart, hword, if_false]

theorem eq_of_hasFault {text : String} {fault : NameFault} (h : HasFault text fault) :
    fault = .empty ∨ fault = .tooLong text ∨ fault = .badStart text ∨
      fault = .badCharacter text ∨ fault = .reserved text := by
  cases fault with
  | empty => exact .inl rfl
  | tooLong name => exact .inr (.inl (by rw [h.1]))
  | badStart name => exact .inr (.inr (.inl (by rw [h.1])))
  | badCharacter name => exact .inr (.inr (.inr (.inl (by rw [h.1]))))
  | reserved name => exact .inr (.inr (.inr (.inr (by rw [h.1]))))

theorem isFirstFault_of_fault?_eq_some {text : String} {fault : NameFault}
    (h : fault? text = some fault) : IsFirstFault text fault := by
  rw [fault?_eq] at h
  -- a branch is reached past the tests for all faults of a lower rank
  split_ifs at h with hempty hlong hstart hpart hword <;> cases h <;>
    refine ⟨‹_›, fun other hother => ?_⟩ <;>
    rcases eq_of_hasFault hother with rfl | rfl | rfl | rfl | rfl <;>
    first | exact absurd hother ‹_› | simp [rank]

theorem not_hasFault_of_fault?_eq_none {text : String} (h : fault? text = none)
    (fault : NameFault) : ¬ HasFault text fault := by
  intro hfault
  rw [fault?_eq] at h
  split_ifs at h with hempty hlong hstart hpart hword
  rcases eq_of_hasFault hfault with rfl | rfl | rfl | rfl | rfl <;> exact absurd hfault ‹_›

theorem isFirstFault_unique {text : String} {fault other : NameFault}
    (hfault : IsFirstFault text fault) (hother : IsFirstFault text other) : fault = other := by
  have hrank : rank fault = rank other :=
    Nat.le_antisymm (hfault.2 other hother.1) (hother.2 fault hfault.1)
  rcases eq_of_hasFault hfault.1 with rfl | rfl | rfl | rfl | rfl <;>
    rcases eq_of_hasFault hother.1 with rfl | rfl | rfl | rfl | rfl <;>
    first | rfl | cases hrank

theorem fault?_eq_some_iff {text : String} {fault : NameFault} :
    fault? text = some fault ↔ IsFirstFault text fault := by
  refine ⟨isFirstFault_of_fault?_eq_some, fun hfirst => ?_⟩
  cases hfault : fault? text with
  | none => exact absurd hfirst.1 (not_hasFault_of_fault?_eq_none hfault fault)
  | some other => rw [isFirstFault_unique hfirst (isFirstFault_of_fault?_eq_some hfault)]

theorem utf8ByteSize_eq_length {text : String} (h : ∀ c ∈ text.toList, c.toNat < 128) :
    text.utf8ByteSize = text.length := by
  have hlen : ∀ chars : List Char, (∀ c ∈ chars, c.toNat < 128) →
      String.utf8Len chars = chars.length := by
    intro chars
    induction chars with
    | nil => intro _; rfl
    | cons c rest ih =>
      intro hchars
      obtain ⟨hc, hrest⟩ := List.forall_mem_cons.1 hchars
      have hone : c.utf8Size = 1 :=
        Char.utf8Size_eq_one_iff.2 (UInt32.le_iff_toNat_le.2 (Nat.le_of_lt_succ hc))
      rw [String.utf8Len_cons, ih hrest, hone, List.length_cons]
  rw [← String.utf8Len_toList, hlen _ h, String.length_toList]

theorem isIdentifier_iff {text : String} :
    IsIdentifier text ↔ ∀ fault, ¬ HasFault text fault := by
  constructor
  · intro h fault hfault
    cases fault with
    | empty =>
      have hlength := h.one_le_length
      rw [show text = "" from hfault] at hlength
      exact absurd hlength (by decide)
    | tooLong name =>
      have hsize := utf8ByteSize_eq_length fun c hc => toNat_lt_of_isAlphanum (h.chars c hc)
      have hlong := hfault.2
      have hlength := h.length_le
      omega
    | badStart name =>
      obtain ⟨-, c, hhead, halpha, hunderscore⟩ := hfault
      rcases h.chars c (List.mem_of_mem_head? hhead) with halnum | rfl
      · rw [Char.isAlphanum, halpha, h.start c hhead] at halnum
        cases halnum
      · exact hunderscore rfl
    | badCharacter name =>
      obtain ⟨-, c, hc, halnum, hunderscore⟩ := hfault
      rcases h.chars c hc with htrue | rfl
      · rw [halnum] at htrue
        cases htrue
      · exact hunderscore rfl
    | reserved name =>
      obtain ⟨-, word, hword, hsame⟩ := hfault
      exact h.free word hword hsame
  · intro h
    have hchars : ∀ c ∈ text.toList, c.isAlphanum = true ∨ c = '_' := by
      intro c hc
      by_contra hbad
      rw [not_or, Bool.not_eq_true] at hbad
      exact h (.badCharacter text) ⟨rfl, c, hc, hbad⟩
    have hsize := utf8ByteSize_eq_length fun c hc => toNat_lt_of_isAlphanum (hchars c hc)
    refine ⟨?_, ?_, hchars, ?_, ?_⟩
    · by_contra hshort
      exact h .empty (String.length_eq_zero_iff.1 (by omega))
    · by_contra hlong
      exact h (.tooLong text) ⟨rfl, by omega⟩
    · intro c hhead
      by_contra hdigit
      have hrange := isDigit_iff.1 (Bool.not_eq_false _ ▸ hdigit)
      refine h (.badStart text) ⟨rfl, c, hhead, ?_, ?_⟩
      · rw [← Bool.not_eq_true, isAlpha_iff]
        omega
      · rintro rfl
        exact absurd hrange (by decide)
    · intro word hword hsame
      exact h (.reserved text) ⟨rfl, word, hword, hsame⟩

theorem fault?_eq_none_iff {text : String} : fault? text = none ↔ IsIdentifier text := by
  rw [isIdentifier_iff]
  refine ⟨not_hasFault_of_fault?_eq_none, fun h => Option.eq_none_iff_forall_not_mem.2 ?_⟩
  intro fault hfault
  exact h fault (fault?_eq_some_iff.1 hfault).1

theorem IsIdentifier.dotless {text : String} (h : IsIdentifier text) : '.' ∉ text.toList :=
  fun hdot => absurd (h.chars '.' hdot) (by decide)

theorem tableFault?_eq_none_iff {text : String} :
    tableFault? text = none ↔ IsTableIdentifier text := by
  constructor
  · intro h
    rcases exists_of_tableFault?_eq_none h with hname | ⟨schema, table, htext, hschema, htable⟩
    · exact .inl (fault?_eq_none_iff.1 hname)
    · exact .inr ⟨schema, table, htext, fault?_eq_none_iff.1 hschema, fault?_eq_none_iff.1 htable⟩
  · rintro (hname | ⟨schema, table, rfl, hschema, htable⟩)
    · rw [tableFault?_of_not_mem hname.dotless, fault?_eq_none_iff.2 hname]
    · rw [tableFault?_append_dot hschema.dotless, fault?_eq_none_iff.2 hschema,
        fault?_eq_none_iff.2 htable]
      rfl

theorem tableFault?_eq_some_iff {text : String} {fault : NameFault} :
    tableFault? text = some fault ↔ IsFirstTableFault text fault := by
  constructor
  · intro h
    rcases dotless_or_exists text with hdot | ⟨schema, table, hdot, rfl⟩
    · rw [tableFault?_of_not_mem hdot] at h
      exact .inl ⟨hdot, fault?_eq_some_iff.1 h⟩
    · rw [tableFault?_append_dot hdot, Option.or_eq_some_iff, fault?_eq_some_iff,
        fault?_eq_some_iff, fault?_eq_none_iff] at h
      exact .inr ⟨schema, table, rfl, hdot, h⟩
  · rintro (⟨hdot, hfirst⟩ | ⟨schema, table, rfl, hdot, hfirst⟩)
    · rw [tableFault?_of_not_mem hdot, fault?_eq_some_iff.2 hfirst]
    · rw [tableFault?_append_dot hdot, Option.or_eq_some_iff, fault?_eq_some_iff,
        fault?_eq_some_iff, fault?_eq_none_iff]
      exact hfirst

example : tableFault? "a.b.c" = some (.badCharacter "b.c") := by decide +kernel

/-! ### The case of letters -/

section SameLetters

variable {text other : String}

theorem SameLetters.symm (h : SameLetters text other) : SameLetters other text :=
  Eq.symm h

theorem SameLetters.isIdentifier (h : SameLetters text other) (hname : IsIdentifier text) :
    IsIdentifier other := by
  have hlength : text.length = other.length := by
    rw [← String.length_toList, ← String.length_toList]
    simpa only [List.length_map] using congrArg List.length h
  have hmatch : ∀ c ∈ other.toList, ∃ d ∈ text.toList, d.toLower = c.toLower := by
    intro c hc
    have hlower : c.toLower ∈ text.toList.map Char.toLower := by
      rw [show text.toList.map Char.toLower = _ from h]
      exact List.mem_map_of_mem hc
    exact List.mem_map.1 hlower
  refine ⟨hlength ▸ hname.one_le_length, hlength ▸ hname.length_le, ?_, ?_, ?_⟩
  · intro c hc
    obtain ⟨d, hd, hlower⟩ := hmatch c hc
    refine (hname.chars d hd).imp (fun halnum => ?_) (fun hunderscore => ?_)
    · rw [← isAlphanum_toLower, ← hlower, isAlphanum_toLower, halnum]
    · rw [← toLower_eq_iff (by decide), ← hlower, hunderscore]
      decide
  · intro c hc
    have hhead := congrArg List.head? (show text.toList.map Char.toLower = _ from h)
    rw [List.head?_map, List.head?_map, hc] at hhead
    obtain ⟨d, hd, hlower⟩ := Option.map_eq_some_iff.1 hhead
    rw [← isDigit_toLower, ← hlower, isDigit_toLower, hname.start d hd]
  · intro word hword hsame
    exact hname.free word hword (Eq.trans h hsame)

theorem SameLetters.isTableIdentifier (h : SameLetters text other)
    (hname : IsTableIdentifier text) : IsTableIdentifier other := by
  rcases hname with hname | ⟨schema, table, rfl, hschema, htable⟩
  · exact .inl (h.isIdentifier hname)
  · have hchars : other.toList.map Char.toLower =
        schema.toList.map Char.toLower ++ '.' :: table.toList.map Char.toLower := by
      rw [← show _ = other.toList.map Char.toLower from h]
      simp
    obtain ⟨front, back, hother, hfront, hback⟩ := List.map_eq_append_iff.1 hchars
    obtain ⟨dot, rest, rfl, hdot, hrest⟩ := List.map_eq_cons_iff.1 hback
    rw [toLower_eq_iff (by decide)] at hdot
    subst hdot
    refine .inr ⟨.ofList front, .ofList rest, ?_, ?_, ?_⟩
    · rw [← String.toList_inj, hother]
      simp
    · refine SameLetters.isIdentifier ?_ hschema
      rw [SameLetters, String.toList_ofList, hfront]
    · refine SameLetters.isIdentifier ?_ htable
      rw [SameLetters, String.toList_ofList, hrest]

end SameLetters

/-! ### What stands in a name -/

/-- The signs that could end or change the statement a name stands in. -/
def unsafeSigns : List Char :=
  ['\'', '"', '`', ' ', ';', '(', ')', '$']

theorem IsTableIdentifier.chars {text : String} (h : IsTableIdentifier text) :
    ∀ c ∈ text.toList, (c.isAlphanum = true ∨ c = '_') ∨ c = '.' := by
  rcases h with hname | ⟨schema, table, rfl, hschema, htable⟩
  · exact fun c hc => .inl (hname.chars c hc)
  · intro c hc
    simp only [String.toList_append, List.mem_append] at hc
    rcases hc with (hc | hc) | hc
    · exact .inl (hschema.chars c hc)
    · exact .inr (List.mem_singleton.1 hc)
    · exact .inl (htable.chars c hc)

theorem IsTableIdentifier.harmless {text : String} (h : IsTableIdentifier text) :
    ∀ c ∈ text.toList, c.toNat < 128 ∧ c ∉ unsafeSigns := by
  have hsigns : ∀ c ∈ unsafeSigns, c.isAlphanum = false ∧ c ≠ '_' ∧ c ≠ '.' := by
    simp [unsafeSigns]
  intro c hc
  rcases h.chars c hc with hpart | rfl
  · refine ⟨toNat_lt_of_isAlphanum hpart, fun hsign => ?_⟩
    obtain ⟨halnum, hunderscore, -⟩ := hsigns c hsign
    rw [halnum] at hpart
    exact hunderscore (hpart.resolve_left Bool.false_ne_true)
  · decide

/-! ### The check of names -/

theorem isOk_fieldName_check_iff {text : String} :
    (FieldName.check text).isOk = true ↔ IsIdentifier text := by
  rw [← fault?_eq_none_iff]
  cases h : fault? text with
  | none => simp [FieldName.check_of_fault? h, Except.isOk, Except.toBool]
  | some fault => simp [FieldName.check_of_fault?_eq_some h, Except.isOk, Except.toBool]

theorem isOk_tableName_check_iff {text : String} :
    (TableName.check text).isOk = true ↔ IsTableIdentifier text := by
  rw [← tableFault?_eq_none_iff]
  cases h : tableFault? text with
  | none => simp [TableName.check_of_tableFault? h, Except.isOk, Except.toBool]
  | some fault => simp [TableName.check_of_tableFault?_eq_some h, Except.isOk, Except.toBool]

theorem fieldName_check_eq_error_iff {text : String} {fault : NameFault} :
    FieldName.check text = .error fault ↔ IsFirstFault text fault := by
  rw [← fault?_eq_some_iff]
  cases h : fault? text with
  | none => simp [FieldName.check_of_fault? h]
  | some found => simp [FieldName.check_of_fault?_eq_some h]

theorem tableName_check_eq_error_iff {text : String} {fault : NameFault} :
    TableName.check text = .error fault ↔ IsFirstTableFault text fault := by
  rw [← tableFault?_eq_some_iff]
  cases h : tableFault? text with
  | none => simp [TableName.check_of_tableFault? h]
  | some found => simp [TableName.check_of_tableFault?_eq_some h]

/-- **The grammar of names.** A text is taken as a name of a column, or of a table, exactly if it is
one by the grammar, and is then kept as it is. What is refused is refused for its first fault. So no
sign that could end a name in a statement stands in a name that was taken, and the case of letters
does not decide whether a name is taken. -/
theorem check_iff_grammar (text : String) :
    ((FieldName.check text).isOk = true ↔ IsIdentifier text) ∧
    ((TableName.check text).isOk = true ↔ IsTableIdentifier text) ∧
    (∀ name, FieldName.check text = .ok name → name.text = text) ∧
    (∀ name, TableName.check text = .ok name → name.text = text) ∧
    (∀ fault, FieldName.check text = .error fault ↔ IsFirstFault text fault) ∧
    (∀ fault, TableName.check text = .error fault ↔ IsFirstTableFault text fault) ∧
    ((FieldName.check text).isOk = true ∨ (TableName.check text).isOk = true →
      ∀ c ∈ text.toList, c.toNat < 128 ∧ c ∉ unsafeSigns) ∧
    (∀ other, SameLetters text other →
      (FieldName.check text).isOk = (FieldName.check other).isOk ∧
        (TableName.check text).isOk = (TableName.check other).isOk) := by
  refine ⟨isOk_fieldName_check_iff, isOk_tableName_check_iff, fun _ => FieldName.text_of_check,
    fun _ => TableName.text_of_check, fun _ => fieldName_check_eq_error_iff,
    fun _ => tableName_check_eq_error_iff, ?_, fun other hsame => ⟨?_, ?_⟩⟩
  · rintro (hfield | htable)
    · exact IsTableIdentifier.harmless (.inl (isOk_fieldName_check_iff.1 hfield))
    · exact (isOk_tableName_check_iff.1 htable).harmless
  · rw [Bool.eq_iff_iff, isOk_fieldName_check_iff, isOk_fieldName_check_iff]
    exact ⟨hsame.isIdentifier, hsame.symm.isIdentifier⟩
  · rw [Bool.eq_iff_iff, isOk_tableName_check_iff, isOk_tableName_check_iff]
    exact ⟨hsame.isTableIdentifier, hsame.symm.isTableIdentifier⟩

end Name

end RecordSearch
