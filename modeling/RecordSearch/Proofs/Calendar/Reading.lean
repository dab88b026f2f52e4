import RecordSearch.Calendar.Reader
import RecordSearch.Proofs.Number.Width

/-!
# Dates and instants read back

A number with zeros in front is read by a reader that may take as many digits as it has, whatever
comes after it. The texts of dates and instants of the years 0 to 9999 are made of such numbers and
the marks between them, and so they are read as what they were written from. A leap second is
written as the second 60 of its minute.
-/

namespace RecordSearch.Calendar

open Number
open Text (dropBlanks isBlank)

section Readers

variable {least width n : Nat}

theorem exists_padded_eq_cons (width n : Nat) :
    ∃ c cs, padded width n = c :: cs ∧ isDigit c = true := by
  cases hpadded : padded width n with
  | nil => exact absurd (List.append_eq_nil_iff.1 hpadded).2 (digits_ne_nil n)
  | cons c cs =>
      have hmem : c ∈ padded width n := by simp [hpadded]
      exact ⟨c, cs, rfl, isDigit_of_mem_padded hmem⟩

theorem isBlank_of_isDigit {c : Char} (h : isDigit c = true) : isBlank c = false := by
  obtain ⟨hlow, hhigh⟩ := toNat_of_isDigit h
  simp [isBlank]
  omega

theorem dropBlanks_padded (rest : List Char) :
    dropBlanks (padded width n ++ rest) = padded width n ++ rest := by
  obtain ⟨c, cs, hpadded, hc⟩ := exists_padded_eq_cons width n
  rw [hpadded, List.cons_append, dropBlanks, List.dropWhile_cons_of_neg]
  simp [isBlank_of_isDigit hc]

/-- A reader that may take as many digits as a number has takes just these. -/
theorem readDigits_padded (hn : n < 10 ^ width) (hwidth : 0 < width) (hleast : least ≤ width)
    (rest : List Char) : readDigits least width (padded width n ++ rest) = some (n, rest) := by
  have hlength := length_padded hn hwidth
  have hdigits : (padded width n).takeWhile isDigit = padded width n := by
    have hall : (padded width n ++ []).takeWhile isDigit = padded width n ++ [].takeWhile isDigit :=
      List.takeWhile_append_of_pos fun c hc => isDigit_of_mem_padded hc
    rwa [List.takeWhile_nil, List.append_nil] at hall
  simp only [readDigits, List.take_left' hlength, hdigits, hlength, Nat.not_lt.2 hleast, if_false,
    ofDigits_padded, List.drop_left' hlength]

theorem bind_of_some {α β : Type} {x : Option α} {a : α} (h : x = some a) (f : α → Option β) :
    x >>= f = f a := by
  rw [h]
  rfl

theorem readMark_self (mark : Char) (rest : List Char) :
    readMark mark (mark :: rest) = some ((), rest) :=
  if_pos rfl

theorem readYear_padded (hn : n < 10 ^ 4) (rest : List Char) :
    readYear (padded 4 n ++ rest) = some ((n : Int), rest) := by
  have hread : readDigits 1 4 (padded 4 n ++ rest) = some (n, rest) :=
    readDigits_padded hn (by decide) (by decide) rest
  obtain ⟨c, cs, hpadded, hc⟩ := exists_padded_eq_cons 4 n
  rw [hpadded, List.cons_append] at hread ⊢
  unfold readYear
  -- The text starts with a digit, so the readers of signed years have no part in it.
  split
  · rename_i heq
    obtain ⟨rfl, -⟩ := List.cons.inj heq
    cases hc
  · rename_i heq
    obtain ⟨rfl, -⟩ := List.cons.inj heq
    cases hc
  · rw [hread]
    rfl

/-- The digits of a fraction are the first of nine places. -/
theorem readFraction_padded (hn : n < 10 ^ width) (hwidth : 0 < width) (hmost : width ≤ 9)
    {c : Char} (hc : isDigit c = false) (rest : List Char) :
    readFraction ('.' :: (padded width n ++ c :: rest)) =
      some (n * Nat.pow 10 (9 - width), c :: rest) := by
  have hlength := length_padded hn hwidth
  have hstop : ((c :: rest).take (9 - width)).takeWhile isDigit = [] := by
    cases 9 - width with
    | zero => rfl
    | succ k => rw [List.take_succ_cons, List.takeWhile_cons_of_neg (by simp [hc])]
  have hdigits : ((padded width n ++ c :: rest).take 9).takeWhile isDigit = padded width n := by
    rw [List.take_append, hlength, List.take_of_length_le (by omega),
      List.takeWhile_append_of_pos fun _ => isDigit_of_mem_padded, hstop, List.append_nil]
  have hnonempty : (padded width n).isEmpty = false := by
    rw [List.isEmpty_eq_false_iff, ← List.length_pos_iff, hlength]
    exact hwidth
  simp [readFraction, hdigits, hnonempty, hlength, ofDigits_padded, List.drop_left' hlength, hc]

theorem readFraction_fractionText {nano : Nat} (hnano : nano < 1000000000) {c : Char}
    (hc : isDigit c = false) (hpoint : c ≠ '.') (rest : List Char) :
    readFraction (Instant.fractionText nano ++ c :: rest) = some (nano, c :: rest) := by
  unfold Instant.fractionText
  split
  · simp_all [readFraction]
  · split
    · rw [List.cons_append, readFraction_padded (by omega) (by decide) (by decide) hc]
      simp
      omega
    · split
      · rw [List.cons_append, readFraction_padded (by omega) (by decide) (by decide) hc]
        simp
        omega
      · rw [List.cons_append, readFraction_padded (by omega) (by decide) (by decide) hc]
        simp

end Readers

namespace Date

/-- A day of the years that are written with four digits. -/
structure IsStored (date : Date) : Prop where
  valid : date.isValid = true
  year_nonneg : 0 ≤ date.year
  year_le : date.year ≤ 9999

variable {date : Date}

theorem IsStored.bounds (h : date.IsStored) :
    date.year.natAbs < 10 ^ 4 ∧ date.month < 10 ^ 2 ∧ date.day < 10 ^ 2 := by
  have hdays : daysInMonth date.year date.month ≤ 31 := by
    unfold daysInMonth
    split
    · split <;> decide
    · split <;> decide
  have hvalid := h.valid
  simp only [isValid, Bool.and_eq_true, decide_eq_true_eq] at hvalid
  have hyear := h.year_nonneg
  have hlast := h.year_le
  omega

theorem text_append (h : date.IsStored) (rest : List Char) :
    date.text ++ rest = padded 4 date.year.natAbs ++ '-' :: (padded 2 date.month ++
      '-' :: (padded 2 date.day ++ rest)) := by
  simp [text, yearText, h.year_nonneg, h.year_le]

theorem readDate_text (h : date.IsStored) (rest : List Char) :
    readDate id (date.text ++ rest) = some ((date.year, date.month, date.day), rest) := by
  obtain ⟨hyear, hmonth, hday⟩ := h.bounds
  rw [text_append h]
  simp only [readDate, dropBlanks_padded, readYear_padded hyear, id, readMark_self,
    readDigits_padded hmonth (by decide : 0 < 2) (by decide : 1 ≤ 2),
    readDigits_padded hday (by decide : 0 < 2) (by decide : 1 ≤ 2),
    Option.bind_eq_bind, Option.bind_some, Int.natAbs_of_nonneg h.year_nonneg]

theorem parse?_text (h : date.IsStored) : parse? (String.ofList date.text) = some date := by
  have hread := readDate_text h []
  rw [List.append_nil] at hread
  rw [parse?, String.toList_ofList, hread]
  simp [ofNumbers?, h.valid]

end Date

namespace Instant

/-- A time of the day, with a leap second at the end of a minute only. Every instant that a row's
text is read as has such a time (`isTime_of_parseLenient?`). -/
structure IsTime (t : Instant) : Prop where
  second_lt : t.second < 86400
  nano_lt : t.nano < 2000000000
  leap : 1000000000 ≤ t.nano → t.second % 60 = 59

/-- An instant of the years that are written with four digits. -/
structure IsStored (t : Instant) : Prop extends IsTime t where
  date : t.date.IsStored

variable {t : Instant}

/-- The second of its minute that an instant is written with, 60 for a leap second. -/
def writtenSecond (t : Instant) : Nat := t.second % 60 + t.nano / 1000000000

theorem ofLocal?_zero (hdate : t.date.isValid = true) (hsecond : t.second < 86400) :
    ofLocal? t.date t.second t.nano 0 = some t := by
  have hpast : ¬(t.second : Int) < 0 := by omega
  have hnext : ¬(secondsInDay : Int) ≤ t.second := by
    unfold secondsInDay
    omega
  simp only [ofLocal?, Int.sub_zero, if_neg hpast, if_neg hnext, Int.toNat_natCast, hdate, if_true]

/-- The numbers that an instant is written with make up the instant. -/
theorem ofNumbers?_written (h : t.IsStored) :
    ofNumbers? t.date.year t.date.month t.date.day (t.second / 3600) (t.second / 60 % 60)
      t.writtenSecond (t.nano % 1000000000) 0 = some t := by
  have hsecond := h.second_lt
  have hnano := h.nano_lt
  have hleap := h.leap
  have hdate : Date.ofNumbers? t.date.year t.date.month t.date.day = some t.date :=
    if_pos h.date.valid
  have hclock : ¬(24 ≤ t.second / 3600 ∨ 60 ≤ t.second / 60 % 60 ∨ 60 < t.writtenSecond ∨
      86400 ≤ (0 : Int).natAbs) := by
    unfold writtenSecond
    omega
  -- Second 60 is told as the second 59 with a whole second of nanoseconds more, as it was written.
  have hminute : (if t.writtenSecond = 60 then (59, t.nano % 1000000000 + 1000000000)
      else (t.writtenSecond, t.nano % 1000000000)) = (t.second % 60, t.nano) := by
    unfold writtenSecond
    split
    · apply Prod.ext <;> dsimp only <;> omega
    · apply Prod.ext <;> dsimp only <;> omega
  have hday : t.second / 3600 * 3600 + t.second / 60 % 60 * 60 + t.second % 60 = t.second := by
    omega
  rw [ofNumbers?, hdate, Option.bind_eq_bind, Option.bind_some, if_neg hclock]
  simp only [hminute, hday]
  exact ofLocal?_zero h.date.valid hsecond

theorem parseStrict?_jsonText (h : t.IsStored) : parseStrict? t.jsonText = some t := by
  obtain ⟨hyear, hmonth, hday⟩ := h.date.bounds
  have hhour : t.second / 3600 < 10 ^ 2 := by have := h.second_lt; omega
  have hminute : t.second / 60 % 60 < 10 ^ 2 := by omega
  have hsecond : t.writtenSecond < 10 ^ 2 := by have := h.nano_lt; unfold writtenSecond; omega
  have hfraction := readFraction_fractionText (Nat.mod_lt t.nano (by decide : 0 < 1000000000))
    (by decide : isDigit 'Z' = false) (by decide) []
  have htext : t.jsonText.toList = padded 4 t.date.year.natAbs ++ '-' :: (padded 2 t.date.month ++
      '-' :: (padded 2 t.date.day ++ 'T' :: (padded 2 (t.second / 3600) ++
        ':' :: (padded 2 (t.second / 60 % 60) ++ ':' :: (padded 2 t.writtenSecond ++
          (fractionText (t.nano % 1000000000) ++ ['Z'])))))) := by
    simp [jsonText, localText, writtenSecond, ← Date.text_append h.date]
  rw [parseStrict?, htext]
  refine (bind_of_some (readDigits_padded hyear (by decide) (Nat.le_refl 4) _) _).trans ?_
  refine (bind_of_some (readMark_self '-' _) _).trans ?_
  refine (bind_of_some (readDigits_padded hmonth (by decide) (Nat.le_refl 2) _) _).trans ?_
  refine (bind_of_some (readMark_self '-' _) _).trans ?_
  refine (bind_of_some (readDigits_padded hday (by decide) (Nat.le_refl 2) _) _).trans ?_
  refine (bind_of_some (a := ((), _)) rfl _).trans ?_
  refine (bind_of_some (readDigits_padded hhour (by decide) (Nat.le_refl 2) _) _).trans ?_
  refine (bind_of_some (readMark_self ':' _) _).trans ?_
  refine (bind_of_some (readDigits_padded hminute (by decide) (Nat.le_refl 2) _) _).trans ?_
  refine (bind_of_some (readMark_self ':' _) _).trans ?_
  refine (bind_of_some (readDigits_padded hsecond (by decide) (Nat.le_refl 2) _) _).trans ?_
  refine (bind_of_some hfraction _).trans ?_
  refine (bind_of_some (a := ((0 : Int), [])) rfl _).trans ?_
  rw [Int.natAbs_of_nonneg h.date.year_nonneg]
  exact ofNumbers?_written h

end Instant

end RecordSearch.Calendar
