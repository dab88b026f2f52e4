import Mathlib.Data.List.TakeWhile
import RecordSearch.Proofs.Calendar.Reading

/-!
# Leap seconds

Offsets are whole minutes, and only the second 60 of a minute is read as a leap second. So an
instant that is read, in whichever form, has its leap second at the end of a minute in universal
time as well, and its text is read as the same instant again.
-/

namespace RecordSearch.Calendar

open Number

theorem readFraction_lt {cs rest : List Char} {nano : Nat}
    (h : readFraction cs = some (nano, rest)) : nano < 1000000000 := by
  unfold readFraction at h
  split at h
  · rename_i cs
    dsimp only at h
    split at h
    · cases h
    · obtain ⟨rfl, -⟩ := Prod.mk.inj (Option.some.inj h)
      have hlength : ((cs.take 9).takeWhile isDigit).length ≤ 9 :=
        Nat.le_trans (List.takeWhile_prefix _).length_le (List.length_take_le 9 cs)
      generalize hds : (cs.take 9).takeWhile isDigit = ds at hlength
      have hvalue : ofDigits ds < 10 ^ ds.length :=
        ofDigits_lt fun c hc => List.mem_takeWhile_imp (hds ▸ hc)
      calc ofDigits ds * 10 ^ (9 - ds.length)
          < 10 ^ ds.length * 10 ^ (9 - ds.length) :=
            Nat.mul_lt_mul_of_pos_right hvalue (Nat.pow_pos (by decide))
        _ = 10 ^ 9 := by rw [← pow_add, Nat.add_sub_cancel' hlength]
  · obtain ⟨rfl, -⟩ := Prod.mk.inj (Option.some.inj h)
    decide

section Zones

variable {separator : List Char → Option (List Char)} {cs rest : List Char} {offset : Int}

theorem emod_of_hoursAndMinutes {negative : Bool}
    (h : ((readDigits 2 2 cs).bind fun x => (separator x.2).bind fun cs =>
      (readDigits 2 2 cs).bind fun y =>
        if 60 ≤ y.1 then none
        else some (if negative then -((x.1 : Int) * 3600 + y.1 * 60) else x.1 * 3600 + y.1 * 60,
          y.2)) = some (offset, rest)) : offset % 60 = 0 := by
  simp only [Option.bind_eq_some_iff] at h
  obtain ⟨⟨hours, _⟩, -, _, -, ⟨minutes, _⟩, -, hoffset⟩ := h
  split at hoffset
  · cases hoffset
  · obtain ⟨rfl, -⟩ := Prod.mk.inj (Option.some.inj hoffset)
    split <;> omega

theorem emod_of_readOffset (h : readOffset separator cs = some (offset, rest)) :
    offset % 60 = 0 := by
  unfold readOffset at h
  split at h
  · exact emod_of_hoursAndMinutes h
  · exact emod_of_hoursAndMinutes h
  · exact emod_of_hoursAndMinutes h
  · cases h

theorem emod_of_readZone (h : readZone separator cs = some (offset, rest)) : offset % 60 = 0 := by
  unfold readZone at h
  split at h
  · obtain ⟨rfl, -⟩ := Prod.mk.inj (Option.some.inj h)
    rfl
  · obtain ⟨rfl, -⟩ := Prod.mk.inj (Option.some.inj h)
    rfl
  · exact emod_of_readOffset h

theorem emod_of_readLenientZone (h : readLenientZone cs = some (offset, rest)) :
    offset % 60 = 0 := by
  unfold readLenientZone at h
  split at h
  · split at h
    · obtain ⟨rfl, -⟩ := Prod.mk.inj (Option.some.inj h)
      rfl
    · exact emod_of_readZone h
  · exact emod_of_readZone h

end Zones

namespace Instant

variable {t : Instant}

/-- A local clock is moved by its offset, at most to the day before or the day after. -/
theorem of_ofLocal? {date : Date} {second nano : Nat} {offset : Int}
    (h : ofLocal? date second nano offset = some t) (hsecond : second < 86400)
    (hoffset : offset.natAbs < 86400) :
    t.date.isValid = true ∧ t.second < 86400 ∧ t.nano = nano ∧
      (t.second : Int) % 60 = (second - offset) % 60 := by
  -- However the clock is moved, it is the date that it is moved to that has to be a day.
  have hmoved : ∃ moved : Instant, moved.second < 86400 ∧ moved.nano = nano ∧
      (moved.second : Int) % 60 = (second - offset) % 60 ∧
      (if moved.date.isValid then some moved else none) = some t := by
    unfold ofLocal? secondsInDay at h
    refine ⟨_, ?_, ?_, ?_, h⟩
    · split
      · dsimp only
        omega
      · split <;> dsimp only <;> omega
    · split
      · rfl
      · split <;> rfl
    · split
      · dsimp only
        omega
      · split <;> dsimp only <;> omega
  obtain ⟨moved, hlt, hnano, hmod, hvalid⟩ := hmoved
  split at hvalid
  · rename_i hdate
    obtain rfl := Option.some.inj hvalid
    exact ⟨hdate, hlt, hnano, hmod⟩
  · cases hvalid

theorem isTime_of_ofNumbers? {year : Int} {month day hour minute second nano : Nat} {offset : Int}
    (h : ofNumbers? year month day hour minute second nano offset = some t)
    (hnano : nano < 1000000000) (hoffset : offset % 60 = 0) :
    t.date.isValid = true ∧ t.IsTime := by
  simp only [ofNumbers?, Option.bind_eq_bind, Option.bind_eq_some_iff] at h
  obtain ⟨date, -, hlocal⟩ := h
  split at hlocal
  · cases hlocal
  · rename_i hclock
    -- Only the second 60 carries a whole second of nanoseconds, and it is told as the second 59.
    by_cases hleap : second = 60
    · simp only [hleap, if_true] at hlocal
      obtain ⟨hvalid, hsecond, htold, hmod⟩ := of_ofLocal? hlocal (by omega) (by omega)
      exact ⟨hvalid, hsecond, by omega, by omega⟩
    · simp only [hleap, if_false] at hlocal
      obtain ⟨hvalid, hsecond, htold, hmod⟩ := of_ofLocal? hlocal (by omega) (by omega)
      exact ⟨hvalid, hsecond, by omega, by omega⟩

theorem isTime_of_parseLenient? {s : String} (h : parseLenient? s = some t) :
    t.date.isValid = true ∧ t.IsTime := by
  simp only [parseLenient?, Option.bind_eq_bind, Option.bind_eq_some_iff] at h
  obtain ⟨_, -, _, -, _, -, _, -, _, -, _, -, _, -, ⟨nano, _⟩, hfraction, ⟨offset, _⟩,
    hzone, hend⟩ := h
  split at hend
  · exact isTime_of_ofNumbers? hend (readFraction_lt hfraction) (emod_of_readLenientZone hzone)
  · cases hend

/-- **The text of an instant that a row holds is read as this instant**, whichever way the row wrote
it, in the years that are written with four digits. -/
theorem parseStrict?_jsonText_of_parseLenient? {s : String} (h : parseLenient? s = some t)
    (hyear : 0 ≤ t.date.year) (hlast : t.date.year ≤ 9999) :
    parseStrict? t.jsonText = some t := by
  obtain ⟨hvalid, htime⟩ := isTime_of_parseLenient? h
  exact parseStrict?_jsonText
    { toIsTime := htime
      date := { valid := hvalid, year_nonneg := hyear, year_le := hlast } }

end Instant

end RecordSearch.Calendar
