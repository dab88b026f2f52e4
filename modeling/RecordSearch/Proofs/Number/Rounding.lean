import Mathlib.Algebra.Group.Nat.Defs
import RecordSearch.Number.Binary64

/-!
# Rounding integers

How integers become floating point numbers. A count of units is rounded to a multiple of its grain,
which grows with the count, so that multiples of the grain are bounds that rounding does not cross:
a larger integer never becomes a smaller number, and integers of at most 53 binary digits keep their
value.
-/

namespace RecordSearch.Number

namespace Binary64

/-! ### Rounding to a multiple -/

section NearestEven

variable {m n den : Nat}

theorem nearestEven_mul (k : Nat) (hden : 0 < den) : nearestEven (k * den) den = k := by
  simp [nearestEven, Nat.mul_div_cancel k hden, Nat.ne_of_lt hden]

theorem div_le_nearestEven : n / den ≤ nearestEven n den := by
  simp only [nearestEven]
  split <;> omega

theorem nearestEven_le_succ_div : nearestEven n den ≤ n / den + 1 := by
  simp only [nearestEven]
  split <;> omega

theorem nearestEven_mono (h : m ≤ n) : nearestEven m den ≤ nearestEven n den := by
  rcases Nat.lt_or_eq_of_le (Nat.div_le_div_right (c := den) h) with hwhole | hwhole
  · exact Nat.le_trans nearestEven_le_succ_div (Nat.le_trans hwhole div_le_nearestEven)
  · have hrest : m % den ≤ n % den := by
      have hm := Nat.div_add_mod m den
      have hn := Nat.div_add_mod n den
      rw [hwhole] at hm
      omega
    simp only [nearestEven, hwhole]
    split <;> split <;> omega

end NearestEven

/-! ### Rounding to a grain -/

/-- The multiples of which a count of units is rounded to one. -/
def grain (units : Nat) : Nat := Nat.pow 2 (spareBits units)

theorem grain_pos (units : Nat) : 0 < grain units :=
  Nat.pow_pos (by decide)

theorem grain_dvd_two_pow {units e : Nat} (h : units < 2 ^ (e + 53)) : grain units ∣ 2 ^ e := by
  apply Nat.pow_dvd_pow 2
  by_cases hzero : units = 0
  · simp [hzero, spareBits]
  · have hlog := (Nat.log2_lt hzero).2 h
    unfold spareBits
    omega

section NearestUnits

variable {m n bound : Nat}

theorem nearestUnits_one (units : Nat) :
    nearestUnits units 1 = nearestEven units (grain units) * grain units := by
  simp [nearestUnits, grain]

theorem nearestUnits_le (hgrain : grain m ∣ bound) (h : m ≤ bound) : nearestUnits m 1 ≤ bound := by
  obtain ⟨k, rfl⟩ := hgrain
  rw [nearestUnits_one, Nat.mul_comm (grain m) k]
  apply Nat.mul_le_mul_right
  calc nearestEven m (grain m)
      ≤ nearestEven (k * grain m) (grain m) := nearestEven_mono (by rwa [Nat.mul_comm])
    _ = k := nearestEven_mul k (grain_pos m)

theorem le_nearestUnits (hgrain : grain n ∣ bound) (h : bound ≤ n) : bound ≤ nearestUnits n 1 := by
  obtain ⟨k, rfl⟩ := hgrain
  rw [nearestUnits_one, Nat.mul_comm (grain n) k]
  apply Nat.mul_le_mul_right
  calc k = nearestEven (k * grain n) (grain n) := (nearestEven_mul k (grain_pos n)).symm
    _ ≤ nearestEven n (grain n) := nearestEven_mono (by rwa [Nat.mul_comm])

theorem nearestUnits_of_dvd (h : grain n ∣ n) : nearestUnits n 1 = n :=
  Nat.le_antisymm (nearestUnits_le h Nat.le.refl) (le_nearestUnits h Nat.le.refl)

/-- With one grain for both counts this is rounding to a multiple. Otherwise the leading power of
two of the larger count lies between them, and is a multiple of both grains. -/
theorem nearestUnits_mono (h : m ≤ n) : nearestUnits m 1 ≤ nearestUnits n 1 := by
  by_cases hzero : n = 0
  · obtain rfl : m = n := by omega
    exact Nat.le.refl
  have hleading : 2 ^ n.log2 ≤ n := Nat.log2_self_le hzero
  have hnext : n < 2 ^ (n.log2 + 1) := Nat.lt_log2_self
  have hwide (e : Nat) (he : e ≤ n.log2 + 53) : 2 ^ e ≤ 2 ^ (n.log2 + 53) :=
    Nat.pow_le_pow_right (by decide) he
  by_cases hm : m < 2 ^ n.log2
  · calc nearestUnits m 1
        ≤ 2 ^ n.log2 := nearestUnits_le
            (grain_dvd_two_pow (Nat.lt_of_lt_of_le hm (hwide _ (by omega)))) (Nat.le_of_lt hm)
      _ ≤ nearestUnits n 1 := le_nearestUnits
            (grain_dvd_two_pow (Nat.lt_of_lt_of_le hnext (hwide _ (by omega)))) hleading
  · have hlog : m.log2 = n.log2 :=
      (Nat.log2_eq_iff (by omega)).2 ⟨Nat.le_of_not_lt hm, Nat.lt_of_le_of_lt h hnext⟩
    rw [nearestUnits_one, nearestUnits_one, grain, grain, spareBits, spareBits, hlog]
    exact Nat.mul_le_mul_right _ (nearestEven_mono h)

/-- A number of at most 53 binary digits, or the first one with more, is a multiple of its grain. -/
theorem nearestUnits_mul_two_pow (h : n ≤ 2 ^ 53) (e : Nat) :
    nearestUnits (n * 2 ^ e) 1 = n * 2 ^ e := by
  apply nearestUnits_of_dvd
  rcases Nat.lt_or_eq_of_le h with hlt | rfl
  · have hdigits : n * 2 ^ e < 2 ^ (e + 53) := by
      rw [Nat.pow_add, Nat.mul_comm (2 ^ e)]
      exact Nat.mul_lt_mul_of_pos_right hlt (Nat.two_pow_pos e)
    exact Nat.dvd_trans (grain_dvd_two_pow hdigits) (Nat.dvd_mul_left _ _)
  · rw [← Nat.pow_add]
    exact grain_dvd_two_pow (Nat.pow_lt_pow_right (by decide) (by omega))

end NearestUnits

/-! ### Integers -/

/-- How far from zero a natural number comes to lie on the line of units, at most at its end. -/
def reach (n : Nat) : Nat := min (nearestUnits (n * unitsInOne) 1) unitLimit

/-- Where an integer comes to lie on the line of units. -/
def landing (i : Int) : Int := if i < 0 then -reach i.natAbs else reach i.natAbs

theorem exists_unitsInOne_eq : ∃ e, unitsInOne = 2 ^ e ∧ 2 ^ (53 + e) ≤ unitLimit :=
  ⟨1074, by decide +kernel, by decide +kernel⟩

theorem unitsInOne_pos : 0 < unitsInOne := by
  decide +kernel

theorem ofInt_eq_ofUnits (i : Int) : ofInt i = ofUnits (i < 0) (reach i.natAbs) := by
  unfold ofInt ofRatio ofUnits reach
  by_cases h : nearestUnits (i.natAbs * unitsInOne) 1 < unitLimit
  · rw [Nat.min_eq_left (Nat.le_of_lt h)]
  · rw [Nat.min_eq_right (Nat.le_of_not_lt h), if_neg h, if_neg (Nat.lt_irrefl _)]

theorem position?_ofInt (i : Int) : (ofInt i).position? = some (landing i) := by
  have hreach : reach i.natAbs ≤ unitLimit := Nat.min_le_right _ _
  rw [ofInt_eq_ofUnits, ofUnits]
  split
  · simp only [position?, landing, decide_eq_true_eq]
  · have hend : reach i.natAbs = unitLimit := by omega
    simp only [position?, landing, hend, decide_eq_true_eq]

theorem compare?_of_position? {a b : Binary64} {x y : Int} (ha : a.position? = some x)
    (hb : b.position? = some y) : a.compare? b = some (compare x y) := by
  rw [compare?, ha, hb]

theorem reach_mono {m n : Nat} (h : m ≤ n) : reach m ≤ reach n := by
  have hunits := nearestUnits_mono (Nat.mul_le_mul_right unitsInOne h)
  unfold reach
  omega

theorem landing_mono {i j : Int} (h : i ≤ j) : landing i ≤ landing j := by
  unfold landing
  by_cases hi : i < 0
  · by_cases hj : j < 0
    · have := reach_mono (m := j.natAbs) (n := i.natAbs) (by omega)
      simp only [hi, hj, if_true]
      omega
    · simp only [hi, hj, if_true, if_false]
      omega
  · have hj : ¬ j < 0 := by omega
    have := reach_mono (m := i.natAbs) (n := j.natAbs) (by omega)
    simp only [hi, hj, if_false]
    omega

theorem reach_of_le {n : Nat} (h : n ≤ 2 ^ 53) : reach n = n * unitsInOne := by
  obtain ⟨e, he, hend⟩ := exists_unitsInOne_eq
  have hvalue : nearestUnits (n * unitsInOne) 1 = n * unitsInOne := by
    rw [he]
    exact nearestUnits_mul_two_pow h e
  have hle : n * unitsInOne ≤ unitLimit := by
    rw [he]
    calc n * 2 ^ e
        ≤ 2 ^ 53 * 2 ^ e := Nat.mul_le_mul_right _ h
      _ = 2 ^ (53 + e) := (Nat.pow_add 2 53 e).symm
      _ ≤ unitLimit := hend
  rw [reach, hvalue, Nat.min_eq_left hle]

theorem landing_of_natAbs_le {i : Int} (h : i.natAbs ≤ 2 ^ 53) : landing i = i * unitsInOne := by
  rw [landing, reach_of_le h, Int.natCast_mul]
  split
  · rw [← Int.neg_mul, Int.ofNat_natAbs_of_nonpos (by omega), Int.neg_neg]
  · rw [Int.natAbs_of_nonneg (by omega)]

/-- Two integers that come to lie at one place are the same, unless one of them has more than 53
binary digits. -/
theorem lt_natAbs_of_landing_eq {i j : Int} (hne : i ≠ j) (h : landing i = landing j) :
    2 ^ 53 < i.natAbs ∨ 2 ^ 53 < j.natAbs := by
  by_cases hi : i.natAbs ≤ 2 ^ 53
  · by_cases hj : j.natAbs ≤ 2 ^ 53
    · rw [landing_of_natAbs_le hi, landing_of_natAbs_le hj] at h
      have hunit : (unitsInOne : Int) ≠ 0 := Int.natCast_ne_zero.2 (Nat.ne_of_gt unitsInOne_pos)
      exact absurd (Int.eq_of_mul_eq_mul_right hunit h) hne
    · exact Or.inr (Nat.lt_of_not_le hj)
  · exact Or.inl (Nat.lt_of_not_le hi)

theorem reach_pos {n : Nat} (h : 0 < n) : 0 < reach n :=
  calc 0 < reach 1 := by
        rw [reach_of_le (by decide), Nat.one_mul]
        exact unitsInOne_pos
    _ ≤ reach n := reach_mono h

/-- Integers lie at one place only if they become the same floating point number. -/
theorem ofInt_eq_of_landing_eq {i j : Int} (h : landing i = landing j) : ofInt i = ofInt j := by
  have hi (hsign : i < 0) : 0 < reach i.natAbs := reach_pos (by omega)
  have hj (hsign : j < 0) : 0 < reach j.natAbs := reach_pos (by omega)
  unfold landing at h
  have hsign : i < 0 ↔ j < 0 := by
    split at h <;> split at h <;> omega
  have hreach : reach i.natAbs = reach j.natAbs := by
    split at h <;> split at h <;> omega
  rw [ofInt_eq_ofUnits, ofInt_eq_ofUnits, hreach, decide_eq_decide.2 hsign]

end Binary64

end RecordSearch.Number
