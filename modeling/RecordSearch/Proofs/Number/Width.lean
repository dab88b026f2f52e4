import Mathlib.Algebra.Group.Nat.Defs
import RecordSearch.Number.Digits

/-!
# Digits in a given width

A number below a power of the base has as many digits as the exponent at most, and that many digits
are read as a number below the power. Zeros in front fill the width and add nothing to the value.
-/

namespace RecordSearch.Number

section Width

variable {n width : Nat}

/-- Places of a number in a base, one for each time that the base divides it. -/
theorem length_le_of_lt_pow {base : Nat} {spell : Nat → List Char}
    (hone : ∀ n, n < base → (spell n).length = 1)
    (hmore : ∀ n, ¬ n < base → (spell n).length = (spell (n / base)).length + 1)
    (hn : n < base ^ width) (hwidth : 0 < width) : (spell n).length ≤ width := by
  induction width generalizing n with
  | zero => exact absurd hwidth (Nat.lt_irrefl 0)
  | succ width ih =>
      by_cases hsmall : n < base
      · rw [hone n hsmall]
        exact hwidth
      · have hwide : 0 < width := by
          apply Nat.pos_of_ne_zero
          rintro rfl
          rw [Nat.zero_add, Nat.pow_one] at hn
          exact hsmall hn
        have hhigh : n / base < base ^ width := by
          rw [Nat.pow_succ, Nat.mul_comm] at hn
          exact Nat.div_lt_of_lt_mul hn
        rw [hmore n hsmall]
        exact Nat.succ_le_succ (ih hhigh hwide)

theorem length_digits_le (hn : n < 10 ^ width) (hwidth : 0 < width) :
    (digits n).length ≤ width := by
  refine length_le_of_lt_pow ?_ ?_ hn hwidth
  · intro n hten
    rw [digits, if_pos hten]
    rfl
  · intro n hten
    rw [digits, if_neg hten, List.length_append]
    rfl

theorem length_padded (hn : n < 10 ^ width) (hwidth : 0 < width) :
    (padded width n).length = width := by
  have hdigits := length_digits_le hn hwidth
  rw [padded, List.length_append, List.length_replicate]
  omega

theorem isDigit_of_mem_padded {c : Char} (hc : c ∈ padded width n) : isDigit c = true := by
  rcases List.mem_append.1 hc with hzero | hdigit
  · rw [List.eq_of_mem_replicate hzero]
    rfl
  · exact isDigit_of_mem_digits hdigit

theorem ofDigits_padded (width n : Nat) : ofDigits (padded width n) = n := by
  have hzeros (k : Nat) :
      (List.replicate k '0').foldl (fun n c => 10 * n + digitValue c) 0 = 0 := by
    induction k with
    | zero => rfl
    | succ k ih => rw [List.replicate_succ, List.foldl_cons]; exact ih
  rw [ofDigits, padded, List.foldl_append, hzeros]
  exact ofDigits_digits n

theorem toNat_of_isDigit {c : Char} (h : isDigit c = true) : 48 ≤ c.toNat ∧ c.toNat ≤ 57 := by
  simp only [isDigit, Bool.and_eq_true, decide_eq_true_eq, Char.le_def,
    UInt32.le_iff_toNat_le] at h
  exact h

theorem digitValue_lt {c : Char} (h : isDigit c = true) : digitValue c < 10 := by
  have hnine := (toNat_of_isDigit h).2
  unfold digitValue
  omega

/-- Digits read after a number `n` stay below the next number with as many zeros. -/
theorem foldl_digitValue_lt {ds : List Char} (h : ∀ c ∈ ds, isDigit c = true) (n : Nat) :
    ds.foldl (fun n c => 10 * n + digitValue c) n < (n + 1) * 10 ^ ds.length := by
  induction ds generalizing n with
  | nil => simp
  | cons c ds ih =>
      obtain ⟨hc, hds⟩ := List.forall_mem_cons.1 h
      have hvalue := digitValue_lt hc
      calc ds.foldl (fun n c => 10 * n + digitValue c) (10 * n + digitValue c)
          < (10 * n + digitValue c + 1) * 10 ^ ds.length := ih hds _
        _ ≤ (n + 1) * 10 * 10 ^ ds.length := Nat.mul_le_mul_right _ (by omega)
        _ = (n + 1) * 10 ^ (ds.length + 1) := by rw [pow_succ, Nat.mul_assoc, Nat.mul_comm 10]

theorem ofDigits_lt {ds : List Char} (h : ∀ c ∈ ds, isDigit c = true) :
    ofDigits ds < 10 ^ ds.length := by
  have hzero := foldl_digitValue_lt h 0
  rw [Nat.zero_add, Nat.one_mul] at hzero
  exact hzero

end Width

/-! ### Hexadecimal digits -/

theorem hexValue?_hexChar {n : Nat} (hn : n < 16) : hexValue? (hexChar n) = some n := by
  have hall : ∀ m : Fin 16, hexValue? (hexChar m) = some m.val := by decide
  exact hall ⟨n, hn⟩

theorem hexChar_ne_hyphen {n : Nat} (hn : n < 16) : hexChar n ≠ '-' := by
  have hall : ∀ m : Fin 16, hexChar m ≠ '-' := by decide
  exact hall ⟨n, hn⟩

theorem ne_hyphen_of_mem_hexDigits {n : Nat} {c : Char} (hc : c ∈ hexDigits n) : c ≠ '-' := by
  induction n using Nat.strongRecOn with
  | _ n ih =>
      rw [hexDigits] at hc
      split at hc
      · rename_i hn
        rw [List.mem_singleton.1 hc]
        exact hexChar_ne_hyphen hn
      · rcases List.mem_append.1 hc with hc | hc
        · exact ih (n / 16) (by omega) hc
        · rw [List.mem_singleton.1 hc]
          exact hexChar_ne_hyphen (Nat.mod_lt _ (by omega))

theorem length_hexDigits_le {n width : Nat} (hn : n < 16 ^ width) (hwidth : 0 < width) :
    (hexDigits n).length ≤ width := by
  refine length_le_of_lt_pow ?_ ?_ hn hwidth
  · intro n hsixteen
    rw [hexDigits, if_pos hsixteen]
    rfl
  · intro n hsixteen
    rw [hexDigits, if_neg hsixteen, List.length_append]
    rfl

end RecordSearch.Number
