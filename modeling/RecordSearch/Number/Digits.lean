/-!
# Decimal digits

Natural numbers and integers as digit strings, and reading digit strings back.
-/

namespace RecordSearch.Number

def digitChar (n : Nat) : Char :=
  Char.ofNat (48 + n)

/-- The decimal digits of a number, highest first, without leading zeros. -/
def digits (n : Nat) : List Char :=
  if n < 10 then [digitChar n] else digits (n / 10) ++ [digitChar (n % 10)]
termination_by n
decreasing_by omega

def intDigits (i : Int) : List Char :=
  if i < 0 then '-' :: digits i.natAbs else digits i.natAbs

def decimal (n : Nat) : String :=
  String.ofList (digits n)

def intDecimal (i : Int) : String :=
  String.ofList (intDigits i)

/-- At least `width` digits, with zeros in front. -/
def padded (width n : Nat) : List Char :=
  List.replicate (width - (digits n).length) '0' ++ digits n

def isDigit (c : Char) : Bool :=
  '0' ≤ c && c ≤ '9'

def digitValue (c : Char) : Nat :=
  c.toNat - 48

def ofDigits (cs : List Char) : Nat :=
  cs.foldl (fun n c => 10 * n + digitValue c) 0

theorem digits_ne_nil (n : Nat) : digits n ≠ [] := by
  rw [digits]
  split <;> simp

theorem isDigit_digitChar {n : Nat} (hn : n < 10) : isDigit (digitChar n) = true := by
  have hall : ∀ m : Fin 10, isDigit (digitChar m) = true := by decide
  exact hall ⟨n, hn⟩

theorem digitValue_digitChar {n : Nat} (hn : n < 10) : digitValue (digitChar n) = n := by
  have hall : ∀ m : Fin 10, digitValue (digitChar m) = m := by decide
  exact hall ⟨n, hn⟩

theorem isDigit_of_mem_digits {n : Nat} {c : Char} (hc : c ∈ digits n) : isDigit c = true := by
  induction n using Nat.strongRecOn with
  | _ n ih =>
      rw [digits] at hc
      split at hc
      · rename_i hn
        rw [List.mem_singleton.1 hc]
        exact isDigit_digitChar hn
      · rcases List.mem_append.1 hc with hc | hc
        · exact ih (n / 10) (by omega) hc
        · rw [List.mem_singleton.1 hc]
          exact isDigit_digitChar (Nat.mod_lt _ (by omega))

theorem ofDigits_digits (n : Nat) : ofDigits (digits n) = n := by
  induction n using Nat.strongRecOn with
  | _ n ih =>
      rw [digits]
      split
      · rename_i hn
        simp [ofDigits, digitValue_digitChar hn]
      · have hhigh : ofDigits (digits (n / 10)) = n / 10 := ih (n / 10) (by omega)
        have hlow : digitValue (digitChar (n % 10)) = n % 10 :=
          digitValue_digitChar (Nat.mod_lt _ (by omega))
        have hsplit : ofDigits (digits (n / 10) ++ [digitChar (n % 10)]) =
            10 * ofDigits (digits (n / 10)) + digitValue (digitChar (n % 10)) := by
          simp [ofDigits, List.foldl_append]
        rw [hsplit, hhigh, hlow]
        omega

def hexValue? (c : Char) : Option Nat :=
  if isDigit c then some (c.toNat - 48)
  else if 'a' ≤ c && c ≤ 'f' then some (c.toNat - 87)
  else if 'A' ≤ c && c ≤ 'F' then some (c.toNat - 55)
  else none

def hexChar (n : Nat) : Char :=
  if n < 10 then Char.ofNat (48 + n) else Char.ofNat (87 + n)

/-- The least hexadecimal digits of a number, small letters, without leading zeros. -/
def hexDigits (n : Nat) : List Char :=
  if n < 16 then [hexChar n] else hexDigits (n / 16) ++ [hexChar (n % 16)]
termination_by n
decreasing_by omega

end RecordSearch.Number
