import RecordSearch.Proofs.Number.Width
import RecordSearch.Uuid

/-!
# UUIDs read back

The hyphenated text of a number of 128 bits has 32 digits, the hyphens aside, and these are the
digits of the number with zeros in front. So the text is read as that number.
-/

namespace RecordSearch.Uuid

open Number

/-- A number that 32 hexadecimal digits can hold. -/
def IsStored (id : Uuid) : Prop := id.bits < 2 ^ 128

variable {id : Uuid}

theorem length_hex (h : id.IsStored) : id.hex.length = 32 := by
  have hbits : id.bits < 16 ^ 32 := h
  have hdigits : (hexDigits id.bits).length ≤ 32 := length_hexDigits_le hbits (by decide)
  rw [hex, List.length_append, List.length_replicate]
  omega

theorem ne_hyphen_of_mem_hex {c : Char} (hc : c ∈ id.hex) : c ≠ '-' := by
  rcases List.mem_append.1 hc with hzero | hdigit
  · rw [List.eq_of_mem_replicate hzero]
    decide
  · exact ne_hyphen_of_mem_hexDigits hdigit

/-- One more digit of a number that is read. -/
def addHex (n : Nat) (c : Char) : Option Nat := (hexValue? c).map (16 * n + ·)

theorem foldlM_hexDigits (n : Nat) : (hexDigits n).foldlM addHex 0 = some n := by
  induction n using Nat.strongRecOn with
  | _ n ih =>
      rw [hexDigits]
      split
      · rename_i hn
        simp [addHex, hexValue?_hexChar hn]
      · have hlow : n % 16 < 16 := Nat.mod_lt _ (by decide)
        rw [List.foldlM_append, ih (n / 16) (by omega)]
        simp [addHex, hexValue?_hexChar hlow, Nat.div_add_mod]

theorem foldlM_hex (id : Uuid) : id.hex.foldlM addHex 0 = some id.bits := by
  have hzeros (k : Nat) : (List.replicate k '0').foldlM addHex 0 = some 0 := by
    induction k with
    | zero => rfl
    | succ k ih => exact ih
  rw [hex, List.foldlM_append, hzeros]
  exact foldlM_hexDigits id.bits

theorem ofHex?_hex (h : id.IsStored) : ofHex? id.hex = some id := by
  have hvalue : id.hex.foldlM (fun n c => (hexValue? c).map (16 * n + ·)) 0 = some id.bits :=
    foldlM_hex id
  rw [ofHex?, if_pos (length_hex h), hvalue]
  rfl

/-- Without the hyphens between them the groups are the digits that they hold. -/
theorem filter_groups (ns : List Nat) {cs : List Char} (hcs : ∀ c ∈ cs, c ≠ '-') :
    (['-'].intercalate (groups ns cs)).filter (· ≠ '-') = cs.take (ns.foldr (· + ·) 0) := by
  induction ns generalizing cs with
  | nil => rfl
  | cons n ns ih =>
      have hpart : (cs.take n).filter (· ≠ '-') = cs.take n :=
        List.filter_eq_self.2 fun c hc => decide_eq_true (hcs c (List.mem_of_mem_take hc))
      have hrest : (['-'].intercalate (groups ns (cs.drop n))).filter (· ≠ '-') =
          (cs.drop n).take (ns.foldr (· + ·) 0) :=
        ih fun c hc => hcs c (List.mem_of_mem_drop hc)
      rw [List.foldr_cons, List.take_add, ← hrest, groups]
      cases ns with
      | nil => simpa [groups] using hpart
      | cons m ns =>
          have hhyphen : (['-'] : List Char).filter (· ≠ '-') = [] := rfl
          rw [groups, List.intercalate_cons_cons, List.filter_append, List.filter_append, hpart,
            hhyphen, List.append_nil]

theorem length_groups {cs : List Char} (hlength : cs.length = 32) :
    (['-'].intercalate (groups [8, 4, 4, 4, 12] cs)).length = 36 := by
  simp [groups, List.intercalate_cons_cons, hlength]

theorem parse?_text (h : id.IsStored) : parse? id.text = some id := by
  have hlength := length_groups (length_hex h)
  have hdigits :
      (['-'].intercalate (groups [8, 4, 4, 4, 12] id.hex)).filter (· ≠ '-') = id.hex := by
    rw [filter_groups _ fun _ => ne_hyphen_of_mem_hex]
    exact List.take_of_length_le (Nat.le_of_eq (length_hex h))
  rw [text, parse?, String.toList_ofList]
  simp only [hlength]
  rw [if_neg (by decide), if_pos trivial, ofHyphenated?]
  simp only [hdigits, if_true]
  exact ofHex?_hex h

end RecordSearch.Uuid
