/-
Decimal numerals and their values.

A numeral is read digit by digit against a limit, and reading stops at the
first digit with which the value passes it. Values only grow on the way, so
the limit is kept throughout exactly when the value of the whole numeral keeps
it, and then that value is what is read (`readNumeral_eq_ok_iff`). How long
the numeral is makes no difference, and zeros in front of it none either
(`spells_of_zeros`); a number that is written and within the limit is read
back.
-/
import TrafficShaping.Text.Numeral

namespace TrafficShaping.Text

-- ==================================================== statement vocabulary

/-- A numeral for a number: at least one digit, in front of which a plus sign
may stand. -/
def Spells (cs : List Char) (n : Nat) : Prop :=
  ∃ digits, digits ≠ [] ∧ (∀ c ∈ digits, c.isDigit = true)
    ∧ (cs = digits ∨ cs = '+' :: digits) ∧ Nat.ofDigitChars 10 digits 0 = n

-- ============================================================= digits

variable {limit n v : Nat} {cs digits : List Char}

/-- The value of a numeral is never less than that of its front. -/
theorem le_ofDigitChars (v : Nat) (cs : List Char) : v ≤ Nat.ofDigitChars 10 cs v := by
  induction cs generalizing v with
  | nil => exact Nat.le_refl v
  | cons c cs ih =>
      rw [Nat.ofDigitChars_cons]
      have hrest := ih (10 * v + (c.toNat - '0'.toNat))
      omega

/-- What further digits are read as is their value, and all of it is within the
limit. -/
theorem readDigits_eq_ok_iff (hv : v ≤ limit) :
    readDigits limit v cs = .ok n
      ↔ (∀ c ∈ cs, c.isDigit = true) ∧ Nat.ofDigitChars 10 cs v = n ∧ n ≤ limit := by
  induction cs generalizing v with
  | nil =>
      rw [readDigits, Except.ok.injEq, Nat.ofDigitChars_nil]
      constructor
      · rintro rfl
        exact ⟨by simp, rfl, hv⟩
      · exact fun h => h.2.1
  | cons c cs ih =>
      rw [List.forall_mem_cons, Nat.ofDigitChars_cons]
      by_cases hdigit : c.isDigit = true
      · by_cases hfront : 10 * v + digitValue c ≤ limit
        · simp only [readDigits, hdigit, if_true, hfront, ih hfront, true_and]
          exact Iff.rfl
        · -- what passes the limit stays beyond it
          have hbeyond := le_ofDigitChars (10 * v + digitValue c) cs
          simp only [readDigits, hdigit, if_true, hfront, if_false, true_and]
          refine iff_of_false (fun h => nomatch h) ?_
          rintro ⟨-, rfl, hn⟩
          exact hfront (Nat.le_trans hbeyond hn)
      · simp only [readDigits, hdigit]
        exact iff_of_false (fun h => nomatch h) fun h => nomatch h.1.1

-- ============================================================ numerals

/-- Digits spell the number that they are the digits of. -/
theorem spells_of_isDigit (hne : digits ≠ []) (hdigits : ∀ c ∈ digits, c.isDigit = true) :
    Spells digits (Nat.ofDigitChars 10 digits 0) :=
  ⟨digits, hne, hdigits, Or.inl rfl, rfl⟩

theorem not_spells_nil : ¬ Spells [] n := by
  rintro ⟨digits, hne, -, rfl | h, -⟩
  · exact hne rfl
  · cases h

/-- Behind a plus sign there stand digits. -/
theorem spells_plus_iff :
    Spells ('+' :: cs) n
      ↔ cs ≠ [] ∧ (∀ c ∈ cs, c.isDigit = true) ∧ Nat.ofDigitChars 10 cs 0 = n := by
  constructor
  · rintro ⟨digits, hne, hdigits, rfl | h, hvalue⟩
    · exact absurd (hdigits '+' (List.mem_cons_self ..)) (by decide)
    · obtain rfl := (List.cons.inj h).2
      exact ⟨hne, hdigits, hvalue⟩
  · rintro ⟨hne, hdigits, hvalue⟩
    exact ⟨cs, hne, hdigits, Or.inr rfl, hvalue⟩

/-- And without one there is nothing else. -/
theorem spells_iff_of_head_ne (hne : cs ≠ []) (hplus : ∀ rest, cs ≠ '+' :: rest) :
    Spells cs n ↔ (∀ c ∈ cs, c.isDigit = true) ∧ Nat.ofDigitChars 10 cs 0 = n := by
  constructor
  · rintro ⟨digits, -, hdigits, rfl | h, hvalue⟩
    · exact ⟨hdigits, hvalue⟩
    · exact absurd h (hplus digits)
  · rintro ⟨hdigits, rfl⟩
    exact spells_of_isDigit hne hdigits

/-- What is read is exactly what has a value within the limit, and the value is
what it is read as. -/
theorem readNumeral_eq_ok_iff : readNumeral limit cs = .ok n ↔ Spells cs n ∧ n ≤ limit := by
  unfold readNumeral
  split
  · exact iff_of_false (fun h => nomatch h) fun h => not_spells_nil h.1
  · refine iff_of_false (fun h => nomatch h) fun h => ?_
    exact (spells_plus_iff.1 h.1).1 rfl
  · next cs hne =>
    rw [readDigits_eq_ok_iff (Nat.zero_le limit), spells_plus_iff, and_assoc, and_assoc]
    exact (and_iff_right fun hnil => hne hnil).symm
  · next hnil _ hplus =>
    rw [readDigits_eq_ok_iff (Nat.zero_le limit), spells_iff_of_head_ne hnil hplus, and_assoc]

/-- A port is read off its numerals, and off nothing else. -/
theorem readPort_eq_ok_iff {p : UInt16} : readPort cs = .ok p ↔ Spells cs p.toNat := by
  have hbound : p.toNat ≤ 65535 := Nat.le_of_lt_succ p.toNat_lt
  rw [← and_iff_left (a := Spells cs p.toNat) hbound, ← readNumeral_eq_ok_iff]
  unfold readPort
  cases hread : readNumeral 65535 cs with
  | error e => exact iff_of_false (fun h => nomatch h) fun h => nomatch h
  | ok n =>
      have hn : n < UInt16.size := Nat.lt_succ_of_le (readNumeral_eq_ok_iff.1 hread).2
      show Except.ok (UInt16.ofNat n) = .ok p ↔ Except.ok n = .ok p.toNat
      rw [Except.ok.injEq, Except.ok.injEq]
      constructor
      · rintro rfl
        exact (UInt16.toNat_ofNat_of_lt' hn).symm
      · rintro rfl
        rw [UInt16.ofNat_toNat]

-- ============================================================== written

theorem isDigit_of_zeros (zeros n : Nat) :
    ∀ c ∈ List.replicate zeros '0' ++ Nat.toDigits 10 n, c.isDigit = true := by
  intro c hc
  rcases List.mem_append.1 hc with hzero | hdigit
  · rw [List.eq_of_mem_replicate hzero]
    decide
  · exact Nat.isDigit_of_mem_toDigits (by decide) (by decide) hdigit

/-- Zeros in front of a written number make another numeral for it. -/
theorem spells_of_zeros (zeros n : Nat) :
    Spells (List.replicate zeros '0' ++ Nat.toDigits 10 n) n := by
  refine ⟨_, ?_, isDigit_of_zeros zeros n, Or.inl rfl, ?_⟩
  · exact List.append_ne_nil_of_right_ne_nil _ Nat.toDigits_ne_nil
  · rw [Nat.ofDigitChars_append, Nat.ofDigitChars_replicate_zero, Nat.mul_zero,
      Nat.ofDigitChars_ten_toDigits]

/-- A written number within the limit is read back. -/
theorem readNumeral_toDigits (h : n ≤ limit) : readNumeral limit (Nat.toDigits 10 n) = .ok n :=
  readNumeral_eq_ok_iff.2 ⟨spells_of_zeros 0 n, h⟩

/-- Every 16-bit number is read back from what is written for it. -/
theorem readPort_repr (n : UInt16) : readPort n.toNat.repr.toList = .ok n := by
  rw [Nat.toList_repr]
  exact readPort_eq_ok_iff.2 (spells_of_zeros 0 n.toNat)

/-- Digits whose value fits 64 bits are read as that value. -/
theorem readInt64?_of_isDigit (hne : cs ≠ []) (hdigits : ∀ c ∈ cs, c.isDigit = true)
    (hlimit : Nat.ofDigitChars 10 cs 0 < Nat.pow 2 63) :
    readInt64? cs = some (Nat.ofDigitChars 10 cs 0 : Int) := by
  have hall : (cs.isEmpty || !cs.all Char.isDigit) = false := by
    rw [List.isEmpty_eq_false_iff.2 hne, List.all_eq_true.2 hdigits]
    rfl
  unfold readInt64?
  split
  next negative digits hcs =>
    split at hcs
    · exact absurd (hdigits '-' (List.mem_cons_self ..)) (by decide)
    · exact absurd (hdigits '+' (List.mem_cons_self ..)) (by decide)
    · cases hcs
      rw [hall, if_neg Bool.false_ne_true, if_neg Bool.false_ne_true]
      exact if_pos hlimit

/-- A written number that fits 64 bits is read back. -/
theorem readInt64?_toDigits (h : n < Nat.pow 2 63) :
    readInt64? (Nat.toDigits 10 n) = some (n : Int) := by
  have hdigits : ∀ c ∈ Nat.toDigits 10 n, c.isDigit = true := isDigit_of_zeros 0 n
  have hvalue : Nat.ofDigitChars 10 (Nat.toDigits 10 n) 0 = n := Nat.ofDigitChars_ten_toDigits
  rw [readInt64?_of_isDigit Nat.toDigits_ne_nil hdigits (by rwa [hvalue]), hvalue]

end TrafficShaping.Text
