/-
Handles as a platform reads them off the words of a command.

Reading takes hexadecimal digits around a colon, either side of which may be
missing, and nothing beyond 16 bits. Whatever handle is written is read back
(`read?_render`), so the platform of the later modules understands the
handles of every command whatever the numbering.
-/
import TrafficShaping.Handle
import TrafficShaping.Text.Search

namespace TrafficShaping

namespace Text

-- ===================================================== hexadecimal digits

/-- Reading one more digit at the end shifts what came before it. -/
theorem readHexDigits?_concat {v : Nat} {cs : List Char} {c : Char} :
    readHexDigits? v (cs ++ [c])
      = (readHexDigits? v cs).bind fun w => (hexValue? c).map fun digit => 16 * w + digit := by
  induction cs generalizing v with
  | nil =>
      cases hc : hexValue? c <;> simp [readHexDigits?, hc]
  | cons b cs ih =>
      cases hb : hexValue? b with
      | none => simp [readHexDigits?, hb]
      | some digit => simp [readHexDigits?, hb, ih]

/-- The written digits are digits of their values. -/
theorem hexValue?_digitChar {n : Nat} (h : n < 16) : hexValue? (Nat.digitChar n) = some n := by
  have hall : ∀ i : Fin 16, hexValue? (Nat.digitChar i) = some i.val := by decide
  exact hall ⟨n, h⟩

/-- A written number is read back. -/
theorem readHexDigits?_toDigits (n : Nat) : readHexDigits? 0 (Nat.toDigits 16 n) = some n := by
  induction n using Nat.strongRecOn with
  | ind n ih =>
      rcases Nat.lt_or_ge n 16 with hlt | hge
      · rw [Nat.toDigits_of_lt_base hlt]
        simp [readHexDigits?, hexValue?_digitChar hlt]
      · rw [Nat.toDigits_of_base_le (by decide) hge, readHexDigits?_concat,
          ih (n / 16) (by omega), hexValue?_digitChar (Nat.mod_lt n (by decide))]
        simp [Nat.div_add_mod]

/-- What can be read has digits only. -/
theorem hexValue?_isSome_of_read {v n : Nat} {cs : List Char}
    (h : readHexDigits? v cs = some n) : ∀ c ∈ cs, (hexValue? c).isSome := by
  induction cs generalizing v with
  | nil => exact fun c hc => nomatch hc
  | cons b cs ih =>
      cases hb : hexValue? b with
      | none => simp [readHexDigits?, hb] at h
      | some digit =>
          simp only [readHexDigits?, hb] at h
          intro c hc
          rcases List.mem_cons.1 hc with rfl | hmem
          · simp [hb]
          · exact ih h c hmem

/-- No colon is among the digits of a number. -/
theorem colon_not_mem_toDigits (n : Nat) : ':' ∉ Nat.toDigits 16 n := by
  intro hmem
  have hdigit := hexValue?_isSome_of_read (readHexDigits?_toDigits n) ':' hmem
  exact absurd hdigit (by decide)

end Text

namespace Handle

-- ======================================================== reading back

/-- One side of a handle: nothing at all is zero. -/
def side? (cs : List Char) : Option UInt16 := do
  let n ← Text.readHexDigits? 0 cs
  if n < UInt16.size then some (UInt16.ofNat n) else none

/-- The handle that a word stands for. -/
def read? (word : String) : Option Handle := do
  let (major, minor) ← Text.splitAtLast? ':' word.toList
  return ⟨← side? major, ← side? minor⟩

/-- A half of a handle is read back from its hexadecimal digits. -/
theorem side?_toDigits (n : UInt16) : side? (Nat.toDigits 16 n.toNat) = some n := by
  unfold side?
  rw [Text.readHexDigits?_toDigits]
  simp [n.toNat_lt]

/-- Every handle is read back from what is written for it. -/
theorem read?_render (h : Handle) : read? h.render = some h := by
  obtain ⟨major, minor⟩ := h
  have hminor : ∃ cs, (render ⟨major, minor⟩).toList
        = Nat.toDigits 16 major.toNat ++ ':' :: cs
      ∧ ':' ∉ cs ∧ side? cs = some minor := by
    by_cases hzero : minor = 0
    · subst hzero
      exact ⟨[], by simp [render, isQdisc, Text.hex], by simp, rfl⟩
    · refine ⟨Nat.toDigits 16 minor.toNat, ?_, Text.colon_not_mem_toDigits _, side?_toDigits _⟩
      simp [render, isQdisc, Text.hex, hzero]
  obtain ⟨cs, htext, hcolon, hcs⟩ := hminor
  have hsplit : Text.splitAtLast? ':' (render ⟨major, minor⟩).toList
      = some (Nat.toDigits 16 major.toNat, cs) :=
    Text.splitAtLast?_eq_some_iff.2 ⟨htext, hcolon⟩
  unfold read?
  rw [hsplit]
  simp [side?_toDigits, hcs]

end Handle

end TrafficShaping
