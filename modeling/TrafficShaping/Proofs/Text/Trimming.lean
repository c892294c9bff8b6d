/-
Texts with no blank at either end.

Cutting off blanks gives such a text (`trimmed_trim`) and leaves exactly such
texts alone (`trim_eq_self_iff`), so cutting twice is no different from
cutting once. Only blanks are cut off (`exists_blanks_around`), and blanks that
are put in front or behind are all cut off again.
-/
import Mathlib.Data.List.DropRight
import TrafficShaping.Text.Blank

namespace TrafficShaping.Text

/-- No blank stands at either end. -/
def Trimmed (cs : List Char) : Prop :=
  (∀ c ∈ cs.head?, isBlank c = false) ∧ ∀ c ∈ cs.getLast?, isBlank c = false

-- one look at either end, and not at every character there is
instance (cs : List Char) : Decidable (Trimmed cs) :=
  @instDecidableAnd _ _ (Option.decidableForallMem _) (Option.decidableForallMem _)

theorem trimEnd_eq_rdropWhile (cs : List Char) : trimEnd cs = cs.rdropWhile isBlank := rfl

/-- What is left has no blanks at its ends. -/
theorem trimmed_trim (cs : List Char) : Trimmed (trim cs) := by
  unfold trim
  rw [trimEnd_eq_rdropWhile]
  constructor
  · intro c hc
    -- cutting at the end leaves the text beginning as it did
    obtain ⟨suf, hsuf⟩ := List.rdropWhile_prefix isBlank (cs.dropWhile isBlank)
    have hhead : (cs.dropWhile isBlank).head? = some c := by
      rw [← hsuf, List.head?_append, hc, Option.some_or]
    have hnot := List.head?_dropWhile_not isBlank cs
    rw [hhead] at hnot
    exact hnot
  · intro c hc
    obtain ⟨hne, rfl⟩ := List.mem_getLast?_eq_getLast hc
    rw [← Bool.not_eq_true]
    exact List.rdropWhile_last_not isBlank _ hne

theorem mem_of_mem_trim {c : Char} {cs : List Char} (h : c ∈ trim cs) : c ∈ cs :=
  (List.dropWhile_suffix isBlank).subset ((List.rdropWhile_prefix isBlank _).subset h)

/-- Trimming leaves a text as it is exactly where there are none. -/
theorem trim_eq_self_iff {cs : List Char} : trim cs = cs ↔ Trimmed cs := by
  constructor
  · intro h
    rw [← h]
    exact trimmed_trim cs
  · rintro ⟨hhead, hlast⟩
    have hfront : cs.dropWhile isBlank = cs := by
      cases cs with
      | nil => rfl
      | cons c cs =>
          have hc : isBlank c = false := hhead c rfl
          exact List.dropWhile_cons_of_neg (by rw [hc]; exact Bool.false_ne_true)
    unfold trim
    rw [hfront, trimEnd_eq_rdropWhile, List.rdropWhile_eq_self_iff]
    intro hne
    rw [hlast _ (List.getLast?_eq_some_getLast hne)]
    exact Bool.false_ne_true

theorem trimmed_of_forall {cs : List Char} (h : ∀ c ∈ cs, isBlank c = false) : Trimmed cs :=
  ⟨fun c hc => h c (List.mem_of_mem_head? hc), fun c hc => h c (List.mem_of_mem_getLast? hc)⟩

/-- What stands between two parts that are not empty does not matter. -/
theorem trimmed_append_cons {cs ds : List Char} (hcs : cs ≠ []) (hds : ds ≠ [])
    (h : Trimmed cs) (h' : Trimmed ds) (mid : Char) : Trimmed (cs ++ mid :: ds) := by
  constructor
  · rw [List.head?_append_of_ne_nil cs hcs]
    exact h.1
  · rw [List.getLast?_append_of_ne_nil cs (List.cons_ne_nil mid ds),
      List.getLast?_cons_of_ne_nil hds]
    exact h'.2

-- ================================================= blanks around a text

/-- A text with nothing but blanks in it. -/
def AllBlank (cs : List Char) : Prop := ∀ c ∈ cs, isBlank c = true

instance (cs : List Char) : Decidable (AllBlank cs) :=
  List.decidableBAll (isBlank · = true) cs

variable {cs blanks : List Char}

/-- Cutting off the blanks leaves nothing exactly of a blank text. -/
theorem trim_eq_nil_iff : trim cs = [] ↔ AllBlank cs := by
  unfold trim
  rw [trimEnd_eq_rdropWhile, List.rdropWhile_eq_nil_iff]
  constructor
  · intro h c hc
    rw [← @List.takeWhile_append_dropWhile _ isBlank cs] at hc
    obtain hfront | hrest := List.mem_append.1 hc
    · exact List.mem_takeWhile_imp hfront
    · exact h c hrest
  · exact fun h c hc => h c ((List.dropWhile_suffix isBlank).subset hc)

/-- Blanks around a text make no difference to it once it is trimmed. -/
theorem trim_append_of_allBlank_left (h : AllBlank blanks) : trim (blanks ++ cs) = trim cs := by
  unfold trim
  rw [List.dropWhile_append_of_pos h]

theorem trim_append_of_allBlank_right (h : AllBlank blanks) : trim (cs ++ blanks) = trim cs := by
  unfold trim
  rw [List.dropWhile_append]
  split
  · next hnil =>
    -- the text itself is blank, and so are the blanks behind it
    rw [List.isEmpty_iff.1 hnil, List.dropWhile_eq_nil_iff.2 h]
  · rw [trimEnd_eq_rdropWhile, trimEnd_eq_rdropWhile, List.rdropWhile, List.reverse_append,
      List.dropWhile_append_of_pos fun c hc => h c (List.mem_reverse.1 hc)]
    rfl

/-- Blanks around a text that has none at its ends are cut off, and nothing
else is. -/
theorem trim_of_trimmed {front back : List Char} (hfront : AllBlank front) (hcs : Trimmed cs)
    (hback : AllBlank back) : trim (front ++ cs ++ back) = cs := by
  rw [trim_append_of_allBlank_right hback, trim_append_of_allBlank_left hfront,
    trim_eq_self_iff.2 hcs]

/-- Only blanks are cut off. -/
theorem exists_blanks_around (cs : List Char) :
    ∃ front back, cs = front ++ trim cs ++ back ∧ AllBlank front ∧ AllBlank back := by
  refine ⟨cs.takeWhile isBlank, (cs.dropWhile isBlank).rtakeWhile isBlank, ?_, ?_, ?_⟩
  · unfold trim
    rw [trimEnd_eq_rdropWhile, List.append_assoc, List.rdropWhile_append_rtakeWhile,
      List.takeWhile_append_dropWhile]
  · exact fun c hc => List.mem_takeWhile_imp hc
  · exact fun c hc => List.mem_rtakeWhile_imp hc

theorem isBlank_of_isDigit {c : Char} (h : c.isDigit = true) : isBlank c = false := by
  have hrange : 48 ≤ c.toNat ∧ c.toNat ≤ 57 := by
    simp only [Char.isDigit, Bool.and_eq_true, decide_eq_true_eq] at h
    exact ⟨UInt32.le_iff_toNat_le.1 h.1, UInt32.le_iff_toNat_le.1 h.2⟩
  obtain ⟨hlow, hhigh⟩ := hrange
  simp only [isBlank, Bool.or_eq_false_iff, Bool.and_eq_false_iff, decide_eq_false_iff_not,
    beq_eq_false_iff_ne]
  omega

end TrafficShaping.Text
