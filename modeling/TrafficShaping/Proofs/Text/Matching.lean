/-
Line starts, and what a search for a pattern at line starts finds
(`exists_leftmost`).

The search passes by every line start that an earlier match reaches over, so a
match may be missed. What holds for any pattern is where that can happen: a
match that the search does not take starts inside one that it does take.
Whether there are such matches, and which, is for each pattern to settle.
-/
import Mathlib.Data.List.Pairwise
import TrafficShaping.Text.Matches

namespace TrafficShaping.Text

-- ======================================================== line starts

/-- A line starts at a position of a text: right behind a line end, or at the
front where that counts as a line start. -/
def StartsLine (front : Bool) (text : List Char) : Nat → Prop
  | 0 => front = true
  | q + 1 => text[q]? = some '\n'

variable {front : Bool} {text : List Char} {c : Char} {q : Nat}

/-- Behind its first character a text starts lines as the rest does, and that
character may end one. -/
theorem startsLine_cons_succ :
    StartsLine front (c :: text) (q + 1) ↔ StartsLine (c == '\n') text q := by
  cases q with
  | zero => simp [StartsLine]
  | succ q => simp [StartsLine]

theorem startsLine_true_iff :
    StartsLine true text q ↔ q = 0 ∨ StartsLine false text q := by
  cases q with
  | zero => simp [StartsLine]
  | succ q => simp [StartsLine]

/-- Where a text is taken apart, the second part starts a line when the first
one is empty or ends in a line end. -/
theorem startsLine_append {before rest : List Char} :
    StartsLine true (before ++ rest) before.length ↔ ∀ c ∈ before.getLast?, c = '\n' := by
  cases hlast : before.getLast? with
  | none =>
      obtain rfl := List.getLast?_eq_none_iff.1 hlast
      simp [StartsLine]
  | some c =>
      obtain ⟨front, rfl⟩ := List.getLast?_eq_some_iff.1 hlast
      simp [StartsLine]

/-- What stands between a position and a later line start ends in a line end. -/
theorem StartsLine.exists_lineEnd (h : StartsLine front text q) {start : Nat} (hlt : start < q) :
    ∃ before, text.drop start = before ++ '\n' :: text.drop q
      ∧ start + before.length + 1 = q := by
  obtain ⟨k, rfl⟩ : ∃ k, q = start + k + 1 := ⟨q - start - 1, by omega⟩
  obtain ⟨hbound, hchar⟩ := List.getElem?_eq_some_iff.1 h
  refine ⟨(text.drop start).take k, ?_, ?_⟩
  · calc text.drop start
        = (text.drop start).take k ++ text.drop (start + k) := by
          rw [← List.drop_drop, List.take_append_drop]
      _ = (text.drop start).take k ++ '\n' :: text.drop (start + k + 1) := by
          rw [List.drop_eq_getElem_cons hbound, hchar]
  · rw [List.length_take, List.length_drop]
    omega

/-- Behind its first character a text starts the lines that are left of it. -/
theorem exists_startsLine_cons {P : List Char → Prop} :
    (∃ q, StartsLine false (c :: text) q ∧ P ((c :: text).drop q))
      ↔ ∃ q, StartsLine (c == '\n') text q ∧ P (text.drop q) := by
  constructor
  · rintro ⟨q, hstart, hP⟩
    cases q with
    | zero => cases hstart
    | succ q => exact ⟨q, startsLine_cons_succ.1 hstart, hP⟩
  · rintro ⟨q, hstart, hP⟩
    exact ⟨q + 1, startsLine_cons_succ.2 hstart, hP⟩

/-- A text is split at its line ends into what it begins with and what stands
behind one of them. -/
theorem exists_splitOn_eq (text : List Char) :
    ∃ lines, text.splitOn '\n' = text.takeWhile (· != '\n') :: lines
      ∧ ∀ line, line ∈ lines
        ↔ ∃ q, StartsLine false text q ∧ line = (text.drop q).takeWhile (· != '\n') := by
  induction text with
  | nil =>
      refine ⟨[], rfl, fun line => ?_⟩
      constructor
      · intro h
        cases h
      · rintro ⟨q, hstart, -⟩
        cases q <;> simp [StartsLine] at hstart
  | cons c cs ih =>
      obtain ⟨lines, hsplit, hlines⟩ := ih
      rw [List.splitOn_cons_eq_if_modifyHead, hsplit]
      by_cases hc : c = '\n'
      -- a line ends here, so that the next one starts the rest
      · refine ⟨cs.takeWhile (· != '\n') :: lines, by simp [hc], fun line => ?_⟩
        rw [exists_startsLine_cons (P := fun rest => line = rest.takeWhile (· != '\n')),
          List.mem_cons, hlines, hc, beq_self_eq_true]
        simp only [startsLine_true_iff, or_and_right, exists_or, exists_eq_left, List.drop_zero]
      · refine ⟨lines, by simp [hc], fun line => ?_⟩
        rw [exists_startsLine_cons (P := fun rest => line = rest.takeWhile (· != '\n')), hlines,
          beq_false_of_ne hc]

/-- The lines of a text are what stands between a line start and the next line
end. -/
theorem mem_splitOn_iff {line : List Char} :
    line ∈ text.splitOn '\n'
      ↔ ∃ q, StartsLine true text q ∧ line = (text.drop q).takeWhile (· != '\n') := by
  obtain ⟨lines, hsplit, hlines⟩ := exists_splitOn_eq text
  rw [hsplit, List.mem_cons, hlines]
  simp only [startsLine_true_iff, or_and_right, exists_or, exists_eq_left, List.drop_zero]

-- ============================================================ matches

/-- A match: where it starts, what it is, and how many characters it takes
up. -/
structure Found (α : Type) where
  start : Nat
  value : α
  length : Nat

variable {α : Type} {pattern : List Char → Option (α × Nat)}

namespace Found

/-- The same match in a text with one character more in front. -/
def shift (f : Found α) : Found α := { f with start := f.start + 1 }

/-- The match stands in a text: it starts a line, and the pattern matches from
there. -/
structure In (pattern : List Char → Option (α × Nat)) (front : Bool) (text : List Char)
    (f : Found α) : Prop where
  startsLine : StartsLine front text f.start
  matched : pattern (text.drop f.start) = some (f.value, f.length)

theorem In.shift {f : Found α} (h : f.In pattern (c == '\n') text) :
    f.shift.In pattern front (c :: text) :=
  ⟨startsLine_cons_succ.2 h.startsLine, h.matched⟩

/-- A match is at the very front, or stands in what follows. -/
theorem In.cases_cons {f : Found α} (h : f.In pattern front (c :: text)) :
    f.start = 0 ∨ ∃ g : Found α, f = g.shift ∧ g.In pattern (c == '\n') text := by
  obtain ⟨start, value, length⟩ := f
  cases start with
  | zero => exact Or.inl rfl
  | succ start =>
      exact Or.inr ⟨⟨start, value, length⟩, rfl, startsLine_cons_succ.1 h.startsLine, h.matched⟩

end Found

/-- Matches as they are taken from the left, behind the first `taken`
characters. -/
structure Leftmost (pattern : List Char → Option (α × Nat)) (front : Bool) (taken : Nat)
    (text : List Char) (fs : List (Found α)) : Prop where
  sound : ∀ f ∈ fs, f.In pattern front text ∧ taken ≤ f.start
  /-- Each ends before the next one starts. -/
  apart : fs.Pairwise fun f g => f.start + f.length ≤ g.start
  /-- A match that is not taken starts inside one that is. -/
  complete : ∀ f : Found α, f.In pattern front text → taken ≤ f.start →
    f ∈ fs ∨ ∃ g ∈ fs, g.start < f.start ∧ f.start < g.start + g.length

namespace Leftmost

variable {taken length : Nat} {fs : List (Found α)}

/-- A first character is passed by where no match starts there that could be
taken. -/
theorem pass {before : Nat} (h : Leftmost pattern (c == '\n') taken text fs)
    (hle : before ≤ taken + 1)
    (hnone : ∀ f : Found α, f.In pattern front (c :: text) → before ≤ f.start →
      taken + 1 ≤ f.start) :
    Leftmost pattern front before (c :: text) (fs.map Found.shift) where
  sound := by
    intro f hf
    obtain ⟨g, hg, rfl⟩ := List.mem_map.1 hf
    obtain ⟨hin, hfrom⟩ := h.sound g hg
    exact ⟨hin.shift, Nat.le_trans hle (Nat.succ_le_succ hfrom)⟩
  apart := by
    rw [List.pairwise_map]
    refine h.apart.imp fun {f g} hfg => ?_
    show f.start + 1 + f.length ≤ g.start + 1
    omega
  complete := by
    intro f hin hfrom
    have hbehind := hnone f hin hfrom
    rcases hin.cases_cons with hzero | ⟨g, rfl, hin'⟩
    · omega
    · rcases h.complete g hin' (Nat.le_of_succ_le_succ hbehind) with hg | ⟨g', hg', hlow, hhigh⟩
      · exact Or.inl (List.mem_map_of_mem hg)
      · refine Or.inr ⟨g'.shift, List.mem_map_of_mem hg', Nat.succ_lt_succ hlow, ?_⟩
        show g.start + 1 < g'.start + 1 + g'.length
        omega

/-- A match at the front is taken before those behind it. -/
theorem take {value : α} (h : Leftmost pattern true length text fs)
    (hmatch : pattern text = some (value, length)) :
    Leftmost pattern true 0 text (⟨0, value, length⟩ :: fs) where
  sound := by
    intro f hf
    rcases List.mem_cons.1 hf with rfl | hf
    · exact ⟨⟨rfl, hmatch⟩, Nat.le_refl 0⟩
    · exact ⟨(h.sound f hf).1, Nat.zero_le _⟩
  apart := by
    refine List.pairwise_cons.2 ⟨fun f hf => ?_, h.apart⟩
    rw [Nat.zero_add]
    exact (h.sound f hf).2
  complete := by
    intro f hin _
    by_cases hbehind : length ≤ f.start
    · rcases h.complete f hin hbehind with hf | ⟨g, hg, hinside⟩
      · exact Or.inl (List.mem_cons_of_mem _ hf)
      · exact Or.inr ⟨g, List.mem_cons_of_mem _ hg, hinside⟩
    · obtain ⟨start, value', length'⟩ := f
      cases start with
      | zero =>
          have hsame := hin.matched
          rw [List.drop_zero, hmatch] at hsame
          obtain ⟨rfl, rfl⟩ := Prod.mk.inj (Option.some.inj hsame)
          exact Or.inl (List.mem_cons_self ..)
      | succ start =>
          refine Or.inr ⟨_, List.mem_cons_self .., Nat.succ_pos start, ?_⟩
          rw [Nat.zero_add]
          exact Nat.not_le.1 hbehind

end Leftmost

/-- A pattern whose matches take up at least one character. -/
def TakesUp (pattern : List Char → Option (α × Nat)) : Prop :=
  ∀ text value length, pattern text = some (value, length) → 0 < length ∧ length ≤ text.length

/-- The search takes matches from the left. -/
theorem exists_leftmost (hpattern : TakesUp pattern) (front : Bool) (taken : Nat)
    (text : List Char) :
    ∃ fs, Leftmost pattern front taken text fs
      ∧ matchesFrom pattern front taken text = fs.map (·.value) := by
  induction text generalizing front taken with
  | nil =>
      refine ⟨[], ⟨by simp, List.Pairwise.nil, fun f hin _ => ?_⟩, rfl⟩
      have hroom := hpattern _ _ _ hin.matched
      rw [List.drop_nil, List.length_nil] at hroom
      omega
  | cons c cs ih =>
      have hvalues : ∀ fs : List (Found α),
          (fs.map Found.shift).map (·.value) = fs.map (·.value) := by
        intro fs
        rw [List.map_map]
        rfl
      cases taken with
      | succ taken =>
          obtain ⟨fs, hfs, hrest⟩ := ih (c == '\n') taken
          refine ⟨fs.map Found.shift, hfs.pass (Nat.le_refl _) fun _ _ h => h, ?_⟩
          rw [hvalues, ← hrest]
          rfl
      | zero =>
          cases hmatch : if front then pattern (c :: cs) else none with
          | none =>
              obtain ⟨fs, hfs, hrest⟩ := ih (c == '\n') 0
              refine ⟨fs.map Found.shift, hfs.pass (Nat.zero_le _) fun f hin _ => ?_, ?_⟩
              · rw [Nat.zero_add, Nat.succ_le_iff, Nat.pos_iff_ne_zero]
                intro hzero
                obtain ⟨hstart, hmatched⟩ := hin
                rw [hzero] at hstart hmatched
                obtain rfl : front = true := hstart
                rw [if_pos rfl] at hmatch
                rw [List.drop_zero, hmatch] at hmatched
                cases hmatched
              · rw [hvalues, ← hrest]
                simp only [matchesFrom, hmatch]
          | some found =>
              obtain ⟨value, length⟩ := found
              obtain ⟨rfl, hmatched⟩ : front = true ∧ pattern (c :: cs) = some (value, length) := by
                cases front with
                | true => exact ⟨rfl, hmatch⟩
                | false => cases hmatch
              have hroom := (hpattern _ _ _ hmatched).1
              obtain ⟨fs, hfs, hrest⟩ := ih (c == '\n') (length - 1)
              have hbehind : Leftmost pattern true length (c :: cs) (fs.map Found.shift) :=
                hfs.pass (by omega) fun f _ h => by omega
              refine ⟨_, hbehind.take hmatched, ?_⟩
              rw [List.map_cons, hvalues, ← hrest]
              simp only [matchesFrom, if_true, hmatched]

end TrafficShaping.Text
