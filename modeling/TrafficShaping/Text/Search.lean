/-
Searching a text: where a pattern occurs in it, and the same with case
folded.

Folding is the simple case folding of Unicode as far as it reaches the ASCII
letters: besides the capitals, the long s folds to `s` and the Kelvin sign
to `k`, and no other character folds to an ASCII letter. That is all a
pattern of ASCII letters can see.
-/

namespace TrafficShaping.Text

-- ======================================================== occurrence

/-- Whether `pattern` occurs in the text as a run of consecutive
characters. -/
def occurs (pattern : List Char) : List Char → Bool
  | [] => pattern.isEmpty
  | c :: cs => pattern.isPrefixOf (c :: cs) || occurs pattern cs

/-- To occur in a text is to be an infix of it. -/
theorem occurs_iff_isInfix {pattern text : List Char} :
    occurs pattern text = true ↔ pattern <:+: text := by
  induction text with
  | nil => simp [occurs]
  | cons c cs ih => simp [occurs, ih, List.infix_cons_iff]

/-- Simple case folding onto the ASCII letters. -/
def foldCase (c : Char) : Char :=
  if c == '\u017f' then 's' else if c == '\u212a' then 'k' else c.toLower

/-- Whether `pattern`, written in lower case, occurs in the text when case is
disregarded. -/
def occursFolded (pattern text : List Char) : Bool :=
  occurs pattern (text.map foldCase)

-- =================================================== last occurrence

/-- The text around the last occurrence of a character, and nothing when it
does not occur. -/
def splitAtLast? (sep : Char) : List Char → Option (List Char × List Char)
  | [] => none
  | c :: cs =>
    match splitAtLast? sep cs with
    | some (before, after) => some (c :: before, after)
    | none => if c == sep then some ([], cs) else none

/-- There is no last occurrence exactly where there is none at all. -/
theorem splitAtLast?_eq_none_iff {sep : Char} {cs : List Char} :
    splitAtLast? sep cs = none ↔ sep ∉ cs := by
  induction cs with
  | nil => simp [splitAtLast?]
  | cons c cs ih =>
    cases h : splitAtLast? sep cs with
    | some parts =>
      have hmem : sep ∈ cs := by
        rw [h] at ih
        simpa using ih
      simp [splitAtLast?, h, hmem]
    | none =>
      have hmem : sep ∉ cs := ih.1 h
      by_cases hc : c = sep
      · simp [splitAtLast?, h, hc]
      · simp [splitAtLast?, h, hc, hmem, Ne.symm hc]

/-- The parts around the last occurrence make up the text, and the
character is not in the second one. -/
theorem splitAtLast?_eq_some_iff {sep : Char} {cs before after : List Char} :
    splitAtLast? sep cs = some (before, after)
      ↔ cs = before ++ sep :: after ∧ sep ∉ after := by
  induction cs generalizing before after with
  | nil => simp [splitAtLast?]
  | cons c cs ih =>
    cases h : splitAtLast? sep cs with
    | some parts =>
      obtain ⟨front, back⟩ := parts
      obtain ⟨hcs, hback⟩ := ih.1 h
      simp only [splitAtLast?, h, Option.some.injEq, Prod.mk.injEq]
      constructor
      · rintro ⟨rfl, rfl⟩
        exact ⟨by rw [hcs, List.cons_append], hback⟩
      · rintro ⟨heq, hafter⟩
        cases before with
        | nil =>
          obtain ⟨-, rfl⟩ := List.cons.inj heq
          exact absurd (by rw [hcs]; simp) hafter
        | cons b before =>
          obtain ⟨rfl, htail⟩ := List.cons.inj heq
          have hsame := ih.2 ⟨htail, hafter⟩
          rw [h] at hsame
          simpa using hsame
    | none =>
      have hnot : sep ∉ cs := splitAtLast?_eq_none_iff.1 h
      constructor
      · intro hfound
        by_cases hc : c = sep
        · simp [splitAtLast?, h, hc] at hfound
          obtain ⟨rfl, rfl⟩ := hfound
          exact ⟨by rw [hc, List.nil_append], hnot⟩
        · simp [splitAtLast?, h, hc] at hfound
      · rintro ⟨heq, -⟩
        cases before with
        | nil =>
          obtain ⟨rfl, rfl⟩ := List.cons.inj heq
          simp [splitAtLast?, h]
        | cons b before =>
          obtain ⟨-, htail⟩ := List.cons.inj heq
          exact absurd (by rw [htail]; simp) hnot

end TrafficShaping.Text
