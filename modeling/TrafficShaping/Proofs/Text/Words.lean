/-
Words and the blanks between them.

The words of a text are what the text can be put together from: no word is
empty or holds a blank, and where a word ends there is a blank or the end of
the text. A text is put together from one list of words only, and that list is
what is read off it (`words_eq_iff`). Blanks at the ends belong to no word, so
a text has the same words when they are cut off (`words_trim`).
-/
import TrafficShaping.Proofs.Text.Trimming

namespace TrafficShaping.Text

-- ==================================================== statement vocabulary

/-- A text that is one word. -/
def IsWord (w : List Char) : Prop := w ≠ [] ∧ ∀ c ∈ w, isBlank c = false

/-- A text put together from words, with blanks wherever one may stand. -/
inductive Spaced : List (List Char) → List Char → Prop
  | empty : Spaced [] []
  | blank {b : Char} {ws : List (List Char)} {cs : List Char} (hb : isBlank b = true)
    (hrest : Spaced ws cs) : Spaced ws (b :: cs)
  | word {w : List Char} {ws : List (List Char)} {cs : List Char} (hw : IsWord w)
    (hends : ∀ b ∈ cs.head?, isBlank b = true) (hrest : Spaced ws cs) :
    Spaced (w :: ws) (w ++ cs)

-- ========================================================= taken apart

variable {cs blanks w : List Char} {ws : List (List Char)} {b : Char}

/-- What a text is taken apart into holds nothing of what it is taken apart at. -/
theorem not_of_mem_splitOnP {p : Char → Bool} {cs piece : List Char}
    (h : piece ∈ cs.splitOnP p) : ∀ c ∈ piece, p c = false := by
  induction cs generalizing piece with
  | nil =>
      obtain rfl : piece = [] := by simpa using h
      exact fun _ hc => nomatch hc
  | cons c cs ih =>
      rw [List.splitOnP_cons_eq_if_modifyHead] at h
      obtain ⟨front, rest, hpieces⟩ := List.exists_cons_of_ne_nil (List.splitOnP_ne_nil p cs)
      rw [hpieces] at h ih
      by_cases hc : p c = true
      · have hmem : piece = [] ∨ piece ∈ front :: rest := by simpa [hc] using h
        rcases hmem with rfl | hmem
        · exact fun _ hd => nomatch hd
        · exact ih hmem
      · have hmem : piece = c :: front ∨ piece ∈ rest := by simpa [hc] using h
        rw [Bool.not_eq_true] at hc
        rcases hmem with rfl | hmem
        · exact List.forall_mem_cons.2 ⟨hc, ih (List.mem_cons_self ..)⟩
        · exact ih (List.mem_cons_of_mem _ hmem)

theorem words_nil : words [] = [] := by
  simp [words]

/-- No word reaches over a blank. -/
theorem words_append_cons (hb : isBlank b = true) (cs ds : List Char) :
    words (cs ++ b :: ds) = words cs ++ words ds := by
  unfold words
  rw [List.splitOnP_append_cons cs ds hb, List.filter_append]

/-- A blank in front makes no difference. -/
theorem words_cons_of_isBlank (hb : isBlank b = true) (cs : List Char) :
    words (b :: cs) = words cs := by
  have hsplit := words_append_cons hb [] cs
  rwa [words_nil, List.nil_append, List.nil_append] at hsplit

/-- A word by itself is its only word. -/
theorem words_of_isWord (hw : IsWord w) : words w = [w] := by
  unfold words
  rw [List.splitOnP_eq_singleton hw.2]
  simp [hw.1]

-- ======================================================== put together

/-- One more character in front is a blank, or begins a word of its own, or
lengthens the first word. -/
theorem Spaced.exists_cons (h : Spaced ws cs) (c : Char) : ∃ ws', Spaced ws' (c :: cs) := by
  by_cases hc : isBlank c = true
  · exact ⟨ws, .blank hc h⟩
  · rw [Bool.not_eq_true] at hc
    have hword : ∀ {w}, (∀ d ∈ w, isBlank d = false) → IsWord (c :: w) :=
      fun hw => ⟨List.cons_ne_nil _ _, List.forall_mem_cons.2 ⟨hc, hw⟩⟩
    have hone : IsWord [c] := hword fun _ hd => nomatch hd
    cases h with
    | empty => exact ⟨_, .word hone (fun _ hb => nomatch hb) .empty⟩
    | blank hb hrest =>
        refine ⟨_, .word hone ?_ (.blank hb hrest)⟩
        rintro d ⟨⟩
        exact hb
    | word hw hends hrest => exact ⟨_, .word (hword hw.2) hends hrest⟩

/-- Every text is words with blanks between. -/
theorem exists_spaced (cs : List Char) : ∃ ws, Spaced ws cs := by
  induction cs with
  | nil => exact ⟨[], .empty⟩
  | cons c cs ih =>
      obtain ⟨ws, hws⟩ := ih
      exact hws.exists_cons c

/-- And those are its words. -/
theorem words_of_spaced (h : Spaced ws cs) : words cs = ws := by
  induction h with
  | empty => exact words_nil
  | blank hb _ ih => rw [words_cons_of_isBlank hb, ih]
  | @word w ws cs hw hends _ ih =>
      cases cs with
      | nil => rw [List.append_nil, words_of_isWord hw, ← ih, words_nil]
      | cons b cs =>
          have hb : isBlank b = true := hends b rfl
          rw [words_append_cons hb, words_of_isWord hw, ← ih, words_cons_of_isBlank hb,
            List.singleton_append]

/-- What is read off a text is what it is put together from. -/
theorem words_eq_iff : words cs = ws ↔ Spaced ws cs := by
  refine ⟨fun h => ?_, words_of_spaced⟩
  obtain ⟨ws', hws'⟩ := exists_spaced cs
  rwa [← h, words_of_spaced hws']

-- ================================================= blanks around a text

/-- Blanks around a text make no difference to its words. -/
theorem words_append_of_allBlank_left (h : AllBlank blanks) : words (blanks ++ cs) = words cs := by
  induction blanks with
  | nil => rfl
  | cons b blanks ih =>
      obtain ⟨hb, hblanks⟩ := List.forall_mem_cons.1 h
      rw [List.cons_append, words_cons_of_isBlank hb, ih hblanks]

theorem words_of_allBlank (h : AllBlank blanks) : words blanks = [] := by
  rw [← List.append_nil blanks, words_append_of_allBlank_left h, words_nil]

theorem words_append_of_allBlank_right (h : AllBlank blanks) :
    words (cs ++ blanks) = words cs := by
  cases blanks with
  | nil => rw [List.append_nil]
  | cons b blanks =>
      obtain ⟨hb, hblanks⟩ := List.forall_mem_cons.1 h
      rw [words_append_cons hb, words_of_allBlank hblanks, List.append_nil]

/-- The blanks at its ends matter to no word of a text. -/
theorem words_trim (cs : List Char) : words (trim cs) = words cs := by
  obtain ⟨front, back, hcs, hfront, hback⟩ := exists_blanks_around cs
  conv => rhs; rw [hcs]
  rw [words_append_of_allBlank_right hback, words_append_of_allBlank_left hfront]

/-- Only a text of blanks has no word. -/
theorem words_eq_nil_iff : words cs = [] ↔ AllBlank cs := by
  refine ⟨fun h => ?_, words_of_allBlank⟩
  rw [words_eq_iff] at h
  generalize hws : ([] : List (List Char)) = ws at h
  induction h with
  | empty => exact fun _ hc => nomatch hc
  | blank hb _ ih => exact List.forall_mem_cons.2 ⟨hb, ih hws⟩
  | word => cases hws

end TrafficShaping.Text
