/-
Searching with case disregarded, said without folding.

A text mentions a phrase when some run of its characters spells the phrase,
where each character of the phrase may be spelt by any of the characters that
share its simple case folding: the letter itself, its capital, and for `s`
and `k` one character more each, the long s and the Kelvin sign. For phrases
without capitals this is what the folded search decides
(`occursFolded_iff_mentions`).
-/
import Mathlib.Data.List.Forall2
import TrafficShaping.Text.Search

namespace TrafficShaping.Text

-- ======================================================= the letters

/-- The characters that spell `p` when case is disregarded, for an ASCII
character `p` that is no capital. -/
def spellings (p : Char) : List Char :=
  p :: p.toUpper :: (if p = 's' then ['\u017f'] else if p = 'k' then ['\u212a'] else [])

/-- The characters that phrases are made of: ASCII, and no capitals. -/
def IsPhraseChar (p : Char) : Prop := p.toNat < 128 ∧ ¬ (65 ≤ p.toNat ∧ p.toNat ≤ 90)

instance (p : Char) : Decidable (IsPhraseChar p) :=
  inferInstanceAs (Decidable (p.toNat < 128 ∧ ¬ (65 ≤ p.toNat ∧ p.toNat ≤ 90)))

/-- Lowering moves the capital letters of the alphabet, and raising the small
ones. -/
theorem toNat_toLower (c : Char) :
    c.toLower.toNat = if 65 ≤ c.toNat ∧ c.toNat ≤ 90 then c.toNat + 32 else c.toNat := by
  unfold Char.toLower
  split
  case isTrue h =>
    have hlow : 65 ≤ c.toNat := h.1
    have hhigh : c.toNat ≤ 90 := h.2
    rw [if_pos ⟨hlow, hhigh⟩]
    show (c.val + ('a'.val - 'A'.val)).toNat = _
    rw [UInt32.toNat_add]
    show (c.toNat + 32) % 2 ^ 32 = _
    omega
  case isFalse h =>
    rw [if_neg]
    exact h

theorem toNat_toUpper (c : Char) :
    c.toUpper.toNat = if 97 ≤ c.toNat ∧ c.toNat ≤ 122 then c.toNat - 32 else c.toNat := by
  unfold Char.toUpper
  split
  case isTrue h =>
    have hlow : 97 ≤ c.toNat := h.1
    have hhigh : c.toNat ≤ 122 := h.2
    rw [if_pos ⟨hlow, hhigh⟩]
    show (c.val + ('A'.val - 'a'.val)).toNat = _
    rw [UInt32.toNat_add]
    -- the subtraction wraps, so the difference is added as its complement
    show (c.toNat + 4294967264) % 2 ^ 32 = _
    omega
  case isFalse h =>
    rw [if_neg]
    exact h

/-- Lowering the case yields `p` from `p` and its capital alone. -/
theorem toLower_eq_iff {c p : Char} (hp : IsPhraseChar p) :
    c.toLower = p ↔ c = p ∨ c = p.toUpper := by
  obtain ⟨-, hp⟩ := hp
  rw [← Char.toNat_inj, ← Char.toNat_inj, ← Char.toNat_inj, toNat_toLower, toNat_toUpper]
  split <;> split <;> omega

/-- A character beyond ASCII is neither `p` nor its capital. -/
theorem ne_of_beyond_ascii {c p : Char} (hp : IsPhraseChar p) (hc : 128 ≤ c.toNat) :
    c ≠ p ∧ c ≠ p.toUpper := by
  obtain ⟨hp, -⟩ := hp
  refine ⟨?_, ?_⟩
  · rintro rfl
    omega
  · intro h
    have hupper := toNat_toUpper p
    rw [← h] at hupper
    split at hupper <;> omega

/-- Folding yields `p` from exactly the characters that spell it. -/
theorem foldCase_eq_iff {c p : Char} (hp : IsPhraseChar p) :
    foldCase c = p ↔ c ∈ spellings p := by
  unfold foldCase spellings
  by_cases hlong : c = '\u017f'
  · obtain ⟨hne, hupper⟩ := ne_of_beyond_ascii hp (c := c) (by rw [hlong]; decide)
    subst hlong
    by_cases hs : p = 's'
    · simp [hs]
    · by_cases hk : p = 'k'
      · subst hk
        decide
      · simp [hs, hk, hne, hupper, Ne.symm hs]
  · by_cases hkelvin : c = '\u212a'
    · obtain ⟨hne, hupper⟩ := ne_of_beyond_ascii hp (c := c) (by rw [hkelvin]; decide)
      subst hkelvin
      by_cases hs : p = 's'
      · subst hs
        decide
      · by_cases hk : p = 'k'
        · simp [hk]
        · simp [hs, hk, hne, hupper, Ne.symm hk]
    · rw [if_neg (by simpa using hlong), if_neg (by simpa using hkelvin), toLower_eq_iff hp]
      by_cases hs : p = 's'
      · simp [hs, hlong]
      · by_cases hk : p = 'k' <;> simp [hs, hk, hkelvin]

-- ======================================================== the phrases

/-- A phrase: its characters are all of that kind. -/
def IsPhrase (phrase : List Char) : Prop := ∀ p ∈ phrase, IsPhraseChar p

instance (phrase : List Char) : Decidable (IsPhrase phrase) :=
  decidable_of_iff (phrase.all (fun p => decide (IsPhraseChar p)) = true)
    (by simp [IsPhrase])

/-- Some run of the text's characters spells the phrase. -/
def Mentions (phrase text : List Char) : Prop :=
  ∃ run, run <:+: text ∧ List.Forall₂ (fun c p => c ∈ spellings p) run phrase

/-- Folding a run yields the phrase exactly where the run spells it. -/
theorem map_foldCase_eq_iff {run phrase : List Char} (hp : IsPhrase phrase) :
    phrase = run.map foldCase ↔ List.Forall₂ (fun c p => c ∈ spellings p) run phrase := by
  induction run generalizing phrase with
  | nil => simp [List.forall₂_nil_left_iff]
  | cons c run ih =>
      cases phrase with
      | nil => simp
      | cons p phrase =>
          have hhead : IsPhraseChar p := hp p (List.mem_cons_self ..)
          have htail := ih fun q hq => hp q (List.mem_cons_of_mem _ hq)
          rw [List.map_cons, List.cons.injEq, List.forall₂_cons, htail, ← foldCase_eq_iff hhead,
            eq_comm]

/-- The folded search finds a phrase exactly where the text mentions it. -/
theorem occursFolded_iff_mentions {phrase text : List Char} (hp : IsPhrase phrase) :
    occursFolded phrase text = true ↔ Mentions phrase text := by
  unfold occursFolded Mentions
  rw [occurs_iff_isInfix, List.infix_map_iff]
  simp only [map_foldCase_eq_iff hp]

/-- A text mentions whatever it holds word for word, in whatever case it holds
it. -/
theorem mentions_of_isInfix {phrase run text : List Char} (hp : IsPhrase phrase)
    (hrun : phrase = run.map foldCase) (h : run <:+: text) : Mentions phrase text :=
  ⟨run, h, (map_foldCase_eq_iff hp).1 hrun⟩

end TrafficShaping.Text
