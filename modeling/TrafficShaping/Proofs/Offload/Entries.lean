/-
Which offload features a report shows as on (`spoilers_enabled`).

The report is searched for entries at its line starts, and since the blanks of
an entry may run over line ends, an entry can reach over the start of a later
line and hide what stands there. It hides little: the only thing in an entry
that can begin a line, besides its own name, is its state. So a hidden entry
has a name that begins with `on` or `off`, and no feature that matters has.

Where an entry stands is said on the text alone, by taking the text apart
around it, with no regard to the search.
-/
import Mathlib.Data.List.Forall2
import Mathlib.Data.List.Sort
import Mathlib.Data.List.TakeWhile
import TrafficShaping.Proofs.Text.Matching
import TrafficShaping.Shaper.Offload
import TrafficShaping.Text.Search

namespace TrafficShaping

-- ==================================================== statement vocabulary

/-- A word begins or ends between two texts: on one side of the border there is
a character of words, and on the other side there is none. -/
def Text.WordBoundary (before after : List Char) : Prop :=
  before.getLast?.any isWordChar ≠ after.head?.any isWordChar

namespace Offload

/-- The state of a feature, written out. -/
def stateText (isOn : Bool) : List Char := if isOn then "on".toList else "off".toList

namespace Entry

/-- An entry as it is written, with the blanks before its state. -/
def written (e : Entry) (gap : List Char) : List Char :=
  e.name ++ [':'] ++ gap ++ stateText e.isOn

/-- What makes the written form one of an entry, given what follows it. The name
is all there is of name characters, as a colon is none. -/
structure Reads (e : Entry) (gap rest : List Char) : Prop where
  name_ne : e.name ≠ []
  name_chars : ∀ c ∈ e.name, isNameChar c = true
  gap_ne : gap ≠ []
  gap_blank : ∀ c ∈ gap, Text.isBlank c = true
  boundary : Text.WordBoundary (stateText e.isOn) rest

end Entry

/-- An entry stands at a position of a text: at the first character of a line
that is not blank. -/
def EntryAt (text : List Char) (p : Nat) (e : Entry) : Prop :=
  ∃ before indent gap rest,
    text = before ++ (indent ++ (e.written gap ++ rest)) ∧ p = before.length + indent.length
      ∧ (∀ c ∈ before.getLast?, c = '\n') ∧ (∀ c ∈ indent, Text.isBlank c = true ∧ c ≠ '\n')
      ∧ e.Reads gap rest

/-- At a position stands an entry of a feature that matters, and it is on. -/
def SpoilsAt (text : List Char) (p : Nat) (name : String) : Prop :=
  name ∈ features ∧ EntryAt text p ⟨name.toList, true⟩

/-- The names are those of the entries that matter and are on: one for each, in
the order of the text. -/
def Spoilers (text : List Char) (names : List String) : Prop :=
  ∃ ps : List Nat, ps.Pairwise (· < ·) ∧ (∀ p, p ∈ ps ↔ ∃ name, SpoilsAt text p name)
    ∧ List.Forall₂ (SpoilsAt text) ps names

-- ========================================================== characters

variable {c : Char} {text rest gap blanks : List Char} {e : Entry} {isOn : Bool}

/-- No character of a feature's name is a blank, so a name and the blanks in
front of it come apart in one way. -/
theorem isBlank_of_isNameChar (h : isNameChar c = true) : Text.isBlank c = false := by
  have hrange : c.toNat = 45 ∨ 48 ≤ c.toNat ∧ c.toNat ≤ 57 ∨ 97 ≤ c.toNat ∧ c.toNat ≤ 122 := by
    unfold isNameChar at h
    rw [Bool.or_eq_true, Bool.or_eq_true, beq_iff_eq] at h
    rcases h with (hlower | hdigit) | rfl
    · obtain ⟨hlow, hhigh⟩ := Bool.and_eq_true_iff.1 hlower
      exact Or.inr (Or.inr ⟨UInt32.le_iff_toNat_le.1 (of_decide_eq_true hlow),
        UInt32.le_iff_toNat_le.1 (of_decide_eq_true hhigh)⟩)
    · obtain ⟨hlow, hhigh⟩ := Bool.and_eq_true_iff.1 hdigit
      exact Or.inr (Or.inl ⟨UInt32.le_iff_toNat_le.1 (of_decide_eq_true hlow),
        UInt32.le_iff_toNat_le.1 (of_decide_eq_true hhigh)⟩)
    · exact Or.inl rfl
  simp only [Text.isBlank, Bool.or_eq_false_iff, Bool.and_eq_false_iff, decide_eq_false_iff_not,
    beq_eq_false_iff_ne]
  omega

/-- The states are written with the characters of names. -/
theorem isNameChar_of_mem_stateText (h : c ∈ stateText isOn) : isNameChar c = true := by
  have hall : (stateText isOn).all isNameChar = true := by
    cases isOn <;> decide
  exact List.all_eq_true.1 hall c h

/-- After a state a word ends unless a character of words follows. -/
theorem wordBoundary_stateText_iff :
    Text.WordBoundary (stateText isOn) rest ↔ rest.head?.any Text.isWordChar = false := by
  have hlast : (stateText isOn).getLast?.any Text.isWordChar = true := by
    cases isOn <;> decide
  unfold Text.WordBoundary
  rw [hlast]
  simp

/-- A state is read where it is written out and a word ends behind it. -/
theorem state?_eq_some_iff :
    state? text = some isOn
      ↔ ∃ rest, text = stateText isOn ++ rest ∧ Text.WordBoundary (stateText isOn) rest := by
  simp only [wordBoundary_stateText_iff]
  constructor
  · intro h
    unfold state? at h
    split at h
    next rest =>
      dsimp only at h
      split at h
      next hends =>
        obtain rfl := Option.some.inj h
        exact ⟨rest, rfl, by simpa using hends⟩
      next => cases h
    next rest =>
      dsimp only at h
      split at h
      next hends =>
        obtain rfl := Option.some.inj h
        exact ⟨rest, rfl, by simpa using hends⟩
      next => cases h
    next => cases h
  · rintro ⟨rest, rfl, hends⟩
    cases isOn <;> simp [state?, stateText, hends]

-- ========================================================== one entry

/-- A run of characters of one kind ends where one of another kind follows. -/
theorem takeWhile_append_of_head {P : Char → Bool} {run rest : List Char}
    (hrun : ∀ c ∈ run, P c = true) (hrest : ∀ c ∈ rest.head?, P c = false) :
    (run ++ rest).takeWhile P = run ∧ (run ++ rest).dropWhile P = rest := by
  rw [List.takeWhile_append_of_pos hrun, List.dropWhile_append_of_pos hrun]
  cases rest with
  | nil => simp
  | cons c rest => simp [hrest c rfl]

/-- The blanks behind a colon end where a state begins. -/
theorem head_stateText (isOn : Bool) (rest : List Char) :
    ∀ c ∈ (stateText isOn ++ rest).head?, Text.isBlank c = false := by
  cases isOn <;> simp [stateText, Text.isBlank]

theorem head_colon (rest : List Char) : ∀ c ∈ (':' :: rest).head?, isNameChar c = false := by
  intro c hc
  obtain rfl := Option.some.inj hc
  decide

/-- An entry does not begin with a blank. -/
theorem Entry.Reads.head_written (h : e.Reads gap rest) :
    ∀ c ∈ (e.written gap ++ rest).head?, Text.isBlank c = false := by
  obtain ⟨c, name, hname⟩ := List.exists_cons_of_ne_nil h.name_ne
  intro c' hc'
  obtain rfl : c = c' := by simpa [Entry.written, hname] using hc'
  exact isBlank_of_isNameChar (h.name_chars c (by rw [hname]; exact List.mem_cons_self ..))

theorem Entry.Reads.written_pos (h : e.Reads gap rest) : 0 < (e.written gap).length := by
  have hname : 0 < e.name.length := List.length_pos_iff.2 h.name_ne
  simp only [written, List.length_append]
  omega

/-- What the pattern matches is an entry behind blanks, and every entry behind
blanks is matched in full. -/
theorem entry?_eq_some_iff {length : Nat} :
    entry? text = some (e, length)
      ↔ ∃ blanks gap rest, text = blanks ++ (e.written gap ++ rest)
        ∧ (∀ c ∈ blanks, Text.isBlank c = true) ∧ e.Reads gap rest
        ∧ length = blanks.length + (e.written gap).length := by
  constructor
  · intro h
    unfold entry? at h
    dsimp only at h
    split at h
    next afterColon hcolon =>
      split at h
      next => cases h
      next hfull =>
        obtain ⟨isOn, hstate, heq⟩ := Option.map_eq_some_iff.1 h
        obtain ⟨rest, hafter, hboundary⟩ := state?_eq_some_iff.1 hstate
        obtain ⟨rfl, rfl⟩ := Prod.mk.inj heq
        rw [Bool.or_eq_true, not_or, List.isEmpty_iff, List.isEmpty_iff] at hfull
        refine ⟨text.takeWhile Text.isBlank, afterColon.takeWhile Text.isBlank, rest, ?_,
          fun c hc => List.mem_takeWhile_imp hc, ⟨hfull.1, fun c hc => List.mem_takeWhile_imp hc,
            hfull.2, fun c hc => List.mem_takeWhile_imp hc, hboundary⟩, ?_⟩
        · unfold Entry.written
          simp only [List.append_assoc, ← hafter, List.takeWhile_append_dropWhile]
          rw [List.singleton_append, ← hcolon, List.takeWhile_append_dropWhile,
            List.takeWhile_append_dropWhile]
        · cases isOn <;> simp [Entry.written, stateText] <;> omega
    next => cases h
  · rintro ⟨blanks, gap, rest, rfl, hblanks, hreads, rfl⟩
    obtain ⟨hstart, hdrop⟩ := takeWhile_append_of_head hblanks hreads.head_written
    obtain ⟨hname, hbehind⟩ := takeWhile_append_of_head hreads.name_chars
      (head_colon (gap ++ (stateText e.isOn ++ rest)))
    obtain ⟨hgap, hstate⟩ := takeWhile_append_of_head hreads.gap_blank (head_stateText e.isOn rest)
    have hwritten : e.written gap ++ rest
        = e.name ++ (':' :: (gap ++ (stateText e.isOn ++ rest))) := by
      simp [Entry.written]
    rw [hwritten] at hstart hdrop ⊢
    unfold entry?
    simp only [hstart, hdrop, hname, hbehind, hgap, hstate]
    rw [if_neg (by simp [hreads.name_ne, hreads.gap_ne]),
      state?_eq_some_iff.2 ⟨rest, rfl, hreads.boundary⟩, Option.map_some]
    obtain ⟨name, isOn⟩ := e
    cases isOn <;> simp [Entry.written, stateText] <;> omega

/-- Each match takes up a part of the text, so that the scan moves on. -/
theorem takesUp_entry : Text.TakesUp entry? := by
  intro text e length h
  obtain ⟨blanks, gap, rest, rfl, -, hreads, rfl⟩ := entry?_eq_some_iff.1 h
  have hwritten := hreads.written_pos
  simp only [List.length_append]
  omega

-- ================================================== where entries stand

variable {p : Nat} {f g : Text.Found Entry}

/-- From where an entry stands, the pattern matches it. -/
theorem EntryAt.entry?_drop (h : EntryAt text p e) :
    ∃ length, entry? (text.drop p) = some (e, length) := by
  obtain ⟨before, indent, gap, rest, rfl, rfl, -, -, hreads⟩ := h
  refine ⟨_, entry?_eq_some_iff.2 ⟨[], gap, rest, ?_, by simp, hreads, rfl⟩⟩
  rw [← List.drop_drop, List.drop_left, List.drop_left, List.nil_append]

theorem EntryAt.unique {e' : Entry} (h : EntryAt text p e) (h' : EntryAt text p e') : e = e' := by
  obtain ⟨length, hfound⟩ := h.entry?_drop
  obtain ⟨length', hfound'⟩ := h'.entry?_drop
  rw [hfound] at hfound'
  exact (Prod.mk.inj (Option.some.inj hfound')).1

/-- Where the entry of a match stands: behind the blanks that the match begins
with. -/
def standing (text : List Char) (f : Text.Found Entry) : Nat :=
  f.start + ((text.drop f.start).takeWhile Text.isBlank).length

/-- Behind blanks the entry stands right after them. -/
theorem standing_eq (hdrop : text.drop f.start = blanks ++ (e.written gap ++ rest))
    (hblanks : ∀ c ∈ blanks, Text.isBlank c = true) (hreads : e.Reads gap rest) :
    standing text f = f.start + blanks.length := by
  unfold standing
  rw [hdrop, (takeWhile_append_of_head hblanks hreads.head_written).1]

/-- The entry of a match stands within it. -/
theorem standing_lt (h : f.In entry? true text) : standing text f < f.start + f.length := by
  obtain ⟨blanks, gap, rest, hdrop, hblanks, hreads, hlength⟩ := entry?_eq_some_iff.1 h.matched
  have hwritten := hreads.written_pos
  rw [standing_eq hdrop hblanks hreads, hlength]
  omega

/-- Every match is of an entry. The blanks that it begins with may run over line
ends; the entry stands in the line of the last one. -/
theorem entryAt_standing (h : f.In entry? true text) : EntryAt text (standing text f) f.value := by
  obtain ⟨blanks, gap, rest, hdrop, hblanks, hreads, -⟩ := entry?_eq_some_iff.1 h.matched
  have htext : text = text.take f.start ++ (blanks ++ (f.value.written gap ++ rest)) := by
    rw [← hdrop, List.take_append_drop]
  have hlength : (text.take f.start).length = f.start := by
    have hroom := congrArg List.length hdrop
    have hwritten := hreads.written_pos
    simp only [List.length_append, List.length_drop] at hroom
    rw [List.length_take]
    omega
  have hlast : ∀ c ∈ (text.take f.start).getLast?, c = '\n' := by
    refine (@Text.startsLine_append _ (text.drop f.start)).1 ?_
    rw [List.take_append_drop, hlength]
    exact h.startsLine
  have hstanding : standing text f = (text.take f.start).length + blanks.length := by
    rw [standing_eq hdrop hblanks hreads, hlength]
  cases hsplit : Text.splitAtLast? '\n' blanks with
  | none =>
      have hnone := Text.splitAtLast?_eq_none_iff.1 hsplit
      refine ⟨_, blanks, gap, rest, htext, hstanding, hlast, fun c hc => ⟨hblanks c hc, ?_⟩,
        hreads⟩
      rintro rfl
      exact hnone hc
  | some parts =>
      obtain ⟨front, indent⟩ := parts
      obtain ⟨rfl, hnone⟩ := Text.splitAtLast?_eq_some_iff.1 hsplit
      refine ⟨text.take f.start ++ (front ++ ['\n']), indent, gap, rest, ?_, ?_, by simp,
        fun c hc => ⟨hblanks c (by simp [hc]), ?_⟩, hreads⟩
      · simpa using htext
      · rw [hstanding]
        simp only [List.length_append, List.length_cons, List.length_nil]
        omega
      · rintro rfl
        exact hnone hc

/-- Every entry makes a match: one that starts with the entry's line. -/
theorem EntryAt.exists_in (h : EntryAt text p e) :
    ∃ f : Text.Found Entry, f.In entry? true text ∧ f.value = e ∧ standing text f = p := by
  obtain ⟨before, indent, gap, rest, rfl, rfl, hlast, hindent, hreads⟩ := h
  have hblanks : ∀ c ∈ indent, Text.isBlank c = true := fun c hc => (hindent c hc).1
  refine ⟨⟨before.length, e, indent.length + (e.written gap).length⟩,
    ⟨Text.startsLine_append.2 hlast, ?_⟩, rfl, standing_eq List.drop_left hblanks hreads⟩
  rw [List.drop_left]
  exact entry?_eq_some_iff.2 ⟨indent, gap, rest, rfl, hblanks, hreads, rfl⟩

-- ====================================================== hidden entries

/-- A line end in a text of two parts is in the first part or in the second. -/
theorem lineEnd_cases {first second before after : List Char}
    (h : first ++ second = before ++ '\n' :: after) :
    (∃ rest, first = before ++ '\n' :: rest ∧ after = rest ++ second)
      ∨ ∃ rest, before = first ++ rest ∧ second = rest ++ '\n' :: after := by
  rcases List.append_eq_append_iff.1 h with hsecond | ⟨rest, hfirst, hrest⟩
  · exact Or.inr hsecond
  · cases rest with
    | nil => exact Or.inr ⟨[], by simpa using hfirst.symm, by simpa using hrest.symm⟩
    | cons c rest =>
        rw [List.cons_append, List.cons.injEq] at hrest
        obtain ⟨rfl, rfl⟩ := hrest
        exact Or.inl ⟨rest, hfirst, rfl⟩

/-- The name of a match that begins, blanks apart, with a state. -/
theorem begins_with_stateText {indent : List Char} (hf : f.In entry? true text)
    (hdrop : text.drop f.start = indent ++ (stateText isOn ++ rest))
    (hindent : ∀ c ∈ indent, Text.isBlank c = true) : stateText isOn <+: f.value.name := by
  obtain ⟨blanks, gap, rest', hdrop', hblanks, hreads, -⟩ := entry?_eq_some_iff.1 hf.matched
  have hsame : stateText isOn ++ rest = f.value.written gap ++ rest' := by
    have hbehind := (takeWhile_append_of_head hblanks hreads.head_written).2
    rw [← hdrop', hdrop] at hbehind
    rw [← hbehind, (takeWhile_append_of_head hindent (head_stateText isOn rest)).2]
  refine ⟨rest.takeWhile isNameChar, ?_⟩
  calc stateText isOn ++ rest.takeWhile isNameChar
      = (stateText isOn ++ rest).takeWhile isNameChar :=
        (List.takeWhile_append_of_pos fun _ => isNameChar_of_mem_stateText).symm
    _ = (f.value.name ++ (':' :: (gap ++ (stateText f.value.isOn ++ rest')))).takeWhile
          isNameChar := by rw [hsame]; simp [Entry.written]
    _ = f.value.name := (takeWhile_append_of_head hreads.name_chars (head_colon _)).1

/-- A match that starts inside another one is of the same entry, or of one whose
name begins with a state. -/
theorem hidden_cases (hf : f.In entry? true text) (hg : g.In entry? true text)
    (hlow : g.start < f.start) (hhigh : f.start < g.start + g.length) :
    standing text f = standing text g ∨ ∃ isOn, stateText isOn <+: f.value.name := by
  obtain ⟨blanks, gap, rest, hdrop, hblanks, hreads, hlength⟩ := entry?_eq_some_iff.1 hg.matched
  obtain ⟨before, hcut, hstart⟩ := hf.startsLine.exists_lineEnd hlow
  have hparts : blanks ++ ((g.value.name ++ [':']) ++ (gap ++ (stateText g.value.isOn ++ rest)))
      = before ++ '\n' :: text.drop f.start := by
    rw [← hcut, hdrop]
    simp [Entry.written]
  -- the line end before the inner match is in one of the parts of the outer one
  rcases lineEnd_cases hparts with ⟨indent, hindent, hinner⟩ | ⟨before₁, hbefore₁, hparts₁⟩
  · have hblanks' : ∀ c ∈ indent, Text.isBlank c = true := by
      intro c hc
      exact hblanks c (by simp [hindent, hc])
    have hwritten : text.drop f.start = indent ++ (g.value.written gap ++ rest) := by
      rw [hinner]
      simp [Entry.written]
    have hlengths := congrArg List.length hindent
    rw [List.length_append, List.length_cons] at hlengths
    left
    rw [standing_eq hwritten hblanks' hreads, standing_eq hdrop hblanks hreads]
    omega
  rcases lineEnd_cases hparts₁ with ⟨name, hname, -⟩ | ⟨before₂, hbefore₂, hparts₂⟩
  · exfalso
    have hmem : '\n' ∈ g.value.name ++ [':'] := by simp [hname]
    rcases List.mem_append.1 hmem with hmem | hmem
    · exact absurd (hreads.name_chars _ hmem) (by decide)
    · exact absurd hmem (by decide)
  rcases lineEnd_cases hparts₂ with ⟨indent, hgap, hinner⟩ | ⟨before₃, hbefore₃, hparts₃⟩
  · refine Or.inr ⟨_, begins_with_stateText hf hinner fun c hc => ?_⟩
    exact hreads.gap_blank c (by simp [hgap, hc])
  exfalso
  rcases lineEnd_cases hparts₃ with ⟨_, hstate, -⟩ | ⟨before₄, hbefore₄, -⟩
  · have hmem : '\n' ∈ stateText g.value.isOn := by simp [hstate]
    exact absurd (isNameChar_of_mem_stateText hmem) (by decide)
  · simp only [Entry.written, List.length_append] at hlength
    rw [hbefore₁, hbefore₂, hbefore₃, hbefore₄] at hstart
    simp only [List.length_append] at hstart
    omega

/-- No feature that matters has a name that begins with a state. -/
theorem not_stateText_prefix_features {name : String} (h : name ∈ features) :
    ¬ stateText isOn <+: name.toList := by
  cases isOn <;> revert name <;> decide

-- ============================================================= the scan

/-- An entry that matters and is on. -/
def Entry.spoils (e : Entry) : Bool := e.isOn && features.contains (String.ofList e.name)

/-- The test on an entry asks for the name of a feature that matters, and for
the state on. -/
theorem spoils_iff : e.spoils = true ↔ ∃ name ∈ features, e = ⟨name.toList, true⟩ := by
  obtain ⟨chars, isOn⟩ := e
  unfold Entry.spoils
  rw [Bool.and_eq_true, List.contains_iff_mem]
  constructor
  · rintro ⟨hon, hmem⟩
    exact ⟨_, hmem, by simpa using hon⟩
  · rintro ⟨name, hmem, heq⟩
    obtain ⟨rfl, rfl⟩ := Entry.mk.inj heq
    exact ⟨rfl, by rwa [String.ofList_toList]⟩

/-- What spoils a limit is not hidden by a match before it: it is found, as the
search takes matches from the left. -/
theorem exists_found {fs : List (Text.Found Entry)} (hfs : Text.Leftmost entry? true 0 text fs)
    (h : EntryAt text p e) (hspoils : e.spoils = true) :
    ∃ f ∈ fs, f.value = e ∧ standing text f = p := by
  obtain ⟨name, hmem, rfl⟩ := spoils_iff.1 hspoils
  obtain ⟨f, hin, hvalue, hstanding⟩ := h.exists_in
  rcases hfs.complete f hin (Nat.zero_le _) with hf | ⟨g, hg, hlow, hhigh⟩
  · exact ⟨f, hf, hvalue, hstanding⟩
  · have hgin := (hfs.sound g hg).1
    rcases hidden_cases hin hgin hlow hhigh with hsame | ⟨isOn, hstate⟩
    · have hstands : standing text g = p := by rw [← hsame, hstanding]
      exact ⟨g, hg, (hstands ▸ entryAt_standing hgin).unique h, hstands⟩
    · rw [hvalue] at hstate
      exact absurd hstate (not_stateText_prefix_features hmem)

/-- The features that are found on are those of the entries that matter and are
on, in the order of the text. -/
theorem spoilers_enabled (report : String) : Spoilers report.toList (enabled report) := by
  obtain ⟨fs, hfs, hentries⟩ := Text.exists_leftmost takesUp_entry true 0 report.toList
  let spoiling := fs.filter fun f => f.value.spoils
  have henabled : enabled report = spoiling.map fun f => String.ofList f.value.name := by
    unfold enabled entries Text.lineMatches
    rw [hentries, List.filter_map, List.map_map]
    rfl
  have hspoiling : ∀ f ∈ spoiling,
      SpoilsAt report.toList (standing report.toList f) (String.ofList f.value.name) := by
    intro f hf
    obtain ⟨hmem, hspoils⟩ := List.mem_filter.1 hf
    obtain ⟨name, hfeature, hvalue⟩ := spoils_iff.1 hspoils
    have hentry := entryAt_standing (hfs.sound f hmem).1
    rw [hvalue] at hentry
    rw [hvalue, String.ofList_toList]
    exact ⟨hfeature, hentry⟩
  refine ⟨spoiling.map (standing report.toList), ?_, fun p => ⟨fun hp => ?_, ?_⟩, ?_⟩
  · rw [List.pairwise_map]
    refine (hfs.apart.filter _).imp_of_mem fun {f g} hf _ hbefore => ?_
    have hlt := standing_lt (hfs.sound f (List.mem_of_mem_filter hf)).1
    have hle : g.start ≤ standing report.toList g := Nat.le_add_right ..
    omega
  · obtain ⟨f, hf, rfl⟩ := List.mem_map.1 hp
    exact ⟨_, hspoiling f hf⟩
  · rintro ⟨name, hfeature, hentry⟩
    have hspoils := spoils_iff.2 ⟨name, hfeature, rfl⟩
    obtain ⟨f, hf, hvalue, rfl⟩ := exists_found hfs hentry hspoils
    exact List.mem_map_of_mem (List.mem_filter.2 ⟨hf, by rwa [hvalue]⟩)
  · rw [henabled, List.forall₂_map_left_iff, List.forall₂_map_right_iff, List.forall₂_same]
    exact hspoiling

/-- An entry can be hidden, its name beginning with the state of the one before. -/
example : entries "a:\non-b: on" = [⟨"a".toList, true⟩] := by decide

theorem SpoilsAt.unique {name name' : String} (h : SpoilsAt text p name)
    (h' : SpoilsAt text p name') : name = name' :=
  String.toList_inj.1 (Entry.mk.inj (h.2.unique h'.2)).1

/-- A text has its spoilers in one way only. -/
theorem Spoilers.unique {names names' : List String} (h : Spoilers text names)
    (h' : Spoilers text names') : names = names' := by
  obtain ⟨ps, hsorted, hps, hnames⟩ := h
  obtain ⟨ps', hsorted', hps', hnames'⟩ := h'
  obtain rfl : ps = ps' := hsorted.eq_of_mem_iff hsorted' fun p => by rw [hps, hps']
  have hone : Relator.RightUnique (SpoilsAt text) := fun _ _ _ => SpoilsAt.unique
  exact List.right_unique_forall₂' hone hnames hnames'

theorem Spoilers.ne_nil_iff {names : List String} (h : Spoilers text names) :
    names ≠ [] ↔ ∃ p name, SpoilsAt text p name := by
  obtain ⟨ps, -, hps, hnames⟩ := h
  cases hnames with
  | nil => simpa using hps
  | cons hhead _ => exact ⟨fun _ => ⟨_, _, hhead⟩, fun _ => List.cons_ne_nil _ _⟩

/-- A report shows nothing as on that matters exactly where no such entry stands
in it. -/
theorem enabled_eq_nil_iff {report : String} :
    enabled report = [] ↔ ¬ ∃ p name, SpoilsAt report.toList p name := by
  rw [← (spoilers_enabled report).ne_nil_iff, ne_eq, not_not]

end Offload

end TrafficShaping
