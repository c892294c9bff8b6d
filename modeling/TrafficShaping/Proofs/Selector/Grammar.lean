/-
How a selector is read (`parse_follows_grammar`).

The last colon of a text divides it into a host and a port. Of either part the
stars are struck out and the blanks at its ends are cut off, and what is left
says what the part constrains: nothing where nothing is left, else the host it
is, or the port that it is a numeral for. A part that is meant to be a port and
is no numeral for one constrains nothing either, but with a warning.

Reading cuts off the blanks of the whole text first, and strikes out stars only
then. Neither matters to the parts: blanks around a text come to stand at the
ends of its parts and are cut off there (`Parted.around`), and a text that has
its stars struck out has the same parts as before (`Parted.struck`). So a text
is read alike however stars are spread over it, unless it comes to be the word
for nothing.
-/
import TrafficShaping.Proofs.Selector.Canonical

namespace TrafficShaping.Selector

-- ==================================================== statement vocabulary

/-- A part of a selector without its stars and without the blanks at the ends
of what is left. -/
def bare (cs : List Char) : List Char := Text.trim (cs.filter (· != '*'))

/-- The parts of a text around its last colon. A text without one is all
host. -/
inductive Parted : List Char → List Char → List Char → Prop
  | colon {before after : List Char} (h : ':' ∉ after) :
    Parted (before ++ ':' :: after) (bare before) (bare after)
  | host {cs : List Char} (h : ':' ∉ cs) : Parted cs (bare cs) []

/-- The text is the word for nothing, blanks around it apart. -/
def SaysNothing (raw : String) : Prop := Text.trim raw.toList = "none".toList

instance (raw : String) : Decidable (SaysNothing raw) := inferInstanceAs (Decidable (_ = _))

/-- A text is read as a selector with these parts. -/
structure ReadAs (raw : String) (host port : List Char) : Prop where
  ne_nothing : parse raw ≠ .nothing
  network_eq : (parse raw).network = if host = [] then none else some (String.ofList host)
  port_iff : ∀ p, (parse raw).port = some p ↔ Text.Spells port p.toNat
  warns_iff : (∃ w, (read raw).2 = some w) ↔ port ≠ [] ∧ ∀ p : UInt16, ¬ Text.Spells port p.toNat
  /-- The warning shows the whole text and the part that is no port. -/
  warned : ∀ w ∈ (read raw).2,
    w.selector = String.ofList (Text.trim raw.toList) ∧ w.port = String.ofList port

-- =============================================================== parts

variable {cs host port host' port' blanks front back : List Char} {raw raw' : String}

/-- A half says something where there is something left of it. -/
theorem half?_eq (cs : List Char) : half? cs = if bare cs = [] then none else some (bare cs) := by
  unfold half? bare
  simp only [List.isEmpty_iff]

/-- Striking the stars twice strikes no more. -/
theorem bare_struck (cs : List Char) : bare (cs.filter (· != '*')) = bare cs := by
  unfold bare
  rw [List.filter_filter]
  simp only [Bool.and_self]

theorem bare_append_of_allBlank_left (h : Text.AllBlank blanks) :
    bare (blanks ++ cs) = bare cs := by
  unfold bare
  rw [List.filter_append, Text.trim_append_of_allBlank_left]
  exact fun c hc => h c (List.mem_of_mem_filter hc)

theorem bare_append_of_allBlank_right (h : Text.AllBlank blanks) :
    bare (cs ++ blanks) = bare cs := by
  unfold bare
  rw [List.filter_append, Text.trim_append_of_allBlank_right]
  exact fun c hc => h c (List.mem_of_mem_filter hc)

/-- The parts of a text are its halves, bare. -/
theorem parted_iff :
    Parted cs host port
      ↔ host = bare (halves cs).1 ∧ port = ((halves cs).2.map bare).getD [] := by
  unfold halves
  cases hsplit : Text.splitAtLast? ':' cs with
  | none =>
      have hno := Text.splitAtLast?_eq_none_iff.1 hsplit
      constructor
      · intro h
        cases h with
        | colon => exact absurd (by simp) hno
        | host => exact ⟨rfl, rfl⟩
      · rintro ⟨rfl, rfl⟩
        exact .host hno
  | some parts =>
      obtain ⟨before, after⟩ := parts
      obtain ⟨rfl, hno⟩ := Text.splitAtLast?_eq_some_iff.1 hsplit
      constructor
      · intro h
        generalize hcs : before ++ ':' :: after = cs at h
        cases h with
        | colon hno' =>
            have hsame := Text.splitAtLast?_eq_some_iff.2 ⟨hcs, hno'⟩
            rw [hsplit] at hsame
            obtain ⟨rfl, rfl⟩ := Prod.mk.inj (Option.some.inj hsame)
            exact ⟨rfl, rfl⟩
        | host hno' => exact absurd (by rw [← hcs]; simp) hno'
      · rintro ⟨rfl, rfl⟩
        exact .colon hno

theorem exists_parted (cs : List Char) : ∃ host port, Parted cs host port :=
  ⟨_, _, parted_iff.2 ⟨rfl, rfl⟩⟩

/-- A text has one host part and one port part. -/
theorem Parted.unique (h : Parted cs host port) (h' : Parted cs host' port') :
    host = host' ∧ port = port' := by
  obtain ⟨rfl, rfl⟩ := parted_iff.1 h
  obtain ⟨rfl, rfl⟩ := parted_iff.1 h'
  exact ⟨rfl, rfl⟩

/-- A colon is no blank, so blanks leave the last one in its place. -/
theorem colon_not_mem_of_allBlank (h : Text.AllBlank blanks) : ':' ∉ blanks :=
  fun hmem => absurd (h ':' hmem) (by decide)

/-- Blanks around a text make no difference to its parts. -/
theorem Parted.around (h : Parted cs host port) (hfront : Text.AllBlank front)
    (hback : Text.AllBlank back) : Parted (front ++ cs ++ back) host port := by
  have hno := colon_not_mem_of_allBlank hfront
  have hno' := colon_not_mem_of_allBlank hback
  cases h with
  | @colon before after hafter =>
      have hparts : Parted ((front ++ before) ++ ':' :: (after ++ back)) (bare (front ++ before))
          (bare (after ++ back)) :=
        .colon (by simp [hafter, hno'])
      rw [bare_append_of_allBlank_left hfront, bare_append_of_allBlank_right hback] at hparts
      simpa using hparts
  | host hcs =>
      have hparts : Parted (front ++ cs ++ back) (bare (front ++ cs ++ back)) [] :=
        .host (by simp [hcs, hno, hno'])
      rwa [bare_append_of_allBlank_right hback, bare_append_of_allBlank_left hfront] at hparts

/-- The parts of a text are the same without its stars. -/
theorem Parted.struck (h : Parted cs host port) :
    Parted (cs.filter (· != '*')) host port := by
  cases h with
  | @colon before after hafter =>
      have hparts : Parted (before.filter (· != '*') ++ ':' :: after.filter (· != '*'))
          (bare (before.filter (· != '*'))) (bare (after.filter (· != '*'))) :=
        .colon fun hmem => hafter (List.mem_of_mem_filter hmem)
      rw [bare_struck, bare_struck] at hparts
      simpa using hparts
  | host hcs =>
      have hparts : Parted (cs.filter (· != '*')) (bare (cs.filter (· != '*'))) [] :=
        .host fun hmem => hcs (List.mem_of_mem_filter hmem)
      rwa [bare_struck] at hparts

-- ============================================================== reading

/-- The word for nothing is read as that, and nothing is warned of. -/
theorem read_of_saysNothing (h : SaysNothing raw) : read raw = (.nothing, none) := by
  unfold SaysNothing at h
  simp only [read, h, if_true]

/-- Reading a text with these parts comes to one of three things, according to
the port. -/
theorem read_cases (hother : ¬ SaysNothing raw)
    (h : Parted (Text.trim raw.toList) host port) :
    let network := if host = [] then none else some (String.ofList host)
    (port = [] ∧ read raw = (.matching network none, none))
      ∨ (∃ p, Text.readPort port = .ok p ∧ read raw = (.matching network (some p), none))
      ∨ ∃ cause, port ≠ [] ∧ Text.readPort port = .error cause
        ∧ read raw = (.matching network none,
          some ⟨String.ofList (Text.trim raw.toList), String.ofList port, cause⟩) := by
  obtain ⟨rfl, rfl⟩ := parted_iff.1 h
  have hnetwork : ∀ front, (half? front).map String.ofList
      = if bare front = [] then none else some (String.ofList (bare front)) := by
    intro front
    rw [half?_eq]
    split <;> rfl
  unfold SaysNothing at hother
  simp only [read, hother, if_false, ← hnetwork]
  cases hback : (halves (Text.trim raw.toList)).2 with
  | none => simp
  | some back =>
      by_cases hbare : bare back = []
      · simp [half?_eq, hbare]
      · cases hport : Text.readPort (bare back) with
        | error cause => simp [half?_eq, hbare, hport]
        | ok p => simp [half?_eq, hbare, hport]

/-- Which text says nothing is decided before anything else. -/
theorem parse_eq_nothing_iff : parse raw = .nothing ↔ SaysNothing raw := by
  unfold parse
  constructor
  · intro h
    by_contra hother
    obtain ⟨host, port, hparted⟩ := exists_parted (Text.trim raw.toList)
    rcases read_cases hother hparted with ⟨-, hread⟩ | ⟨p, -, hread⟩ | ⟨cause, -, -, hread⟩ <;>
      rw [hread] at h <;> cases h
  · intro hnothing
    rw [read_of_saysNothing hnothing]

/-- The clauses of a reading, from what the two halves are read as. -/
theorem readAs_of_read {p? : Option UInt16} {warning : Option UnreadablePort}
    (hread : read raw
      = (.matching (if host = [] then none else some (String.ofList host)) p?, warning))
    (hport : ∀ p, p? = some p ↔ Text.Spells port p.toNat)
    (hwarns : (∃ w, warning = some w) ↔ port ≠ [] ∧ ∀ p : UInt16, ¬ Text.Spells port p.toNat)
    (hwarned : ∀ w ∈ warning,
      w.selector = String.ofList (Text.trim raw.toList) ∧ w.port = String.ofList port) :
    ReadAs raw host port := by
  have hparse : parse raw
      = .matching (if host = [] then none else some (String.ofList host)) p? := by
    rw [parse, hread]
  refine ⟨?_, ?_, ?_, ?_, ?_⟩
  · rw [hparse]
    exact fun h => nomatch h
  · rw [hparse, network]
  · rw [hparse]
    exact hport
  · rw [hread]
    exact hwarns
  · rw [hread]
    exact hwarned

/-- Every text but the word for nothing is read by its parts. -/
theorem readAs_of_parted (hother : ¬ SaysNothing raw) (h : Parted raw.toList host port) :
    ReadAs raw host port := by
  -- the blanks around the text are gone when it is taken apart
  obtain ⟨front, back, hraw, hfront, hback⟩ := Text.exists_blanks_around raw.toList
  have htrimmed : Parted (Text.trim raw.toList) host port := by
    obtain ⟨host', port', h'⟩ := exists_parted (Text.trim raw.toList)
    have haround := h'.around hfront hback
    rw [← hraw] at haround
    obtain ⟨rfl, rfl⟩ := h.unique haround
    exact h'
  rcases read_cases hother htrimmed with ⟨rfl, hread⟩ | ⟨p, hp, hread⟩ | ⟨cause, hport, hp, hread⟩
  · refine readAs_of_read hread (fun p => ?_) ?_ fun _ hw => nomatch hw
    · exact iff_of_false (fun h => nomatch h) Text.not_spells_nil
    · exact iff_of_false (fun h => nomatch h) fun h => h.1 rfl
  · refine readAs_of_read hread (fun p' => ?_) ?_ fun _ hw => nomatch hw
    · rw [← Text.readPort_eq_ok_iff, hp, Option.some.injEq, Except.ok.injEq]
    · exact iff_of_false (fun h => nomatch h) fun h => h.2 p (Text.readPort_eq_ok_iff.1 hp)
  · have hnone : ∀ p : UInt16, ¬ Text.Spells port p.toNat := by
      intro p
      rw [← Text.readPort_eq_ok_iff, hp]
      exact fun h => nomatch h
    refine readAs_of_read hread (fun p => ?_) ?_ ?_
    · exact iff_of_false (fun h => nomatch h) (hnone p)
    · exact iff_of_true ⟨_, rfl⟩ ⟨hport, hnone⟩
    · rintro w ⟨⟩
      exact ⟨rfl, rfl⟩

/-- Two texts that are read with the same parts are read as one selector. -/
theorem ReadAs.parse_eq (h : ReadAs raw host port) (h' : ReadAs raw' host port) :
    parse raw = parse raw' := by
  have hnetwork := h.network_eq.trans h'.network_eq.symm
  have hport : (parse raw).port = (parse raw').port :=
    Option.ext fun p => (h.port_iff p).trans (h'.port_iff p).symm
  cases hs : parse raw with
  | nothing => exact absurd hs h.ne_nothing
  | matching network p =>
      cases hs' : parse raw' with
      | nothing => exact absurd hs' h'.ne_nothing
      | matching network' p' =>
          rw [hs, hs'] at hnetwork hport
          exact congrArg₂ matching hnetwork hport

-- ======================================================== the statement

/-- A text stands for nothing when it says so. Any other text has a host and a
port around its last colon, and both, bare, are what it is read as: the host
constrains the address unless it is empty, the port constrains the port where it
is a numeral below 65536, and there is one warning where it is neither that nor
empty. So texts that differ in their stars only are read alike, unless one of
them says nothing. -/
theorem parse_follows_grammar :
    (∀ raw, parse raw = .nothing ↔ SaysNothing raw)
      ∧ (∀ raw, SaysNothing raw → (read raw).2 = none)
      ∧ (∀ raw : String, ∃ host port, Parted raw.toList host port)
      ∧ (∀ raw : String, ¬ SaysNothing raw → ∀ host port, Parted raw.toList host port →
        ReadAs raw host port)
      ∧ ∀ raw raw' : String, raw.toList.filter (· != '*') = raw'.toList.filter (· != '*') →
        ¬ SaysNothing raw → ¬ SaysNothing raw' → parse raw = parse raw' := by
  refine ⟨fun _ => parse_eq_nothing_iff, fun raw hnothing => ?_, fun _ => exists_parted _,
    fun raw hother host port => readAs_of_parted hother, fun raw raw' hstars hother hother' => ?_⟩
  · rw [read_of_saysNothing hnothing]
  · obtain ⟨host, port, h⟩ := exists_parted raw.toList
    obtain ⟨host', port', h'⟩ := exists_parted raw'.toList
    have hstruck := h.struck
    rw [hstars] at hstruck
    obtain ⟨rfl, rfl⟩ := hstruck.unique h'.struck
    exact (readAs_of_parted hother h).parse_eq (readAs_of_parted hother' h')

/-- Stars in front of digits, between colons and around blanks are struck out of
a text; a port that is one too large gives a warning and the word for nothing
none. -/
theorem parse_follows_grammar_with_stars :
    let raw := " fe80:*:1 * :\u2003+0*080 "
    let raw' := " fe80::1  :\u2003+0080* "
    ¬ SaysNothing raw ∧ ¬ SaysNothing raw' ∧ parse raw = parse raw'
      ∧ ReadAs raw "fe80::1".toList "+0080".toList ∧ Text.Spells "+0080".toList 80
      ∧ ReadAs "*:65536" [] "65536".toList ∧ (∃ w, (read "*:65536").2 = some w)
      ∧ SaysNothing "\tnone " ∧ (read "\tnone ").2 = none := by
  intro raw raw'
  obtain ⟨-, hnothing, -, hread, hsame⟩ := parse_follows_grammar
  have hother : ¬ SaysNothing raw := by decide +kernel
  have hother' : ¬ SaysNothing raw' := by decide +kernel
  refine ⟨hother, hother', hsame raw raw' (by decide +kernel) hother hother', ?_, ?_, ?_,
    ⟨_, by rfl⟩, by decide +kernel, hnothing _ (by decide +kernel)⟩
  · exact hread raw hother _ _ (parted_iff.2 (by decide +kernel))
  · have hdigits : "080".toList.all Char.isDigit = true := by decide
    exact Text.spells_plus_iff.2 ⟨by decide, List.all_eq_true.1 hdigits, by decide⟩
  · exact hread "*:65536" (by decide +kernel) _ _ (parted_iff.2 (by decide +kernel))

end TrafficShaping.Selector
