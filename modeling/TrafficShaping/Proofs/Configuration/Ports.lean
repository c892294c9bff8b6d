/-
The ports to leave alone, from the text that lists them to the filters.

A text is what stands between its commas, with the commas in their places, and
it is that of one list of pieces only. So reading it goes piece by piece: a
blank piece gives nothing, a numeral within 16 bits gives its value, and the
first piece that is neither is what reading fails with. Two texts with a comma
between them hold the pieces of both, and are therefore read one after the
other. However a list of ports is written, the pieces give it back, and every
port of it has its two filters (`excluded_ports_as_written`).
-/
import TrafficShaping.Proofs.Configuration.Layers
import TrafficShaping.Proofs.Rules.Compiled
import TrafficShaping.Proofs.Text.Numerals
import TrafficShaping.Proofs.Text.Words

namespace TrafficShaping

namespace PortList

-- ==================================================== statement vocabulary

/-- A text that has these pieces, and commas between them. -/
structure Joined (cs : List Char) (ps : List (List Char)) : Prop where
  ne_nil : ps ≠ []
  comma_free : ∀ p ∈ ps, ',' ∉ p
  eq_intercalate : cs = [','].intercalate ps

/-- A piece that may stand in a list: a blank one, or a numeral for a port. -/
def Fine (p : List Char) : Prop :=
  Text.trim p = [] ∨ ∃ n ≤ 65535, Text.Spells (Text.trim p) n

/-- The ports that pieces give, in order: a blank piece none, a numeral its value. -/
inductive Gives : List (List Char) → List UInt16 → Prop
  | nil : Gives [] []
  | blank {p : List Char} {ps : List (List Char)} {ns : List UInt16} (hp : Text.trim p = [])
    (hrest : Gives ps ns) : Gives (p :: ps) ns
  | port {p : List Char} {ps : List (List Char)} {n : UInt16} {ns : List UInt16}
    (hp : Text.Spells (Text.trim p) n.toNat) (hrest : Gives ps ns) : Gives (p :: ps) (n :: ns)

/-- The first piece that may not stand in a list. -/
def FirstBad (ps : List (List Char)) (p : List Char) : Prop :=
  ∃ before after, ps = before ++ p :: after ∧ (∀ q ∈ before, Fine q) ∧ ¬ Fine p

/-- The ways to write ports down: blanks around each, zeros in front of it, and
blank pieces anywhere. -/
inductive Written : List UInt16 → List (List Char) → Prop
  | nil : Written [] []
  | blank {p : List Char} {ps : List (List Char)} {ns : List UInt16} (hp : Text.AllBlank p)
    (hrest : Written ns ps) : Written ns (p :: ps)
  | port {front back : List Char} {zeros : Nat} {n : UInt16} {ps : List (List Char)}
    {ns : List UInt16} (hfront : Text.AllBlank front) (hback : Text.AllBlank back)
    (hrest : Written ns ps) :
    Written (n :: ns)
      ((front ++ (List.replicate zeros '0' ++ Nat.toDigits 10 n.toNat) ++ back) :: ps)

-- ============================================================ the pieces

variable {cs p q : List Char} {ps : List (List Char)} {n : UInt16} {ns : List UInt16} {f : Failure}

/-- Every text is some pieces joined by commas. -/
theorem exists_joined (cs : List Char) : ∃ ps, Joined cs ps := by
  refine ⟨cs.splitOn ',', List.splitOn_ne_nil ',' cs, fun p hp hcomma => ?_,
    (List.intercalate_splitOn ',').symm⟩
  exact absurd (Text.not_of_mem_splitOnP hp _ hcomma) (by decide)

/-- The pieces that are read are those between the commas, blank ones apart. -/
theorem pieces_of_joined (h : Joined cs ps) :
    pieces cs = (ps.map Text.trim).filter fun p => !p.isEmpty := by
  have hsplit : cs.splitOnP (· == ',') = ps := by
    rw [h.eq_intercalate]
    exact List.splitOn_intercalate ',' h.comma_free h.ne_nil
  unfold pieces
  rw [hsplit]

/-- No piece reaches over a comma. -/
theorem pieces_append_comma (as bs : List Char) :
    pieces (as ++ ',' :: bs) = pieces as ++ pieces bs := by
  unfold pieces
  rw [List.splitOnP_append_cons as bs rfl, List.map_append, List.filter_append]

/-- Two texts with a comma between them are read one after the other. -/
theorem parse_append_comma (a b : String) :
    parse (a ++ "," ++ b) = (do
      let ns ← parse a
      let ms ← parse b
      return ns ++ ms) := by
  have htext : (a ++ "," ++ b).toList = a.toList ++ ',' :: b.toList := by
    rw [String.toList_append, String.toList_append, List.append_assoc]
    rfl
  unfold parse
  rw [htext, pieces_append_comma, List.mapM_append]

-- ========================================================= one piece

/-- A piece is fine where it is blank or spells a port. -/
theorem fine_iff : Fine p ↔ Text.trim p = [] ∨ ∃ n : UInt16, Text.Spells (Text.trim p) n.toNat := by
  refine or_congr_right ⟨?_, ?_⟩
  · rintro ⟨n, hn, hspells⟩
    refine ⟨UInt16.ofNat n, ?_⟩
    rwa [UInt16.toNat_ofNat_of_lt' (Nat.lt_succ_of_le hn)]
  · rintro ⟨n, hspells⟩
    exact ⟨n.toNat, Nat.le_of_lt_succ n.toNat_lt, hspells⟩

/-- A piece is blank, or a numeral for a port, or it is what reading fails with. -/
theorem piece_cases (p : List Char) :
    Text.trim p = [] ∨ (∃ n : UInt16, Text.Spells (Text.trim p) n.toNat)
      ∨ ¬ Fine p ∧ ∃ cause, Text.readPort (Text.trim p) = .error cause := by
  by_cases hfine : Fine p
  · exact (fine_iff.1 hfine).imp_right Or.inl
  · refine Or.inr (Or.inr ⟨hfine, ?_⟩)
    cases hread : Text.readPort (Text.trim p) with
    | ok n => exact absurd (fine_iff.2 (Or.inr ⟨n, Text.readPort_eq_ok_iff.1 hread⟩)) hfine
    | error cause => exact ⟨cause, rfl⟩

-- ======================================================= piece by piece

/-- What is read off the pieces of a text. -/
def read (ps : List (List Char)) : Except Failure (List UInt16) :=
  ((ps.map Text.trim).filter fun p => !p.isEmpty).mapM port

/-- A blank piece is passed over. -/
theorem read_cons_of_blank (hp : Text.trim p = []) : read (p :: ps) = read ps := by
  unfold read
  rw [List.map_cons, hp]
  rfl

/-- A piece that is not blank has to give a port, and so have those after it. -/
theorem read_cons_of_ne_nil (hp : Text.trim p ≠ []) :
    read (p :: ps) = (do
      let n ← port (Text.trim p)
      let ns ← read ps
      return n :: ns) := by
  unfold read
  rw [List.map_cons, List.filter_cons_of_pos (by simpa using hp), List.mapM_cons]

/-- A piece that spells a port gives it in front of the others. -/
theorem read_cons_of_spells (hp : Text.Spells (Text.trim p) n.toNat) :
    read (p :: ps) = (read ps).map (n :: ·) := by
  have hne : Text.trim p ≠ [] := by
    intro hnil
    rw [hnil] at hp
    exact Text.not_spells_nil hp
  have hport : port (Text.trim p) = .ok n := by
    unfold port
    rw [Text.readPort_eq_ok_iff.2 hp]
  rw [read_cons_of_ne_nil hne, hport]
  cases read ps <;> rfl

/-- A bad piece ends the reading, whatever follows. -/
theorem read_cons_of_bad {cause : Text.NumeralError} (hp : ¬ Fine p)
    (hcause : Text.readPort (Text.trim p) = .error cause) :
    read (p :: ps) = .error (.badExcludedPort (String.ofList (Text.trim p)) cause) := by
  have hport : port (Text.trim p)
      = .error (.badExcludedPort (String.ofList (Text.trim p)) cause) := by
    unfold port
    rw [hcause]
  rw [read_cons_of_ne_nil fun hnil => hp (Or.inl hnil), hport]
  rfl

/-- What is read is what the pieces give. -/
theorem gives_of_read (h : read ps = .ok ns) : Gives ps ns := by
  induction ps generalizing ns with
  | nil =>
      obtain rfl := Except.ok.inj h
      exact .nil
  | cons p ps ih =>
      rcases piece_cases p with hp | ⟨n, hp⟩ | ⟨hp, cause, hcause⟩
      · rw [read_cons_of_blank hp] at h
        exact .blank hp (ih h)
      · rw [read_cons_of_spells hp] at h
        cases hread : read ps with
        | error f =>
            rw [hread] at h
            cases h
        | ok ms =>
            rw [hread] at h
            obtain rfl := Except.ok.inj h
            exact .port hp (ih hread)
      · rw [read_cons_of_bad hp hcause] at h
        cases h

/-- What the pieces give is read. -/
theorem read_of_gives (h : Gives ps ns) : read ps = .ok ns := by
  induction h with
  | nil => rfl
  | blank hp _ ih => rw [read_cons_of_blank hp, ih]
  | port hp _ ih =>
      rw [read_cons_of_spells hp, ih]
      rfl

/-- The pieces of a list give ports where each of them may stand in it. -/
theorem exists_gives_iff : (∃ ns, Gives ps ns) ↔ ∀ p ∈ ps, Fine p := by
  induction ps with
  | nil => exact ⟨fun _ p hp => (nomatch hp), fun _ => ⟨[], .nil⟩⟩
  | cons p ps ih =>
      rw [List.forall_mem_cons, ← ih, fine_iff]
      constructor
      · rintro ⟨ns, hgives⟩
        cases hgives with
        | blank hp hrest => exact ⟨Or.inl hp, _, hrest⟩
        | port hp hrest => exact ⟨Or.inr ⟨_, hp⟩, _, hrest⟩
      · rintro ⟨hp | ⟨n, hp⟩, ns, hrest⟩
        · exact ⟨ns, .blank hp hrest⟩
        · exact ⟨n :: ns, .port hp hrest⟩

/-- Behind a fine piece the first bad one is that of the others. -/
theorem firstBad_cons_of_fine (hp : Fine p) : FirstBad (p :: ps) q ↔ FirstBad ps q := by
  constructor
  · rintro ⟨before, after, heq, hbefore, hq⟩
    cases before with
    | nil =>
        obtain ⟨rfl, rfl⟩ := List.cons.inj heq
        exact absurd hp hq
    | cons r before =>
        obtain ⟨rfl, rfl⟩ := List.cons.inj heq
        exact ⟨before, after, rfl, (List.forall_mem_cons.1 hbefore).2, hq⟩
  · rintro ⟨before, after, rfl, hbefore, hq⟩
    exact ⟨p :: before, after, rfl, List.forall_mem_cons.2 ⟨hp, hbefore⟩, hq⟩

/-- A bad piece in front is the first. -/
theorem firstBad_cons_of_not_fine (hp : ¬ Fine p) : FirstBad (p :: ps) q ↔ q = p := by
  constructor
  · rintro ⟨before, after, heq, hbefore, -⟩
    cases before with
    | nil => exact (List.cons.inj heq).1.symm
    | cons r before =>
        obtain ⟨rfl, -⟩ := List.cons.inj heq
        exact absurd (hbefore p (List.mem_cons_self ..)) hp
  · rintro rfl
    exact ⟨[], ps, rfl, fun _ hr => (nomatch hr), hp⟩

/-- What reading fails with is the first piece that may not stand in the list. -/
theorem read_eq_error_iff :
    read ps = .error f
      ↔ ∃ p cause, FirstBad ps p ∧ Text.readPort (Text.trim p) = .error cause
        ∧ f = .badExcludedPort (String.ofList (Text.trim p)) cause := by
  induction ps with
  | nil =>
      refine iff_of_false (fun h => nomatch h) ?_
      rintro ⟨p, cause, ⟨before, after, heq, -⟩, -⟩
      exact List.append_ne_nil_of_right_ne_nil before (List.cons_ne_nil p after) heq.symm
  | cons p ps ih =>
      rcases piece_cases p with hp | ⟨n, hp⟩ | ⟨hp, cause, hcause⟩
      · rw [read_cons_of_blank hp, ih]
        simp only [firstBad_cons_of_fine (Or.inl hp)]
      · have hfine : Fine p := fine_iff.2 (Or.inr ⟨n, hp⟩)
        have hmap : (read ps).map (n :: ·) = .error f ↔ read ps = .error f := by
          cases read ps <;> simp [Except.map]
        rw [read_cons_of_spells hp, hmap, ih]
        simp only [firstBad_cons_of_fine hfine]
      · rw [read_cons_of_bad hp hcause, Except.error.injEq]
        simp only [firstBad_cons_of_not_fine hp]
        constructor
        · rintro rfl
          exact ⟨p, cause, rfl, hcause, rfl⟩
        · rintro ⟨q, cause', rfl, hcause', rfl⟩
          rw [Except.error.inj (hcause.symm.trans hcause')]

/-- A text is read piece by piece. -/
theorem parse_of_joined {raw : String} (h : Joined raw.toList ps) : parse raw = read ps := by
  unfold parse read
  rw [pieces_of_joined h]

-- ========================================================== as written

/-- Blanks and zeros around a port do not change what is read. -/
theorem gives_of_written (h : Written ns ps) : Gives ps ns := by
  induction h with
  | nil => exact .nil
  | blank hp _ ih => exact .blank (Text.trim_eq_nil_iff.2 hp) ih
  | @port _ _ zeros n _ _ hfront hback _ ih =>
      refine .port ?_ ih
      rw [Text.trim_of_trimmed hfront (Text.trimmed_of_forall ?_) hback]
      · exact Text.spells_of_zeros zeros n.toNat
      · exact fun c hc => Text.isBlank_of_isDigit (Text.isDigit_of_zeros zeros n.toNat c hc)

/-- No piece of a written list has a comma in it. -/
theorem comma_not_mem_of_written (h : Written ns ps) : ∀ p ∈ ps, ',' ∉ p := by
  have hblank : ∀ {p}, Text.AllBlank p → ',' ∉ p :=
    fun hp hcomma => absurd (hp ',' hcomma) (by decide)
  induction h with
  | nil => exact fun _ hp => nomatch hp
  | blank hp _ ih => exact List.forall_mem_cons.2 ⟨hblank hp, ih⟩
  | @port _ _ zeros n _ _ hfront hback _ ih =>
      have hdigits : ',' ∉ List.replicate zeros '0' ++ Nat.toDigits 10 n.toNat :=
        fun hcomma => absurd (Text.isDigit_of_zeros zeros n.toNat ',' hcomma) (by decide)
      refine List.forall_mem_cons.2 ⟨?_, ih⟩
      rw [List.mem_append, List.mem_append, not_or, not_or]
      exact ⟨⟨hblank hfront, hdigits⟩, hblank hback⟩

/-- A list is read from any of its writings. -/
theorem parse_of_written (h : Written ns ps) :
    parse (String.ofList ([','].intercalate ps)) = .ok ns := by
  by_cases hne : ps = []
  · subst hne
    cases h
    rfl
  · have hjoined : Joined (String.ofList ([','].intercalate ps)).toList ps :=
      ⟨hne, comma_not_mem_of_written h, String.toList_ofList⟩
    rw [parse_of_joined hjoined]
    exact read_of_gives (gives_of_written h)

end PortList

-- ========================================================= the statement

/-- Ports to leave alone are read piece by piece, and given back however they are
written. Where they are given on the command line, each has its two filters in
either direction, in the order of the list. -/
theorem excluded_ports_as_written (raw : String) :
    (∀ a b, PortList.parse (a ++ "," ++ b) = (do
        let ns ← PortList.parse a
        let ms ← PortList.parse b
        return ns ++ ms))
      ∧ (∃ ps, PortList.Joined raw.toList ps)
      ∧ (∀ ps, PortList.Joined raw.toList ps →
          ((∃ ns, PortList.parse raw = .ok ns) ↔ ∀ p ∈ ps, PortList.Fine p)
            ∧ (∀ ns, PortList.parse raw = .ok ns ↔ PortList.Gives ps ns)
            ∧ ∀ f, PortList.parse raw = .error f
                ↔ ∃ p cause, PortList.FirstBad ps p ∧ Text.readPort (Text.trim p) = .error cause
                  ∧ f = .badExcludedPort (String.ofList (Text.trim p)) cause)
      ∧ (∀ ns ps, PortList.Written ns ps →
          PortList.parse (String.ofList ([','].intercalate ps)) = .ok ns)
      ∧ ∀ i base ns, i.exclude = some raw → PortList.parse raw = .ok ns →
          ∃ policy warnings, Configuration.overlay i base = .ok (policy, warnings)
            ∧ ∀ config d, ((compile policy config).get d).filtersTo (Numbering.of d).passThrough
              = ns.flatMap fun port =>
                  [Compile.exclusion (Numbering.of d) (policy.deviceFor d) (.sourcePort port),
                    Compile.exclusion (Numbering.of d) (policy.deviceFor d)
                      (.destinationPort port)] := by
  refine ⟨PortList.parse_append_comma, PortList.exists_joined _, fun ps h => ?_,
    fun ns ps => PortList.parse_of_written, fun i base ns hraw hparse => ?_⟩
  · have hok : ∀ ns, PortList.parse raw = .ok ns ↔ PortList.Gives ps ns := by
      intro ns
      rw [PortList.parse_of_joined h]
      exact ⟨PortList.gives_of_read, PortList.read_of_gives⟩
    refine ⟨?_, hok, fun f => ?_⟩
    · rw [← PortList.exists_gives_iff]
      exact exists_congr hok
    · rw [PortList.parse_of_joined h, PortList.read_eq_error_iff]
  · have hports : Configuration.ports i base = .ok ns := by
      unfold Configuration.ports
      rw [hraw]
      exact hparse
    have hoverlay : ∃ policy warnings, Configuration.overlay i base = .ok (policy, warnings)
        ∧ policy.excludedPorts = ns := by
      rw [Configuration.overlay_eq, hports]
      exact ⟨_, _, rfl, rfl⟩
    obtain ⟨policy, warnings, hpolicy, rfl⟩ := hoverlay
    exact ⟨policy, warnings, hpolicy, filtersTo_passThrough policy⟩

/-- Two ports with blanks, zeros and an empty piece about them are read, and have
four filters. -/
theorem excluded_ports_as_written_for_two :
    PortList.parse " 22,,0080 " = .ok [22, 80]
      ∧ PortList.Gives [" 22".toList, [], "0080 ".toList] [22, 80]
      ∧ ∃ policy warnings,
          Configuration.overlay { Invocation.default with exclude := some " 22,,0080 " }
              ShapingPolicy.default = .ok (policy, warnings)
            ∧ (((compile policy .default).get .inbound).filtersTo
                (Numbering.of .inbound).passThrough).length = 4 := by
  have hwritten : PortList.Written [22, 80]
      [[' '] ++ (List.replicate 0 '0' ++ Nat.toDigits 10 (22 : UInt16).toNat) ++ [], [],
        [] ++ (List.replicate 2 '0' ++ Nat.toDigits 10 (80 : UInt16).toNat) ++ [' ']] :=
    .port (by decide) (by decide) (.blank (by decide) (.port (by decide) (by decide) .nil))
  have htext : String.ofList ([','].intercalate
      [[' '] ++ (List.replicate 0 '0' ++ Nat.toDigits 10 (22 : UInt16).toNat) ++ [], [],
        [] ++ (List.replicate 2 '0' ++ Nat.toDigits 10 (80 : UInt16).toNat) ++ [' ']])
      = " 22,,0080 " := by
    decide +kernel
  have hparse : PortList.parse " 22,,0080 " = .ok [22, 80] := by
    rw [← htext]
    exact (excluded_ports_as_written "").2.2.2.1 _ _ hwritten
  have hjoined : PortList.Joined " 22,,0080 ".toList [" 22".toList, [], "0080 ".toList] :=
    ⟨by decide, by decide, by decide⟩
  obtain ⟨policy, warnings, hpolicy, hfilters⟩ :=
    (excluded_ports_as_written " 22,,0080 ").2.2.2.2
      { Invocation.default with exclude := some " 22,,0080 " } .default _ rfl hparse
  refine ⟨hparse, ((excluded_ports_as_written " 22,,0080 ").2.2.1 _ hjoined).2.1 _ |>.1 hparse,
    policy, warnings, hpolicy, ?_⟩
  rw [hfilters]
  rfl

end TrafficShaping
