/-
What is written as JSON is read back (`json_forms_read_back`).

Only selectors stand in the way. One is written as its text, and the text is
parsed when it is read, so a selector comes back as what its text stands for.
Everything else in a policy or a profile comes back as it was, so that these
are read back exactly when their selectors are. Selectors that were parsed are
canonical and cause no loss, which is why all that was read once is stable, and
why every policy that a command line leads to is read back.
-/
import TrafficShaping.Proofs.Configuration.Layers
import TrafficShaping.Proofs.Json.Records
import TrafficShaping.Proofs.Program.Rehearsal
import TrafficShaping.Proofs.Selector.Canonical

namespace TrafficShaping

open Json

-- ==================================================== statement vocabulary

/-- The selectors of a policy. -/
def ShapingPolicy.selectors (p : ShapingPolicy) : List Selector := [p.source, p.destination]

/-- The selectors that a profile has. -/
def Profile.selectors (p : Profile) : List Selector := p.source.toList ++ p.destination.toList

/-- The policy that a document reports as compiled. A dry run has its report
beside the commands. -/
def Json.compiled? (dry : Bool) (document : Json) : Option CompiledPolicy := do
  let report ← if dry then document.member? "result" else some document
  ofJson? (← report.member? "compiled")

-- ============================================================ selectors

namespace Selector

theorem read_toJson (o : MemberOrder) (s : Selector) :
    ofJson? ((toJson s).inOrder o) = some (parse s.render) := by
  show (ofJson? ((Json.str s.render).inOrder o)).map parse = _
  rw [inOrder_str]
  rfl

theorem readsBack_iff (o : MemberOrder) (s : Selector) :
    ReadsBack o s ↔ parse s.render = s := by
  unfold ReadsBack
  rw [read_toJson, Option.some_inj]

theorem canonical_of_ofJson? {j : Json} {s : Selector} (h : ofJson? j = some s) :
    s.Canonical := by
  obtain ⟨raw, -, rfl⟩ := Option.map_eq_some_iff.1 h
  exact parse_canonical raw

/-- A member that has to be there is read as a canonical selector. -/
theorem canonical_of_need {member : Option Json} {s : Selector} (h : need member = some s) :
    s.Canonical := by
  obtain ⟨j, -, hj⟩ := Option.bind_eq_some_iff.1 h
  exact canonical_of_ofJson? hj

/-- A member that may be missing is read as a canonical selector, if as one. -/
theorem canonical_of_allow {member : Option Json} {x : Option Selector}
    (h : allow member = some x) : ∀ s ∈ x, s.Canonical := by
  rintro s rfl
  cases member with
  | none => cases h
  | some j => exact canonical_of_ofJson? (ofJson?_of_option h)

theorem stable : Stable Selector := by
  intro o j s h
  rw [readsBack_iff]
  exact parse_render (canonical_of_ofJson? h)

end Selector

-- ============================================================= policies

theorem RawParams.lossless : Lossless RawParams := fun _ _ => readsBack_of_str rfl rfl

theorem ShapingSpec.lossless : Lossless ShapingSpec := by
  intro o s
  refine read_record ["bandwidth_limit", "impairment", "reorder_on_jitter"] (by decide) rfl ?_
  simp only [List.map_cons, List.map_nil,
    allow_toJson (lossless_option rfl RawParams.lossless), need_toJson lossless_bool]
  rfl

namespace ShapingPolicy

/-- A policy comes back with its selectors parsed from their texts. -/
theorem read_toJson (o : MemberOrder) (p : ShapingPolicy) :
    ofJson? ((toJson p).inOrder o) = some { p with
      source := Selector.parse p.source.render
      destination := Selector.parse p.destination.render } := by
  have hselector : ∀ s : Selector,
      need (some ((toJson s).inOrder o)) = some (Selector.parse s.render) := Selector.read_toJson o
  refine read_record ["interface", "mirror_device", "shaping", "from", "to", "exclude_ports"]
    (by decide) rfl ?_
  simp only [List.map_cons, List.map_nil, hselector, need_toJson lossless_string,
    need_toJson ShapingSpec.lossless, need_toJson (lossless_list lossless_uint16)]
  rfl

theorem readsBack_iff (o : MemberOrder) (p : ShapingPolicy) :
    ReadsBack o p ↔ ∀ s ∈ p.selectors, Selector.parse s.render = s := by
  unfold ReadsBack selectors
  rw [read_toJson, Option.some_inj]
  obtain ⟨interface, mirrorDevice, shaping, source, destination, excludedPorts⟩ := p
  simp

theorem canonical_of_ofJson? {j : Json} {p : ShapingPolicy} (h : ofJson? j = some p) :
    ∀ s ∈ p.selectors, s.Canonical := by
  -- an object or an array: either way both selectors went through the parser
  obtain ⟨members, -, h⟩ := Option.bind_eq_some_iff.1 h
  split at h
  · simp only [bind, Option.bind_eq_some_iff] at h
    obtain ⟨_, -, _, -, _, -, source, hsource, destination, hdestination, _, -, heq⟩ := h
    obtain rfl := Option.some.inj heq
    intro s hs
    rcases List.mem_pair.1 hs with rfl | rfl
    · exact Selector.canonical_of_need hsource
    · exact Selector.canonical_of_need hdestination
  · cases h

theorem stable : Stable ShapingPolicy := by
  intro o j p h
  rw [readsBack_iff]
  exact fun s hs => Selector.parse_render (canonical_of_ofJson? h s hs)

end ShapingPolicy

-- ============================================================= profiles

namespace Profile

/-- A profile has the selectors of its two ends, where it has them. -/
theorem mem_selectors {p : Profile} {s : Selector} :
    s ∈ p.selectors ↔ s ∈ p.source ∨ s ∈ p.destination := by
  unfold selectors
  rw [List.mem_append, Option.mem_toList, Option.mem_toList]
  exact Iff.rfl

/-- The profile of the members of a record. -/
def ofMembers? : List (Option Json) → Option Profile
  | [description, interface, bandwidth, impairment, source, destination, exclude, reorder] =>
      return ⟨← (description.map ofJson?).getD (some ""), ← allow interface, ← allow bandwidth,
        ← allow impairment, ← allow source, ← allow destination, ← allow exclude,
        ← allow reorder⟩
  | _ => none

/-- Whether a value has a member that no profile has. -/
def strays : Json → Bool
  | .obj fields => fields.any fun f => (Field.ofName? f.1).isNone
  | _ => false

/-- A profile is read from its members, unless the object has others. -/
theorem ofJson?_eq (j : Json) :
    ofJson? j
      = if strays j then none else (j.members? (Field.all.map Field.name)).bind ofMembers? := by
  cases j with
  | obj fields =>
      show (if strays (Json.obj fields) = true then _ else _) = _
      split
      · rfl
      · rfl
  | null | bool | int | fraction | str | arr => rfl

/-- The order of the members does not matter for that. -/
theorem strays_inOrder (o : MemberOrder) (fields : List (String × Json)) :
    strays ((Json.obj fields).inOrder o) = strays (.obj fields) := by
  obtain ⟨members, hobj, hperm⟩ := inOrder_obj o fields
  rw [hobj]
  show (members.any fun f => (Field.ofName? f.1).isNone) = _
  rw [hperm.any_eq, List.any_map]
  rfl

/-- Every member that is written is one of a profile. -/
theorem strays_toJson (o : MemberOrder) (p : Profile) : strays ((toJson p).inOrder o) = false :=
  (strays_inOrder o _).trans rfl

/-- A profile comes back with its selectors parsed from their texts. -/
theorem read_toJson (o : MemberOrder) (p : Profile) :
    ofJson? ((toJson p).inOrder o) = some { p with
      source := p.source.map fun s : Selector => Selector.parse s.render
      destination := p.destination.map fun s : Selector => Selector.parse s.render } := by
  have hselector : ∀ x : Option Selector, allow (some ((toJson x).inOrder o))
      = some (x.map fun s : Selector => Selector.parse s.render) :=
    read_option rfl (Selector.read_toJson o)
  have hdescription : ((some ((toJson p.description).inOrder o)).map ofJson?).getD (some "")
      = some p.description := lossless_string o p.description
  rw [ofJson?_eq, strays_toJson, if_neg Bool.false_ne_true]
  refine read_record (Field.all.map Field.name) (by decide) rfl ?_
  simp only [List.map_cons, List.map_nil, ofMembers?, hdescription, hselector,
    allow_toJson (lossless_option rfl lossless_string),
    allow_toJson (lossless_option rfl (lossless_list lossless_uint16)),
    allow_toJson (lossless_option rfl lossless_bool)]
  rfl

theorem readsBack_iff (o : MemberOrder) (p : Profile) :
    ReadsBack o p ↔ ∀ s ∈ p.selectors, Selector.parse s.render = s := by
  unfold ReadsBack selectors
  rw [read_toJson, Option.some_inj]
  obtain ⟨description, interface, bandwidth, impairment, source, destination, exclude, reorder⟩ := p
  cases source <;> cases destination <;> simp

theorem canonical_of_ofJson? {j : Json} {p : Profile} (h : ofJson? j = some p) :
    ∀ s ∈ p.selectors, s.Canonical := by
  rw [ofJson?_eq] at h
  split at h
  · cases h
  obtain ⟨members, -, h⟩ := Option.bind_eq_some_iff.1 h
  unfold ofMembers? at h
  split at h
  · simp only [bind, Option.bind_eq_some_iff] at h
    obtain ⟨_, -, _, -, _, -, _, -, source, hsource, destination, hdestination,
      _, -, _, -, heq⟩ := h
    obtain rfl := Option.some.inj heq
    intro s hs
    rcases mem_selectors.1 hs with hs | hs
    · exact Selector.canonical_of_allow hsource s hs
    · exact Selector.canonical_of_allow hdestination s hs
  · cases h

theorem stable : Stable Profile := by
  intro o j p h
  rw [readsBack_iff]
  exact fun s hs => Selector.parse_render (canonical_of_ofJson? h s hs)

end Profile

-- ======================================================= configurations

namespace Profile

/-- The selectors of a profile were read from texts, so they are canonical. -/
theorem canonical_ofValues (value : Field → Option Json5.Tree) :
    ∀ s ∈ (ofValues value).selectors, s.Canonical := by
  intro s hs
  rcases mem_selectors.1 hs with hs | hs
  · obtain ⟨raw, -, rfl⟩ := Option.map_eq_some_iff.1 hs
    exact Selector.parse_canonical raw
  · obtain ⟨raw, -, rfl⟩ := Option.map_eq_some_iff.1 hs
    exact Selector.parse_canonical raw

/-- A profile that was loaded has canonical selectors. -/
theorem canonical_of_load {fs : Files} {dirs : List String} {reference : String} {r : Reading}
    (h : load fs dirs reference = .ok r) : ∀ s ∈ r.profile.selectors, s.Canonical := by
  obtain ⟨path, -, h⟩ := bind_eq_ok h
  split at h
  · next r' hfile =>
    obtain rfl := Except.ok.inj h
    obtain ⟨text, -, hparse⟩ := bind_eq_ok hfile
    obtain ⟨tree, -, hread⟩ := readFrom_of_parse hparse
    rw [hread.holds]
    exact canonical_ofValues _
  · cases h

end Profile

namespace Configuration

variable {around : Surroundings} {i : Invocation} {c : Configuration}

/-- So has the profile of an invocation. -/
theorem canonical_of_hasProfile {p : Profile} (h : HasProfile around i p) :
    ∀ s ∈ p.selectors, s.Canonical := by
  rcases h with ⟨-, rfl⟩ | ⟨reference, r, -, hload, rfl⟩
  · exact fun s hs => nomatch hs
  · exact Profile.canonical_of_load hload

/-- Where a selector is not given, it is one of the profile or the default. -/
theorem canonical_overlay {given : Option String} {laid : Option Selector} {otherwise : Selector}
    (hlaid : ∀ s ∈ laid, s.Canonical) (hotherwise : otherwise.Canonical) :
    (((given.map Selector.parse).or laid).getD otherwise).Canonical := by
  cases given with
  | some raw => exact Selector.parse_canonical raw
  | none =>
      cases laid with
      | some s => exact hlaid s rfl
      | none => exact hotherwise

/-- So has every configuration. -/
theorem canonical_of_ok {ws : List UnreadablePort} (h : of around i = .ok (c, ws)) :
    ∀ s ∈ c.policy.selectors, s.Canonical := by
  obtain ⟨p, hprofile, hfields⟩ := overlaid_of_ok h
  have hlaid := canonical_of_hasProfile hprofile
  intro s hs
  rcases List.mem_pair.1 hs with rfl | rfl
  · rw [hfields.source]
    exact canonical_overlay (fun s hs => hlaid s (Profile.mem_selectors.2 (Or.inl hs))) trivial
  · rw [hfields.destination]
    refine canonical_overlay (fun s hs => hlaid s (Profile.mem_selectors.2 (Or.inr hs))) ?_
    decide

end Configuration

-- ================================================================ runs

namespace Program

variable {w : World} {i : Invocation} {c : Configuration} {output : String}

/-- What a run prints is the outcome of its action under some runner. -/
theorem exists_outcome_of_printed (h : (runInvocation w i).ending = .printed output) :
    ∃ c ws runner o commands, Configuration.of w.surroundings i = .ok (c, ws)
      ∧ c.validate = .ok () ∧ ((act c).under runner).1 = .ok o
      ∧ output = if c.dryRun then o.printDry commands c.json else o.print c.json := by
  rcases runInvocation_cases w i with ⟨f, -, hrun⟩ | ⟨c, ws, hof, hcases⟩
  · rw [hrun] at h
    exact absurd h (Run.failed_ne_printed f output)
  rcases hcases with ⟨f, -, hrun⟩ | ⟨hvalid, hdry, hrun⟩ | ⟨hvalid, hreal, hrun⟩
  · rw [hrun] at h
    exact absurd h (Run.failed_ne_printed f output)
  · rw [hrun] at h
    unfold dryRun at h
    split at h
    · next o t hact =>
      refine ⟨c, ws, Runner.dry, o, t.commands.map Command.render, hof, hvalid, by rw [hact], ?_⟩
      rw [hdry, if_pos rfl]
      exact (Ending.printed.inj h).symm
    · cases h
  · rw [hrun] at h
    rcases realRun_cases w c with ⟨f, -, hfailed⟩ | ⟨-, -, ⟨o, hact, hending⟩ | ⟨fault, -, hending⟩⟩
    · rw [hfailed] at h
      exact absurd h (Run.failed_ne_printed f output)
    · refine ⟨c, ws, w.runner, o, [], hof, hvalid, hact, ?_⟩
      rw [hending] at h
      rw [hreal, if_neg Bool.false_ne_true]
      exact (Ending.printed.inj h).symm
    · rw [hending] at h
      cases h

/-- Whatever the tools do, installing reports what was compiled. -/
theorem exists_report_of_act {runner : Runner} {o : Outcome} (hvalid : c.validate = .ok ())
    (haction : c.action = .apply) (h : ((act c).under runner).1 = .ok o) :
    ∃ report : ApplyReport, o = Outcome.ofApply c.policy.interface report
      ∧ report.compiled = compile c.policy c.compiler := by
  obtain ⟨hi, hm⟩ := Configuration.names_of_validate hvalid
  rw [act_of_apply haction, Session.under_map] at h
  rcases Shaper.apply_through_or_stopped (s := c.shaper) hi hm runner with
    ⟨t, warnings, ws, -, happly⟩ | ⟨fault, t, -, happly⟩
  · rw [happly] at h
    exact ⟨_, (Except.ok.inj h).symm, rfl⟩
  · rw [happly] at h
    cases h

/-- The compiled policy is read from a report. -/
theorem compiled?_report (o : MemberOrder) (r : ApplyReport) :
    (r.toJson.inOrder o).compiled? false = some r.compiled := by
  have hmember : (r.toJson.inOrder o).member? "compiled"
      = some ((JsonForm.toJson r.compiled).inOrder o) :=
    member?_inOrder o ["compiled", "rules_installed", "warnings"] (by decide) rfl
      (List.mem_cons_self ..)
  show ((r.toJson.inOrder o).member? "compiled").bind ofJson? = _
  rw [hmember]
  exact CompiledPolicy.lossless o r.compiled

/-- It is read from a dry run's report as well, one member further down. -/
theorem compiled?_dry (o : MemberOrder) (r : ApplyReport) (commands : List Json) :
    ((Json.obj [("result", r.toJson), ("commands", .arr commands)]).inOrder o).compiled? true
      = some r.compiled := by
  have hmember : ((Json.obj [("result", r.toJson), ("commands", .arr commands)]).inOrder o).member?
      "result" = some (r.toJson.inOrder o) :=
    member?_inOrder o ["result", "commands"] (by decide) rfl (List.mem_cons_self ..)
  show (Json.member? "result" _).bind (compiled? false) = _
  rw [hmember]
  exact compiled?_report o r

/-- What a run that installs prints is the text of a document, from which the
compiled policy is read. -/
theorem reads_back_of_printed (hjson : i.json = true) (haction : i.action = .apply)
    (h : (runInvocation w i).ending = .printed output) :
    ∃ c ws document, Configuration.of w.surroundings i = .ok (c, ws)
      ∧ output = Json.renderIndented 0 document ++ "\n"
      ∧ document.compiled? i.dryRun = some (compile c.policy c.compiler) := by
  obtain ⟨c, ws, runner, o, commands, hof, hvalid, hact, rfl⟩ := exists_outcome_of_printed h
  obtain ⟨reading, policy, policyWarnings, -, -, hc⟩ := Configuration.of_eq_ok hof
  have hcaction : c.action = .apply := by rw [hc, ← haction]
  have hcjson : c.json = true := by rw [hc, ← hjson]
  have hcdry : c.dryRun = i.dryRun := by rw [hc]
  obtain ⟨report, rfl, hcompiled⟩ := exists_report_of_act hvalid hcaction hact
  refine ⟨c, ws, ?_⟩
  rw [hcjson, hcdry, ← hcompiled]
  cases i.dryRun with
  | true => exact ⟨_, hof, rfl, compiled?_dry .byName report _⟩
  | false => exact ⟨_, hof, rfl, compiled?_report .byName report⟩

end Program

-- ======================================================== the statement

open Program in
/-- Whatever is read from JSON is read back once it is written, and a value
that holds no selector is read back wherever it comes from. Where there are
selectors, that takes each of them to be what its text stands for, as those of
every configuration are. So the policy that a run in JSON reports as compiled
can be taken from its output. -/
theorem json_forms_read_back :
    (Stable Handle ∧ Stable QdiscParent ∧ Stable MatchTerm ∧ Stable Qdisc ∧ Stable Filter
        ∧ Stable RuleSet ∧ Stable CompiledPolicy ∧ Stable ShapingSpec ∧ Stable Selector
        ∧ Stable ShapingPolicy ∧ Stable Profile ∧ Stable Command)
      ∧ (Lossless Handle ∧ Lossless QdiscParent ∧ Lossless MatchTerm ∧ Lossless Qdisc
        ∧ Lossless Filter ∧ Lossless RuleSet ∧ Lossless CompiledPolicy ∧ Lossless ShapingSpec
        ∧ Lossless Command)
      ∧ (∀ o (s : Selector), ReadsBack o s ↔ Selector.parse s.render = s)
      ∧ (∀ o (p : ShapingPolicy),
        ReadsBack o p ↔ ∀ s ∈ p.selectors, Selector.parse s.render = s)
      ∧ (∀ o (p : Profile), ReadsBack o p ↔ ∀ s ∈ p.selectors, Selector.parse s.render = s)
      ∧ (∀ w words i output, CommandLine.parse words = .ok i → i.json = true →
        i.action = .apply → (run w words).ending = .printed output →
        ∃ c ws document, Configuration.of w.surroundings i = .ok (c, ws)
          ∧ output = Json.renderIndented 0 document ++ "\n"
          ∧ document.compiled? i.dryRun = some (compile c.policy c.compiler))
      ∧ ∀ around i c ws, Configuration.of around i = .ok (c, ws) →
        ∀ o, ReadsBack o c.policy := by
  refine ⟨⟨Handle.lossless.stable, QdiscParent.lossless.stable, MatchTerm.lossless.stable,
      Qdisc.lossless.stable, Filter.lossless.stable, RuleSet.lossless.stable,
      CompiledPolicy.lossless.stable, ShapingSpec.lossless.stable, Selector.stable,
      ShapingPolicy.stable, Profile.stable, Command.lossless.stable⟩,
    ⟨Handle.lossless, QdiscParent.lossless, MatchTerm.lossless, Qdisc.lossless, Filter.lossless,
      RuleSet.lossless, CompiledPolicy.lossless, ShapingSpec.lossless, Command.lossless⟩,
    Selector.readsBack_iff, ShapingPolicy.readsBack_iff, Profile.readsBack_iff, ?_, ?_⟩
  · intro w words i output hparse hjson haction hprinted
    unfold run at hprinted
    rw [hparse] at hprinted
    exact reads_back_of_printed hjson haction hprinted
  · intro around i c ws hof o
    rw [ShapingPolicy.readsBack_iff]
    exact fun s hs => Selector.parse_render (Configuration.canonical_of_ok hof s hs)

open Program in
/-- A discipline that is read from an array, with its parent as an object; and a
dry run that installs, in JSON, for a source whose port is no number. -/
theorem json_forms_read_back_of_positions :
    let form : Json := .arr [.str "eth0", .obj [("root", .null)], .arr [.int 1, .int 0],
      .str "prio", .arr [.str "bands", .str "3"]]
    let q : Qdisc := ⟨"eth0", .root, ⟨1, 0⟩, .prio, ["bands", "3"]⟩
    let w : World :=
      { files := ⟨fun _ => .absent .notFound⟩, home := none, logDirectives := none, user := 1000,
        holds := fun _ => false, runner := Runner.dry }
    let i : Invocation :=
      { Invocation.default with
        action := .apply, bandwidth := some "rate 1mbit", source := some " 10.0.0.1 : http",
        dryRun := true, json := true }
    let words := ["apply", "--bandwidth", "rate 1mbit", "--from", " 10.0.0.1 : http",
      "--dry-run", "--json"]
    ofJson? form = some q ∧ ReadsBack .byName q ∧ CommandLine.parse words = .ok i
      ∧ ∃ output, (run w words).ending = .printed output
        ∧ ∃ c ws document, Configuration.of w.surroundings i = .ok (c, ws)
          ∧ output = Json.renderIndented 0 document ++ "\n"
          ∧ document.compiled? true = some (compile c.policy c.compiler)
          ∧ ReadsBack .listed c.policy := by
  intro form q w i words
  obtain ⟨⟨-, -, -, hqdisc, -⟩, -, -, -, -, hprints, hpolicies⟩ := json_forms_read_back
  have hform : ofJson? form = some q := by decide
  have hparse : CommandLine.parse words = .ok i := by decide +kernel
  have hprinted : ∃ output, (run w words).ending = .printed output := by
    obtain ⟨c, ws, hof, hvalid⟩ : ∃ c ws, Configuration.of w.surroundings i = .ok (c, ws)
        ∧ c.validate = .ok () := ⟨_, _, rfl, by decide⟩
    obtain ⟨o, output, -, -, hdry⟩ := dryRun_eq hvalid
    have hrun : runInvocation w i = dryRun c := runInvocation_of_valid hof hvalid true
    unfold run
    rw [hparse]
    exact ⟨output, congrArg Run.ending (hrun.trans hdry)⟩
  obtain ⟨output, hprinted⟩ := hprinted
  obtain ⟨c, ws, document, hof, houtput, hcompiled⟩ :=
    hprints w words i output hparse rfl rfl hprinted
  exact ⟨hform, hqdisc .byName form q hform, hparse, output, hprinted, c, ws, document, hof,
    houtput, hcompiled, hpolicies w.surroundings i c ws hof .listed⟩

end TrafficShaping
