/-
Parameters on their way to the traffic control tool (`words_reach_tool`).

The text for a stage is given on the command line or in a profile. Whether it
is blank decides whether there is the stage at all; the blanks around it are
cut off, its words become the parameters of a discipline, and the parameters
end the command that installs the discipline. All of these steps have one idea
of what a blank is, so what the tool gets is the words of the text as it was
given, none split, joined, dropped or moved, and none looked into: a rate or a
limit among them stands beside the ones that the compiler puts at either end.

Nothing but the words is left of a text on this way. So texts of the same
words compile to the same rules.
-/
import TrafficShaping.Proofs.Command.Reading
import TrafficShaping.Proofs.Configuration.Layers
import TrafficShaping.Proofs.Rules.Compiled
import TrafficShaping.Proofs.Text.Words

namespace TrafficShaping

-- ==================================================== statement vocabulary

/-- The words of a text. -/
def Text.wordsOf (raw : String) : List String := (Text.words raw.toList).map String.ofList

namespace ShapingPolicy

/-- The ways in which a policy comes to have its stages from these two texts,
each of them given on a command line or else in the profile beneath it. -/
inductive Given (limit impairment : String) : ShapingPolicy → Prop
  | overlaid {i : Invocation} {p : Profile} {base policy : ShapingPolicy}
    {ws : List UnreadablePort} (h : Configuration.overlay i (p.applyTo base) = .ok (policy, ws))
    (hlimit : i.bandwidth.or p.bandwidth = some limit)
    (himpairment : i.impairment.or p.impairment = some impairment) : Given limit impairment policy
  | configured {around : Surroundings} {i : Invocation} {p : Profile} {c : Configuration}
    {ws : List UnreadablePort} (h : Configuration.of around i = .ok (c, ws))
    (hp : Configuration.HasProfile around i p)
    (hlimit : i.bandwidth.or p.bandwidth = some limit)
    (himpairment : i.impairment.or p.impairment = some impairment) :
    Given limit impairment c.policy

/-- What a policy says apart from its stages. -/
def withoutStages (policy : ShapingPolicy) : ShapingPolicy :=
  { policy with shaping := ⟨none, none, policy.shaping.reorder⟩ }

end ShapingPolicy

/-- A rule set has one discipline of a kind or none, according to what is
wanted, and the command that installs it ends in these parameters. -/
structure RuleSet.HasStage (r : RuleSet) (kind : QdiscKind) (wanted : Prop)
    (params : List String) : Prop where
  exists_iff : (∃ q ∈ r.qdiscs, q.kind = kind) ↔ wanted
  unique : ∀ q ∈ r.qdiscs, ∀ q' ∈ r.qdiscs, q.kind = kind → q'.kind = kind → q' = q
  command : ∀ q ∈ r.qdiscs, q.kind = kind → ∃ parent, q.parent = .handle parent
    ∧ Command.addQdisc q = if r.device = "" then .error .emptyDevice
      else .ok ⟨.tc, ["qdisc", "add", "dev", r.device, "parent", parent.render,
        "handle", q.handle.render, kind.word] ++ params⟩

-- =============================================================== texts

/-- The words of a text are those that stand in it between blanks. -/
theorem Text.wordsOf_eq_iff {raw : String} {ws : List String} :
    wordsOf raw = ws ↔ Spaced (ws.map String.toList) raw.toList := by
  rw [← words_eq_iff]
  unfold wordsOf
  constructor
  · rintro rfl
    simp [Function.comp_def]
  · intro h
    rw [h]
    simp [Function.comp_def]

namespace RawParams

variable {raw : String} {ps : RawParams}

/-- A text gives parameters exactly where it has words, and they are the rest of
it without the blanks at its ends. -/
theorem ofText?_eq (raw : String) :
    ofText? raw = if Text.wordsOf raw = [] then none
      else some ⟨String.ofList (Text.trim raw.toList)⟩ := by
  have hnone : Text.trim raw.toList = [] ↔ Text.wordsOf raw = [] := by
    unfold Text.wordsOf
    rw [List.map_eq_nil_iff, Text.words_eq_nil_iff]
    exact Text.trim_eq_nil_iff
  unfold ofText?
  simp only [List.isEmpty_iff, hnone]

/-- A text without words gives no parameters. -/
theorem ofText?_eq_none_iff : ofText? raw = none ↔ Text.wordsOf raw = [] := by
  rw [ofText?_eq]
  split <;> simp_all

/-- Cutting off the blanks loses no word, and there is nothing more to cut off
then. -/
theorem words_of_ofText? (h : ofText? raw = some ps) :
    ps.words = Text.wordsOf raw ∧ ofText? ps.text = some ps := by
  rw [ofText?_eq] at h
  split at h
  · cases h
  · next hne =>
    obtain rfl := Option.some.inj h
    have hwords : Text.wordsOf (String.ofList (Text.trim raw.toList)) = Text.wordsOf raw := by
      unfold Text.wordsOf
      rw [String.toList_ofList, Text.words_trim]
    refine ⟨hwords, ?_⟩
    rw [ofText?_eq, hwords, if_neg hne, String.toList_ofList,
      Text.trim_eq_self_iff.2 (Text.trimmed_trim _)]

/-- Nothing but its words is left of a text. -/
theorem map_words_ofText? (raw : String) :
    (ofText? raw).map words = if Text.wordsOf raw = [] then none else some (Text.wordsOf raw) := by
  cases hread : ofText? raw with
  | none => rw [if_pos (ofText?_eq_none_iff.1 hread), Option.map_none]
  | some ps =>
      have hne : Text.wordsOf raw ≠ [] := by
        rw [ne_eq, ← ofText?_eq_none_iff, hread]
        exact Option.some_ne_none ps
      rw [if_neg hne, Option.map_some, (words_of_ofText? hread).1]

end RawParams

-- ============================================================ policies

/-- An invocation has one profile. -/
theorem Configuration.HasProfile.unique {around : Surroundings} {i : Invocation} {p p' : Profile}
    (h : HasProfile around i p) (h' : HasProfile around i p') : p = p' := by
  obtain ⟨r, hr, rfl⟩ := hasProfile_iff.1 h
  obtain ⟨r', hr', rfl⟩ := hasProfile_iff.1 h'
  rw [hr] at hr'
  rw [Except.ok.inj hr']

/-- Whichever way a policy comes to have its stages, they are read from the
texts. -/
theorem ShapingPolicy.Given.shaping_eq {limit impairment : String} {policy : ShapingPolicy}
    (h : policy.Given limit impairment) :
    policy.shaping.bandwidth = RawParams.ofText? limit
      ∧ policy.shaping.impairment = RawParams.ofText? impairment := by
  cases h with
  | @overlaid i p base policy ws h hlimit himpairment =>
      rw [Configuration.overlay_eq] at h
      cases hports : Configuration.ports i (p.applyTo base) with
      | error f =>
          rw [hports] at h
          cases h
      | ok ns =>
          rw [hports] at h
          obtain ⟨rfl, -⟩ := Prod.mk.inj (Except.ok.inj h)
          constructor
          · show (i.bandwidth.map _).getD ((p.bandwidth.map _).getD _) = _
            rw [← Option.getD_or, ← Option.map_or, hlimit]
            rfl
          · show (i.impairment.map _).getD ((p.impairment.map _).getD _) = _
            rw [← Option.getD_or, ← Option.map_or, himpairment]
            rfl
  | configured h hp hlimit himpairment =>
      obtain ⟨p', hp', hover⟩ := Configuration.overlaid_of_ok h
      obtain rfl := hp.unique hp'
      rw [hover.bandwidth, hover.impairment, hlimit, himpairment]
      exact ⟨rfl, rfl⟩

-- ============================================================== stages

namespace Compile

variable {policy : ShapingPolicy} {config : CompilerConfig} {d : Direction} {q : Qdisc}

/-- The disciplines that limit are what is made of the limit's parameters. -/
theorem mem_limits_iff :
    q ∈ (direction d policy config).qdiscs ∧ q.kind = .tbf
      ↔ ∃ ps, policy.shaping.bandwidth = some ps
        ∧ q = bandwidth (Numbering.of d) (policy.deviceFor d) ps := by
  rw [mem_qdiscs, mem_stages]
  constructor
  · rintro ⟨rfl | ⟨ps, hps, rfl⟩ | ⟨ps, hps, rfl⟩, hkind⟩
    · cases hkind
    · exact ⟨ps, hps, rfl⟩
    · cases hkind
  · rintro ⟨ps, hps, rfl⟩
    exact ⟨Or.inr (Or.inl ⟨ps, hps, rfl⟩), rfl⟩

/-- The emulators are what is made of the impairment's parameters. -/
theorem mem_emulators_iff :
    q ∈ (direction d policy config).qdiscs ∧ q.kind = .netem
      ↔ ∃ ps, policy.shaping.impairment = some ps
        ∧ q = impairment (Numbering.of d) (policy.deviceFor d) config
          policy.shaping.bandwidth.isSome policy.shaping.reorder ps := by
  rw [mem_qdiscs, mem_stages]
  constructor
  · rintro ⟨rfl | ⟨ps, hps, rfl⟩ | ⟨ps, hps, rfl⟩, hkind⟩
    · cases hkind
    · cases hkind
    · exact ⟨ps, hps, rfl⟩
  · rintro ⟨ps, hps, rfl⟩
    exact ⟨Or.inr (Or.inr ⟨ps, hps, rfl⟩), rfl⟩

end Compile

/-- The command of a discipline under another one, written out. -/
theorem Command.addQdisc_under {q : Qdisc} {parent : Handle} (hparent : q.parent = .handle parent)
    (hhandle : q.handle.minor = 0) :
    addQdisc q = if q.device = "" then .error .emptyDevice
      else .ok ⟨.tc, ["qdisc", "add", "dev", q.device, "parent", parent.render,
        "handle", q.handle.render, q.kind.word] ++ q.params⟩ := by
  by_cases hdevice : q.device = ""
  · rw [if_pos hdevice]
    exact Rule.command?_of_offence (.qdisc q) .emptyDevice (if_pos hdevice)
  · rw [if_neg hdevice, addQdisc_eq hdevice (beq_iff_eq.2 hhandle)]
    unfold installQdisc
    rw [hparent]
    rfl

/-- A stage that is made of the parameters in a text has the words of the text
in its place among its own. -/
theorem RuleSet.hasStage_of_made {r : RuleSet} {kind : QdiscKind} {raw : String}
    (made : RawParams → Qdisc) (around : List String → List String)
    (hmem : ∀ q, q ∈ r.qdiscs ∧ q.kind = kind
      ↔ ∃ ps, RawParams.ofText? raw = some ps ∧ q = made ps)
    (hdevice : ∀ ps, (made ps).device = r.device)
    (hparent : ∀ ps, ∃ parent, (made ps).parent = .handle parent)
    (hhandle : ∀ ps, (made ps).handle.minor = 0)
    (hparams : ∀ ps, (made ps).params = around ps.words) :
    r.HasStage kind (Text.wordsOf raw ≠ []) (around (Text.wordsOf raw)) where
  exists_iff := by
    rw [ne_eq, ← RawParams.ofText?_eq_none_iff, ← ne_eq, Option.ne_none_iff_exists']
    constructor
    · rintro ⟨q, hq⟩
      obtain ⟨ps, hps, -⟩ := (hmem q).1 hq
      exact ⟨ps, hps⟩
    · rintro ⟨ps, hps⟩
      exact ⟨made ps, (hmem _).2 ⟨ps, hps, rfl⟩⟩
  unique := by
    intro q hq q' hq' hkind hkind'
    obtain ⟨ps, hps, rfl⟩ := (hmem q).1 ⟨hq, hkind⟩
    obtain ⟨ps', hps', rfl⟩ := (hmem q').1 ⟨hq', hkind'⟩
    rw [hps] at hps'
    rw [Option.some.inj hps']
  command := by
    intro q hq hkind
    obtain ⟨ps, hps, hmade⟩ := (hmem q).1 ⟨hq, hkind⟩
    subst hmade
    obtain ⟨parent, hp⟩ := hparent ps
    refine ⟨parent, hp, ?_⟩
    rw [Command.addQdisc_under hp (hhandle ps), hdevice ps, hparams ps, hkind,
      (RawParams.words_of_ofText? hps).1]

namespace Compile

variable {policy : ShapingPolicy} {config : CompilerConfig} {d : Direction} {raw : String}

/-- A limit is one stage, whose parameters are the words of its text. -/
theorem hasStage_limit (h : policy.shaping.bandwidth = RawParams.ofText? raw) :
    (direction d policy config).HasStage .tbf (Text.wordsOf raw ≠ []) (Text.wordsOf raw) := by
  refine RuleSet.hasStage_of_made (bandwidth (Numbering.of d) (policy.deviceFor d)) (fun ws => ws)
    (fun q => ?_) (fun _ => rfl) (fun _ => ⟨_, rfl⟩) (fun _ => ?_) (fun _ => rfl)
  · rw [mem_limits_iff, h]
  · cases d <;> rfl

/-- An impairment is one stage, whose parameters are the words of its text
between those of the settings. -/
theorem hasStage_emulator (h : policy.shaping.impairment = RawParams.ofText? raw) :
    (direction d policy config).HasStage .netem (Text.wordsOf raw ≠ [])
      ((if policy.shaping.reorder then [] else ["rate", config.reorderRate])
        ++ Text.wordsOf raw ++ ["limit", config.bufferSize.toNat.repr]) := by
  refine RuleSet.hasStage_of_made
    (impairment (Numbering.of d) (policy.deviceFor d) config policy.shaping.bandwidth.isSome
      policy.shaping.reorder) (fun ws => _ ++ ws ++ _)
    (fun q => ?_) (fun _ => rfl) (fun _ => ⟨_, rfl⟩) (fun _ => ?_) (fun _ => rfl)
  · rw [mem_emulators_iff, h]
  · cases d <;> rfl

end Compile

-- ==================================================== nothing but words

/-- Of parameters nothing but the words goes into the stages. -/
theorem Compile.stages_congr {spec spec' : ShapingSpec} (n : Numbering) (device : String)
    (config : CompilerConfig)
    (hlimit : spec.bandwidth.map RawParams.words = spec'.bandwidth.map RawParams.words)
    (himpairment : spec.impairment.map RawParams.words = spec'.impairment.map RawParams.words)
    (hreorder : spec.reorder = spec'.reorder) :
    stages spec n device config = stages spec' n device config := by
  have hlimits : ∀ o : Option RawParams, o.map (bandwidth n device)
      = (o.map RawParams.words).map fun ws => { bandwidth n device ⟨""⟩ with params := ws } := by
    intro o
    cases o <;> rfl
  have himpairments : ∀ (limited : Bool) (o : Option RawParams),
      o.map (impairment n device config limited spec.reorder)
        = (o.map RawParams.words).map fun ws =>
          { impairment n device config limited spec.reorder ⟨""⟩ with
            params := (if spec.reorder then [] else ["rate", config.reorderRate]) ++ ws
              ++ ["limit", config.bufferSize.toNat.repr] } := by
    intro limited o
    cases o <;> rfl
  have hlimited : spec.bandwidth.isSome = spec'.bandwidth.isSome := by
    rw [← Option.isSome_map, hlimit, Option.isSome_map]
  unfold stages
  rw [← hreorder, ← hlimited, hlimits, himpairments, hlimit, himpairment, ← hlimits,
    ← himpairments]

/-- Of the texts for its stages a policy's rules show the words only. -/
theorem compile_congr {policy policy' : ShapingPolicy} (config : CompilerConfig)
    (hrest : policy.withoutStages = policy'.withoutStages)
    (hlimit : policy.shaping.bandwidth.map RawParams.words
      = policy'.shaping.bandwidth.map RawParams.words)
    (himpairment : policy.shaping.impairment.map RawParams.words
      = policy'.shaping.impairment.map RawParams.words) :
    compile policy config = compile policy' config := by
  have hdirection :
      ∀ d, Compile.direction d policy config = Compile.direction d policy' config := by
    intro d
    have hdevice : policy.deviceFor d = policy'.deviceFor d := by
      show policy.withoutStages.deviceFor d = policy'.withoutStages.deviceFor d
      rw [hrest]
    have hreorder : policy.shaping.reorder = policy'.shaping.reorder :=
      congrArg (·.shaping.reorder) hrest
    have hexcluded : policy.excludedPorts = policy'.excludedPorts :=
      congrArg (·.excludedPorts) hrest
    have hsource : policy.source = policy'.source := congrArg (·.source) hrest
    have hdestination : policy.destination = policy'.destination := congrArg (·.destination) hrest
    simp only [Compile.direction, Compile.stages_congr _ _ config hlimit himpairment hreorder,
      hdevice, hexcluded, hsource, hdestination]
  unfold compile
  rw [hdirection, hdirection]

-- ======================================================== the statement

/-- The words of a text are what blanks divide it into, and a text gives
parameters exactly where it has any: the parameters have these words, and their
own text gives the same parameters again. Whichever way a policy comes to have
its stages from two texts, there is a limit where the first one has words, and
its command ends in them; there is an impairment where the second one has words,
and its command ends in them between the rate that keeps the order, where it is
to be kept, and the limit of the queue. Policies whose texts have the same words
compile to the same rules where nothing else sets them apart. -/
theorem words_reach_tool :
    (∀ raw ws, Text.wordsOf raw = ws ↔ Text.Spaced (ws.map String.toList) raw.toList)
      ∧ (∀ raw, RawParams.ofText? raw = none ↔ Text.wordsOf raw = [])
      ∧ (∀ raw ps, RawParams.ofText? raw = some ps →
        ps.words = Text.wordsOf raw ∧ RawParams.ofText? ps.text = some ps)
      ∧ (∀ b e policy, ShapingPolicy.Given b e policy → ∀ config d,
        ((compile policy config).get d).HasStage .tbf (Text.wordsOf b ≠ []) (Text.wordsOf b)
          ∧ ((compile policy config).get d).HasStage .netem (Text.wordsOf e ≠ [])
            ((if policy.shaping.reorder then [] else ["rate", config.reorderRate])
              ++ Text.wordsOf e ++ ["limit", config.bufferSize.toNat.repr]))
      ∧ ∀ b e policy b' e' policy', ShapingPolicy.Given b e policy →
        ShapingPolicy.Given b' e' policy' → policy.withoutStages = policy'.withoutStages →
        Text.wordsOf b = Text.wordsOf b' → Text.wordsOf e = Text.wordsOf e' →
        ∀ config, compile policy config = compile policy' config := by
  refine ⟨fun _ _ => Text.wordsOf_eq_iff, fun _ => RawParams.ofText?_eq_none_iff,
    fun _ _ => RawParams.words_of_ofText?, fun b e policy h config d => ?_,
    fun b e policy b' e' policy' h h' hrest hb he config => ?_⟩
  · obtain ⟨hlimit, himpairment⟩ := h.shaping_eq
    rw [compile_get]
    exact ⟨Compile.hasStage_limit hlimit, Compile.hasStage_emulator himpairment⟩
  · obtain ⟨hlimit, himpairment⟩ := h.shaping_eq
    obtain ⟨hlimit', himpairment'⟩ := h'.shaping_eq
    refine compile_congr config hrest ?_ ?_
    · rw [hlimit, hlimit', RawParams.map_words_ofText?, RawParams.map_words_ofText?, hb]
    · rw [himpairment, himpairment', RawParams.map_words_ofText?, RawParams.map_words_ofText?, he]

/-- A limit from the command line and an impairment from a profile reach the
tool in one policy, the impairment's own limit in front of the one that counts;
and a limit with other blanks in it makes no other rules. -/
theorem words_reach_tool_of_both_layers :
    let b := "\u3000rate 5mbit\t"
    let b' := "rate\n5mbit"
    let e := "delay 9ms limit 1"
    let policy : ShapingPolicy :=
      { ShapingPolicy.default with shaping := ⟨some ⟨"rate 5mbit"⟩, some ⟨e⟩, false⟩ }
    let policy' : ShapingPolicy :=
      { ShapingPolicy.default with shaping := ⟨some ⟨b'⟩, some ⟨e⟩, false⟩ }
    policy.Given b e ∧ policy'.Given b' e
      ∧ RawParams.ofText? b = some ⟨"rate 5mbit"⟩
      ∧ RawParams.ofText? "rate 5mbit" = some ⟨"rate 5mbit"⟩
      ∧ ((compile policy .default).get .inbound).HasStage .netem (Text.wordsOf e ≠ [])
        ["rate", "1000gbit", "delay", "9ms", "limit", "1", "limit", "10000"]
      ∧ policy.withoutStages = policy'.withoutStages ∧ Text.wordsOf b = Text.wordsOf b'
      ∧ compile policy .default = compile policy' .default := by
  intro b b' e policy policy'
  have hoverlay : Configuration.overlay { Invocation.default with bandwidth := some b }
      (Profile.applyTo { Profile.empty with impairment := some e } .default)
        = .ok (policy, []) := by
    decide +kernel
  have hoverlay' : Configuration.overlay { Invocation.default with bandwidth := some b' }
      (Profile.applyTo { Profile.empty with impairment := some e } .default)
        = .ok (policy', []) := by
    decide +kernel
  have hgiven : policy.Given b e := .overlaid hoverlay rfl rfl
  have hgiven' : policy'.Given b' e := .overlaid hoverlay' rfl rfl
  have hread : RawParams.ofText? b = some ⟨"rate 5mbit"⟩ := by decide +kernel
  have hwords : Text.wordsOf b = Text.wordsOf b' := by decide +kernel
  have hlist : Compile.impairmentWords .default false ⟨e⟩
      = ["rate", "1000gbit", "delay", "9ms", "limit", "1", "limit", "10000"] := by
    decide +kernel
  obtain ⟨-, -, hparams, hstages, hsame⟩ := words_reach_tool
  refine ⟨hgiven, hgiven', hread, (hparams b _ hread).2, ?_, rfl, hwords,
    hsame b e policy b' e policy' hgiven hgiven' rfl hwords rfl .default⟩
  rw [← hlist]
  exact (hstages b e policy hgiven .default .inbound).2

end TrafficShaping
