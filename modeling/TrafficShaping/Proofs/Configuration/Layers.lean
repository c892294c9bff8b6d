/-
Policies in layers (`last_layer_with_field_wins`).

A policy starts out as a default, profiles are laid over it, and the command
line goes on top. Each field is settled by itself: by the last layer that has
it, and by the start where none does. Laying one profile over a policy is that
rule for a single layer, field by field and by definition; the run lemma
`lastGiven_foldl` makes it the rule for any number of profiles, for all fields
at once.

A field that is there counts as there whatever it holds. A blank limit or
impairment takes its stage away, and is not passed over for the layer below.

A text that holds no profile is passed over as if it were not there, unless it
breaks reading off: then no policy comes of it (`layTexts_eq_none_iff`), nor of
an invocation that refers to a file with such a text.
-/
import TrafficShaping.Proofs.Profile.Lookup
import TrafficShaping.Proofs.Program.Acting

namespace TrafficShaping

-- ==================================================== statement vocabulary

/-- A value is what the last of these profiles to have a field gives for it,
or what was there at the start where none of them has it. -/
def LastGiven {α : Type} (field : Profile → Option α) (ps : List Profile)
    (start value : α) : Prop :=
  (∃ before p after, ps = before ++ p :: after ∧ field p = some value
      ∧ ∀ q ∈ after, field q = none)
    ∨ (∀ p ∈ ps, field p = none) ∧ value = start

namespace Profile

/-- The profile that a text holds, unless it holds none. -/
def ofText? (origin text : String) : Option Profile :=
  (parse text origin).toOption.map (·.profile)

/-- The policy after a text. One that holds no profile changes nothing, and there
is no policy once reading breaks off. -/
def layText (origin : String) (policy : ShapingPolicy) (text : String) : Option ShapingPolicy :=
  match parse text origin with
  | .ok r => some (r.profile.applyTo policy)
  | .error .brokenOff => none
  | .error _ => some policy

/-- The policy after texts, one after the other. -/
def layTexts (origin : String) (start : ShapingPolicy) (texts : List String) :
    Option ShapingPolicy :=
  texts.foldlM (layText origin) start

/-- Every field of a policy comes from the last profile to have it. -/
structure LaidOver (start : ShapingPolicy) (ps : List Profile) (policy : ShapingPolicy) :
    Prop where
  interface : LastGiven (·.interface) ps start.interface policy.interface
  bandwidth : LastGiven (fun p => p.bandwidth.map RawParams.ofText?) ps
    start.shaping.bandwidth policy.shaping.bandwidth
  impairment : LastGiven (fun p => p.impairment.map RawParams.ofText?) ps
    start.shaping.impairment policy.shaping.impairment
  reorder : LastGiven (·.reorder) ps start.shaping.reorder policy.shaping.reorder
  source : LastGiven (·.source) ps start.source policy.source
  destination : LastGiven (·.destination) ps start.destination policy.destination
  excludedPorts : LastGiven (·.exclude) ps start.excludedPorts policy.excludedPorts
  /-- No profile has a say in the mirror device. -/
  mirrorDevice : policy.mirrorDevice = start.mirrorDevice

/-- A profile was read from this tree, and has what the tree gives: a field
that may be absent is there exactly where the tree has a value for it that is
not null. -/
structure ReadFrom (tree : Json5.Tree) (p : Profile) : Prop where
  holds : p = ofValues fun field => given? field tree
  has_iff : ∀ field, field ≠ .description →
    (p.has field = true ↔ ∃ t, given? field tree = some t ∧ isNull t = false)

end Profile

namespace Configuration

/-- The profile of an invocation: the one it refers to, or one that says
nothing. -/
def HasProfile (around : Surroundings) (i : Invocation) (p : Profile) : Prop :=
  i.profile = none ∧ p = Profile.empty
    ∨ ∃ reference r, i.profile = some reference
      ∧ Profile.load around.files around.profileDirs reference = .ok r ∧ p = r.profile

/-- A profile was read from the text of the file that a reference leads to. -/
def ReadFromFile (around : Surroundings) (reference : String) (p : Profile) : Prop :=
  ∃ path text tree, Profile.LeadsTo around.files around.profileDirs reference path
    ∧ around.files.HasText path text ∧ Json5.read? text.toList = some tree
    ∧ Profile.ReadFrom tree p

/-- The reference of an invocation leads to a file whose text breaks reading
off. -/
def RefersToBreak (around : Surroundings) (i : Invocation) : Prop :=
  ∃ reference path, i.profile = some reference
    ∧ Profile.LeadsTo around.files around.profileDirs reference path
    ∧ Profile.CutsShort around.files path

/-- Every field of a configuration comes from the command line if it is given
there, else from the profile if the profile has it, else it is the default. -/
structure Overlaid (i : Invocation) (p : Profile) (c : Configuration) : Prop where
  interface : c.policy.interface
    = (i.interface.or p.interface).getD ShapingPolicy.default.interface
  mirrorDevice : c.policy.mirrorDevice
    = i.mirrorDevice.getD ShapingPolicy.default.mirrorDevice
  bandwidth : c.policy.shaping.bandwidth
    = ((i.bandwidth.or p.bandwidth).map RawParams.ofText?).getD
      ShapingPolicy.default.shaping.bandwidth
  impairment : c.policy.shaping.impairment
    = ((i.impairment.or p.impairment).map RawParams.ofText?).getD
      ShapingPolicy.default.shaping.impairment
  /-- The command line can only turn reordering on. -/
  reorder : c.policy.shaping.reorder
    = (i.reorder || p.reorder.getD ShapingPolicy.default.shaping.reorder)
  source : c.policy.source
    = ((i.source.map Selector.parse).or p.source).getD ShapingPolicy.default.source
  destination : c.policy.destination
    = ((i.destination.map Selector.parse).or p.destination).getD
      ShapingPolicy.default.destination
  excluded_given : ∀ raw ∈ i.exclude, PortList.parse raw = .ok c.policy.excludedPorts
  excluded_left : i.exclude = none →
    c.policy.excludedPorts = p.exclude.getD ShapingPolicy.default.excludedPorts
  bufferSize : c.compiler.bufferSize
    = i.bufferSize.getD CompilerConfig.default.bufferSize

end Configuration

-- =========================================================== profiles

namespace Profile

/-- One layer settles a field, so any number of them do. -/
theorem lastGiven_foldl {α : Type} (view : ShapingPolicy → α) {field : Profile → Option α}
    (hlayer : ∀ p policy, view (applyTo p policy) = (field p).getD (view policy))
    (ps : List Profile) (start : ShapingPolicy) :
    LastGiven field ps (view start) (view (ps.foldl (fun policy p => p.applyTo policy) start)) := by
  induction ps generalizing start with
  | nil => exact Or.inr ⟨fun p hp => (nomatch hp), rfl⟩
  | cons p ps ih =>
      rw [List.foldl_cons]
      rcases ih (p.applyTo start) with ⟨before, q, after, rfl, hq, hafter⟩ | ⟨hnone, hvalue⟩
      · exact Or.inl ⟨p :: before, q, after, rfl, hq, hafter⟩
      · rw [hvalue, hlayer]
        cases hp : field p with
        | some v => exact Or.inl ⟨[], p, ps, rfl, hp, hnone⟩
        | none =>
            refine Or.inr ⟨fun q hq => ?_, rfl⟩
            rcases List.mem_cons.1 hq with rfl | hmem
            · exact hp
            · exact hnone q hmem

/-- A text takes the policy away exactly where reading it breaks off. -/
theorem layText_eq_none_iff {origin text : String} {policy : ShapingPolicy} :
    layText origin policy text = none ↔ BreaksOff text := by
  rw [← @parse_eq_brokenOff_iff text origin]
  unfold layText
  cases parse text origin with
  | ok r => simp
  | error fault => cases fault <;> simp

/-- A text that leaves a policy leaves it with the profile that it holds, if it
holds one, laid over. -/
theorem layText_eq_some {origin text : String} {policy policy' : ShapingPolicy}
    (h : layText origin policy text = some policy') :
    policy' = ((ofText? origin text).map fun p => p.applyTo policy).getD policy := by
  unfold layText at h
  unfold ofText?
  split at h
  · next hparse =>
    rw [hparse]
    exact (Option.some.inj h).symm
  · cases h
  · next hparse =>
    rw [hparse]
    exact (Option.some.inj h).symm

/-- No policy is left exactly where one of the texts breaks reading off. -/
theorem layTexts_eq_none_iff {origin : String} {start : ShapingPolicy} {texts : List String} :
    layTexts origin start texts = none ↔ ∃ text ∈ texts, BreaksOff text := by
  unfold layTexts
  induction texts generalizing start with
  | nil => simp [pure]
  | cons text texts ih =>
      rw [List.foldlM_cons, List.exists_mem_cons_iff, ← @layText_eq_none_iff origin text start]
      cases layText origin start text with
      | none => simp [bind]
      | some policy => simpa [bind] using ih

/-- Texts that hold no profile might as well not be there. -/
theorem layTexts_eq_some {origin : String} {start policy : ShapingPolicy} {texts : List String}
    (h : layTexts origin start texts = some policy) :
    policy = (texts.filterMap (ofText? origin)).foldl (fun policy p => p.applyTo policy) start := by
  unfold layTexts at h
  induction texts generalizing start with
  | nil => exact (Option.some.inj h).symm
  | cons text texts ih =>
      rw [List.foldlM_cons] at h
      obtain ⟨next, hnext, hrest⟩ := Option.bind_eq_some_iff.1 h
      obtain rfl := layText_eq_some hnext
      rw [List.filterMap_cons, ih hrest]
      cases ofText? origin text <;> rfl

/-- Profiles laid over a policy one after the other settle its fields. -/
theorem laidOver_foldl (start : ShapingPolicy) (ps : List Profile) :
    LaidOver start ps (ps.foldl (fun policy p => p.applyTo policy) start) where
  interface := lastGiven_foldl (·.interface) (fun _ _ => rfl) ps start
  bandwidth := lastGiven_foldl (·.shaping.bandwidth) (fun _ _ => rfl) ps start
  impairment := lastGiven_foldl (·.shaping.impairment) (fun _ _ => rfl) ps start
  reorder := lastGiven_foldl (·.shaping.reorder) (fun _ _ => rfl) ps start
  source := lastGiven_foldl (·.source) (fun _ _ => rfl) ps start
  destination := lastGiven_foldl (·.destination) (fun _ _ => rfl) ps start
  excludedPorts := lastGiven_foldl (·.excludedPorts) (fun _ _ => rfl) ps start
  mirrorDevice := by
    -- a field that no profile has is left to the start
    have hnever : LastGiven (fun _ => none) ps start.mirrorDevice _ :=
      lastGiven_foldl (·.mirrorDevice) (fun _ _ => rfl) ps start
    rcases hnever with ⟨_, _, _, _, hgiven, _⟩ | ⟨_, hstart⟩
    · cases hgiven
    · exact hstart

/-- A text that holds a profile describes a tree that the profile was read
from. -/
theorem readFrom_of_parse {origin text : String} {r : Reading} (h : parse text origin = .ok r) :
    ∃ tree, Json5.read? text.toList = some tree ∧ ReadFrom tree r.profile := by
  have htext : ofText text = .ok r := by
    unfold parse at h
    split at h
    · next hread =>
      rw [hread, Except.ok.inj h]
    · cases h
    · cases h
  unfold ofText at htext
  split at htext
  · next tree hread =>
    exact ⟨tree, hread, ofTree_eq htext, fun _ hfield => has_iff_of_ofTree htext hfield⟩
  · cases htext

end Profile

-- ======================================================= configurations

namespace Configuration

variable {around : Surroundings} {i : Invocation} {base policy : ShapingPolicy}

/-- An invocation has the profile that is read for it, and no other. -/
theorem hasProfile_iff {p : Profile} :
    HasProfile around i p ↔ ∃ r, profile around i.profile = .ok r ∧ p = r.profile := by
  unfold HasProfile profile
  cases i.profile with
  | none => simp [Profile.Reading.empty]
  | some reference => simp

/-- There is no profile exactly where the one referred to cannot be loaded. -/
theorem profile_eq_error_iff {f : Failure} :
    profile around i.profile = .error f
      ↔ ∃ reference, i.profile = some reference
        ∧ Profile.load around.files around.profileDirs reference = .error f := by
  unfold profile
  cases i.profile with
  | none => simp
  | some reference => simp

/-- A profile that is loaded comes from the file that its reference leads to. -/
theorem readFromFile_of_load {reference : String} {r : Profile.Reading}
    (h : Profile.load around.files around.profileDirs reference = .ok r) :
    ReadFromFile around reference r.profile := by
  obtain ⟨path, hleads, text, htext, hread⟩ := Profile.yields_of_load h
  have hparse : Profile.parse text path = .ok r := by rw [Profile.parse, hread]
  obtain ⟨tree, htree, hfrom⟩ := Profile.readFrom_of_parse hparse
  exact ⟨path, text, tree, hleads, htext, htree, hfrom⟩

/-- The ports that an overlay leaves alone. -/
def ports (i : Invocation) (base : ShapingPolicy) : Except Failure (List UInt16) :=
  match i.exclude with
  | some raw => PortList.parse raw
  | none => .ok base.excludedPorts

/-- The ports are missing exactly where a list is given that cannot be read. -/
theorem ports_eq_error_iff {f : Failure} :
    ports i base = .error f ↔ ∃ raw, i.exclude = some raw ∧ PortList.parse raw = .error f := by
  unfold ports
  cases i.exclude with
  | none => simp
  | some raw => simp

/-- A port list that cannot be read is a failure to report. -/
theorem breaksOff_of_parse {raw : String} {f : Failure} (h : PortList.parse raw = .error f) :
    f.breaksOff = false := by
  obtain ⟨-, piece, -, -, -, hpiece⟩ := Profile.mapM_eq_error_iff.1 h
  unfold PortList.port at hpiece
  split at hpiece
  · cases hpiece
  · obtain rfl := Except.error.inj hpiece
    rfl

/-- The ports are all that an overlay can fail by. -/
theorem overlay_eq (i : Invocation) (base : ShapingPolicy) :
    overlay i base = (ports i base).map fun excludedPorts =>
      ({ interface := i.interface.getD base.interface
         mirrorDevice := i.mirrorDevice.getD base.mirrorDevice
         shaping :=
          { bandwidth := (i.bandwidth.map RawParams.ofText?).getD base.shaping.bandwidth
            impairment := (i.impairment.map RawParams.ofText?).getD base.shaping.impairment
            reorder := i.reorder || base.shaping.reorder }
         source := (i.source.map Selector.parse).getD base.source
         destination := (i.destination.map Selector.parse).getD base.destination
         excludedPorts := excludedPorts },
        (selector i.source base.source).2 ++ (selector i.destination base.destination).2) := by
  have hselector : ∀ given otherwise,
      (selector given otherwise).1 = (given.map Selector.parse).getD otherwise := by
    intro given otherwise
    cases given <;> rfl
  unfold overlay ports
  rw [← hselector, ← hselector]
  cases i.exclude with
  | none => rfl
  | some raw =>
      cases PortList.parse raw with
      | error f => rfl
      | ok ns => rfl

/-- An overlay fails by its ports. -/
theorem overlay_eq_error_iff {f : Failure} :
    overlay i base = .error f ↔ ports i base = .error f := by
  rw [overlay_eq]
  cases ports i base <;> simp [Except.map]

/-- What an overlay settles is settled by the three layers. -/
theorem overlaid_of_overlay {p : Profile} {c : Configuration} {ws : List UnreadablePort}
    (h : overlay i (p.applyTo .default) = .ok (c.policy, ws))
    (hbuffer : c.compiler.bufferSize = i.bufferSize.getD CompilerConfig.default.bufferSize) :
    Overlaid i p c := by
  rw [overlay_eq] at h
  cases hports : ports i (p.applyTo .default) with
  | error f =>
      rw [hports] at h
      cases h
  | ok ns =>
      rw [hports] at h
      obtain ⟨hpolicy, -⟩ := Prod.mk.inj (Except.ok.inj h)
      have hexclude : c.policy.excludedPorts = ns := by rw [← hpolicy]
      unfold ports at hports
      exact {
        interface := by rw [← hpolicy, Option.getD_or]; rfl
        mirrorDevice := by rw [← hpolicy]; rfl
        bandwidth := by rw [← hpolicy, Option.map_or, Option.getD_or]; rfl
        impairment := by rw [← hpolicy, Option.map_or, Option.getD_or]; rfl
        reorder := by rw [← hpolicy]; rfl
        source := by rw [← hpolicy, Option.getD_or]; rfl
        destination := by rw [← hpolicy, Option.getD_or]; rfl
        excluded_given := by
          intro raw hraw
          rw [hraw] at hports
          rw [hexclude]
          exact hports
        excluded_left := by
          intro hnone
          rw [hnone] at hports
          rw [hexclude, ← Except.ok.inj hports]
          rfl
        bufferSize := hbuffer }

/-- A configuration has the fields that the three layers settle. -/
theorem overlaid_of_ok {c : Configuration} {ws : List UnreadablePort}
    (h : of around i = .ok (c, ws)) : ∃ p, HasProfile around i p ∧ Overlaid i p c := by
  obtain ⟨reading, policy, policyWarnings, hprofile, hoverlay, rfl⟩ := of_eq_ok h
  exact ⟨reading.profile, hasProfile_iff.2 ⟨reading, hprofile, rfl⟩,
    overlaid_of_overlay hoverlay rfl⟩

/-- There is no configuration where the profile cannot be loaded or, once it is,
the ports to leave alone cannot be read; the failure is that of the first. -/
theorem of_eq_error_iff {f : Failure} :
    of around i = .error f
      ↔ (∃ reference, i.profile = some reference
          ∧ Profile.load around.files around.profileDirs reference = .error f)
        ∨ (∃ p, HasProfile around i p)
          ∧ ∃ raw, i.exclude = some raw ∧ PortList.parse raw = .error f := by
  rw [← profile_eq_error_iff]
  simp only [hasProfile_iff]
  unfold of
  rw [Profile.bind_eq_error_iff]
  cases profile around i.profile with
  | error f => simp
  | ok r =>
      rw [← @ports_eq_error_iff i (r.profile.applyTo .default) f, ← overlay_eq_error_iff]
      simp only [Except.ok.injEq, exists_eq_left', reduceCtorEq, false_or]
      cases overlay i (r.profile.applyTo .default) <;> simp [bind, Except.bind, pure, Except.pure]

/-- Making a configuration breaks off exactly where the file of its profile
breaks reading off. -/
theorem of_breaks_off_iff :
    (∃ f, of around i = .error f ∧ f.breaksOff = true) ↔ RefersToBreak around i := by
  unfold RefersToBreak
  simp only [of_eq_error_iff]
  constructor
  · intro h
    obtain ⟨f, ⟨reference, href, hload⟩ | ⟨-, raw, -, hports⟩, hbreaks⟩ := h
    · obtain ⟨path, hpath⟩ := Profile.load_breaks_off_iff.1 ⟨f, hload, hbreaks⟩
      exact ⟨reference, path, href, hpath⟩
    · rw [breaksOff_of_parse hports] at hbreaks
      cases hbreaks
  · intro h
    obtain ⟨reference, path, href, hpath⟩ := h
    obtain ⟨f, hload, hbreaks⟩ := Profile.load_breaks_off_iff.2 ⟨path, hpath⟩
    exact ⟨f, Or.inl ⟨reference, href, hload⟩, hbreaks⟩

end Configuration

-- ======================================================== the statement

open Profile in
/-- However many texts are laid over a policy, each field is settled by the last
profile to have it, where to have a field is to have a value for it that is not
null; only a text that breaks reading off leaves no policy. A configuration is
made unless its profile cannot be loaded or its port list cannot be read, and
then each field is settled by the command line, the profile and the default, in
this order. The profile is that of the file its reference leads to, and making
the configuration breaks off only where that file does. -/
theorem last_layer_with_field_wins (origin : String) (start : ShapingPolicy)
    (texts : List String) (around : Surroundings) (i : Invocation) :
    (layTexts origin start texts = none ↔ ∃ text ∈ texts, BreaksOff text)
      ∧ (∀ policy, layTexts origin start texts = some policy →
        LaidOver start (texts.filterMap (ofText? origin)) policy)
      ∧ (∀ text r, parse text origin = .ok r →
        ∃ tree, Json5.read? text.toList = some tree ∧ ReadFrom tree r.profile)
      ∧ (∀ f, Configuration.of around i = .error f
        ↔ (∃ reference, i.profile = some reference
            ∧ Profile.load around.files around.profileDirs reference = .error f)
          ∨ (∃ p, Configuration.HasProfile around i p)
            ∧ ∃ raw, i.exclude = some raw ∧ PortList.parse raw = .error f)
      ∧ ((∃ f, Configuration.of around i = .error f ∧ f.breaksOff = true)
        ↔ Configuration.RefersToBreak around i)
      ∧ (∀ c ws, Configuration.of around i = .ok (c, ws) →
        ∃ p, Configuration.HasProfile around i p ∧ Configuration.Overlaid i p c)
      ∧ ∀ reference p, i.profile = some reference → Configuration.HasProfile around i p →
        Configuration.ReadFromFile around reference p := by
  refine ⟨layTexts_eq_none_iff, fun policy h => ?_, fun _ _ h => readFrom_of_parse h,
    fun f => Configuration.of_eq_error_iff, Configuration.of_breaks_off_iff,
    fun _ _ h => Configuration.overlaid_of_ok h, fun reference p href hp => ?_⟩
  · rw [layTexts_eq_some h]
    exact laidOver_foldl start _
  · obtain ⟨hnone, -⟩ | ⟨reference', r, href', hload, rfl⟩ := hp
    · rw [href] at hnone
      cases hnone
    · rw [href] at href'
      rw [Option.some.inj href']
      exact Configuration.readFromFile_of_load hload

/-- A blank limit in the second of three texts takes the first one's limit away,
and null leaves its ports alone; the third text is no profile. On a command
line that turns reordering on and names a port, everything else is left to the
profile of the file that is found, and one that names no port gives no
configuration. -/
theorem last_layer_with_field_wins_when_blank :
    let first := "\x7b'bandwidth': 'rate 5mbit', 'exclude': [53]\x7d"
    let second := "\x7b'bandwidth': ' ', 'exclude': null\x7d"
    let texts := [first, second, "\x7b'bandwidth"]
    let around : Surroundings :=
      ⟨(FileTree.ofFiles [("dsl", some (Text.Utf8.encode first.toList))]).toFiles, [], none⟩
    let i : Invocation :=
      { Invocation.default with profile := some "dsl", reorder := true, exclude := some "80" }
    (∃ policy, Profile.layTexts "inline" .default texts = some policy
        ∧ policy.shaping.bandwidth = none ∧ policy.excludedPorts = [53]
        ∧ Profile.LaidOver .default (texts.filterMap (Profile.ofText? "inline")) policy)
      ∧ (∃ tree, Json5.read? second.toList = some tree
        ∧ Profile.ReadFrom tree { Profile.empty with bandwidth := some " " })
      ∧ (∃ c ws, Configuration.of around i = .ok (c, ws)
        ∧ c.policy = { ShapingPolicy.default with
            shaping := ⟨RawParams.ofText? "rate 5mbit", none, true⟩, excludedPorts := [80] }
        ∧ ∃ p, Configuration.HasProfile around i p ∧ Configuration.Overlaid i p c
          ∧ Configuration.ReadFromFile around "dsl" p)
      ∧ Configuration.of around { i with exclude := some "22,ssh" }
        = .error (.badExcludedPort "ssh" .invalidDigit) := by
  intro first second texts around i
  obtain ⟨-, hlaid, hread, -, -, hfields, hfile⟩ :=
    last_layer_with_field_wins "inline" .default texts around i
  refine ⟨?_, ?_, ?_, ?_⟩
  · have hlast : ∃ policy, Profile.layTexts "inline" .default texts = some policy
        ∧ policy.shaping.bandwidth = none ∧ policy.excludedPorts = [53] := by
      have hviews : (Profile.layTexts "inline" .default texts).map
          (fun policy => (policy.shaping.bandwidth, policy.excludedPorts)) = some (none, [53]) := by
        decide +kernel
      obtain ⟨policy, hpolicy, hview⟩ := Option.map_eq_some_iff.1 hviews
      obtain ⟨hlimit, hports⟩ := Prod.mk.inj hview
      exact ⟨policy, hpolicy, hlimit, hports⟩
    obtain ⟨policy, hpolicy, hlimit, hports⟩ := hlast
    exact ⟨policy, hpolicy, hlimit, hports, hlaid policy hpolicy⟩
  · have hsecond : Profile.ofText? "inline" second
        = some { Profile.empty with bandwidth := some " " } := by
      decide +kernel
    unfold Profile.ofText? at hsecond
    cases hparse : Profile.parse second "inline" with
    | error fault =>
        rw [hparse] at hsecond
        cases hsecond
    | ok r =>
        rw [hparse] at hsecond
        rw [← Option.some.inj hsecond]
        exact hread second r hparse
  · have hmade : (Configuration.of around i).map (·.1.policy)
        = .ok { ShapingPolicy.default with
            shaping := ⟨RawParams.ofText? "rate 5mbit", none, true⟩, excludedPorts := [80] } := by
      decide +kernel
    cases hof : Configuration.of around i with
    | error f =>
        rw [hof] at hmade
        cases hmade
    | ok made =>
        obtain ⟨c, ws⟩ := made
        rw [hof] at hmade
        obtain ⟨p, hp, hover⟩ := hfields c ws hof
        exact ⟨c, ws, rfl, Except.ok.inj hmade, p, hp, hover, hfile "dsl" p rfl hp⟩
  · obtain ⟨-, -, -, hfails, -⟩ :=
      last_layer_with_field_wins "inline" .default texts around { i with exclude := some "22,ssh" }
    refine (hfails _).2 (Or.inr ⟨?_, "22,ssh", rfl, by decide⟩)
    have hloads : (Profile.load around.files around.profileDirs "dsl").isOk = true := by
      decide +kernel
    cases hload : Profile.load around.files around.profileDirs "dsl" with
    | error f =>
        rw [hload] at hloads
        cases hloads
    | ok r => exact ⟨_, Or.inr ⟨"dsl", r, rfl, hload, rfl⟩⟩

/-- A text that holds no profile need not leave the policy as it was: a character
cut in two takes the policy away, and the profile of the next text with it. -/
theorem layTexts_stops_at_cut_character :
    let texts := ["\x7bexclude:['é']\x7d", "\x7bbandwidth:'rate 1mbit'\x7d"]
    texts.filterMap (Profile.ofText? "inline")
        = [{ Profile.empty with bandwidth := some "rate 1mbit" }]
      ∧ ¬ ∃ policy, Profile.layTexts "inline" .default texts = some policy
        ∧ Profile.LaidOver .default (texts.filterMap (Profile.ofText? "inline")) policy := by
  intro texts
  refine ⟨by decide +kernel, ?_⟩
  have hnone : Profile.layTexts "inline" .default texts = none := by decide +kernel
  intro h
  obtain ⟨policy, hpolicy, -⟩ := h
  rw [hnone] at hpolicy
  cases hpolicy

end TrafficShaping
