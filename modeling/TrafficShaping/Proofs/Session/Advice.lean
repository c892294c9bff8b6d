/-
What installing says about the order of packets (`advice_is_exact`).

Whether a device needs a word is read off its lines: the search for emulators
goes through the text match by match, but its matches end where their lines
do, so that none of them reaches over a line start, and nothing is missed. The
rest is bookkeeping: once the rules are in, each device is asked in turn, the
three ways in which a query can come out are told apart, and nothing that
comes of it keeps the session from returning.
-/
import TrafficShaping.Proofs.Session.Naming
import TrafficShaping.Proofs.Text.Matching

namespace TrafficShaping

-- ==================================================== statement vocabulary

namespace Advisory

/-- Some line of a text begins like that of an emulator and has no word that is
`rate`. -/
def ShowsUnrated (shown : String) : Prop :=
  ∃ line ∈ shown.toList.splitOn '\n',
    "qdisc netem ".toList <+: line ∧ "rate".toList ∉ Text.words line

/-- What there is to say about a device, given what came of the query: -/
inductive Due (device : String) : Except Fault CommandOutput → Advisory → Prop where
  /-- it could not be run, -/
  | notRun (fault : Fault) : Due device (.error fault) (.unverified device fault.message)
  /-- or failed, -/
  | failed {output : CommandOutput} (h : output.success = false) :
    Due device (.ok output) (.unverified device output.stderr)
  /-- or shows an emulator without a rate. -/
  | shown {output : CommandOutput} (h : output.success = true)
    (hunrated : ShowsUnrated output.stdout) : Due device (.ok output) (.rateIgnored device)

end Advisory

/-- The advice of an installation that returned, given what it did.

The schedule came to its end, in the state `installed`; what the session said
after that is its report's warnings, in order. They are those of the two
devices, each queried when the commands before it had been handed over. -/
def Shaper.GivesDueAdvice (s : Shaper) (runner : Runner) (report : ApplyReport) (t : Transcript) :
    Prop :=
  ∃ installed, march runner .empty s.schedule = (.ok (), installed)
    ∧ installed.commands = s.schedule.map Task.command
    ∧ t.warnings = installed.warnings ++ report.warnings.map .advisory
    ∧ ∃ outbound inbound : Option Advisory,
      report.warnings = outbound.toList ++ inbound.toList
      ∧ (∀ a, outbound = some a
        ↔ (s.policy.shaping.impairment.isSome = true ∧ s.policy.shaping.reorder = false)
          ∧ Advisory.Due s.policy.interface
            (runner installed.commands (Command.showOn s.policy.interface)) a)
      ∧ ∀ a, inbound = some a
        ↔ (s.policy.shaping.impairment.isSome = true ∧ s.policy.shaping.reorder = false)
          ∧ Advisory.Due s.policy.mirrorDevice
            (runner (installed.commands ++ [Command.showOn s.policy.interface])
              (Command.showOn s.policy.mirrorDevice)) a

-- ===================================================== emulators by line

namespace Advisory

variable {text line : List Char}

/-- What the pattern matches is a whole line that begins as one of the
emulator. -/
theorem emulatorLine?_eq_some_iff {length : Nat} :
    emulatorLine? text = some (line, length)
      ↔ "qdisc netem ".toList <+: text ∧ line = text.takeWhile (· != '\n')
        ∧ length = line.length := by
  unfold emulatorLine?
  split
  next h =>
    have hfront := List.isPrefixOf_iff_prefix.1 h
    simp only [Option.some.injEq, Prod.mk.injEq, hfront, true_and]
    constructor
    · rintro ⟨rfl, rfl⟩
      exact ⟨rfl, rfl⟩
    · rintro ⟨rfl, rfl⟩
      exact ⟨rfl, rfl⟩
  next h =>
    constructor
    · intro hnone
      cases hnone
    · rintro ⟨hfront, -⟩
      exact absurd (List.isPrefixOf_iff_prefix.2 hfront) h

/-- The phrase has no line end in it, so it stands in front of a text where it
stands in front of the text's first line. -/
theorem marker_prefix_line_iff :
    "qdisc netem ".toList <+: text.takeWhile (· != '\n') ↔ "qdisc netem ".toList <+: text := by
  constructor
  · exact fun h => h.trans (List.takeWhile_prefix _)
  · rintro ⟨rest, rfl⟩
    exact ⟨rest.takeWhile (· != '\n'), by simp⟩

/-- Each match takes up a part of the text, so that the scan moves on. -/
theorem takesUp_emulatorLine : Text.TakesUp emulatorLine? := by
  intro text line length h
  obtain ⟨hmarker, rfl, rfl⟩ := emulatorLine?_eq_some_iff.1 h
  refine ⟨?_, (List.takeWhile_prefix _).length_le⟩
  exact Nat.lt_of_lt_of_le (by decide) (marker_prefix_line_iff.2 hmarker).length_le

/-- What the search finds is the lines that begin with the phrase: a match ends
with its line, so no line start is inside of one. -/
theorem mem_lineMatches_iff :
    line ∈ Text.lineMatches emulatorLine? text
      ↔ line ∈ text.splitOn '\n' ∧ "qdisc netem ".toList <+: line := by
  obtain ⟨fs, hfs, hvalues⟩ := Text.exists_leftmost takesUp_emulatorLine true 0 text
  unfold Text.lineMatches
  rw [hvalues, Text.mem_splitOn_iff, List.mem_map]
  constructor
  · rintro ⟨f, hf, rfl⟩
    obtain ⟨hstart, hmatched⟩ := (hfs.sound f hf).1
    obtain ⟨hmarker, hline, -⟩ := emulatorLine?_eq_some_iff.1 hmatched
    rw [hline, marker_prefix_line_iff]
    exact ⟨⟨f.start, hstart, rfl⟩, hmarker⟩
  · rintro ⟨⟨q, hstart, rfl⟩, hmarker⟩
    rw [marker_prefix_line_iff] at hmarker
    have hin : Text.Found.In emulatorLine? true text
        ⟨q, (text.drop q).takeWhile (· != '\n'), ((text.drop q).takeWhile (· != '\n')).length⟩ :=
      ⟨hstart, emulatorLine?_eq_some_iff.2 ⟨hmarker, rfl, rfl⟩⟩
    rcases hfs.complete _ hin (Nat.zero_le _) with hmem | ⟨g, hg, hlow, hhigh⟩
    · exact ⟨_, hmem, rfl⟩
    · obtain ⟨-, hline, hlength⟩ := emulatorLine?_eq_some_iff.1 (hfs.sound g hg).1.matched
      obtain ⟨before, hdrop, hq⟩ := hstart.exists_lineEnd hlow
      have hshort : g.length ≤ before.length := by
        rw [hlength, hline, hdrop, List.takeWhile_append]
        split
        · simp
        · exact (List.takeWhile_prefix _).length_le
      replace hhigh : q < g.start + g.length := hhigh
      omega

/-- Advice is given on a listing that shows an emulator without a rate, and
names the device. -/
theorem ofShown?_eq_some_iff {device shown : String} {a : Advisory} :
    ofShown? device shown = some a ↔ ShowsUnrated shown ∧ a = .rateIgnored device := by
  have hany : (Text.lineMatches emulatorLine? shown.toList).any lacksRate = true
      ↔ ShowsUnrated shown := by
    unfold ShowsUnrated lacksRate
    simp only [List.any_eq_true, mem_lineMatches_iff, and_assoc, Bool.not_eq_true',
      List.contains_eq_mem, decide_eq_false_iff_not]
  unfold ofShown?
  rw [← hany]
  split
  next h => simp [h, eq_comm]
  next h => simp [h]

theorem ofShown?_isSome_iff {device shown : String} :
    (ofShown? device shown).isSome = true ↔ ShowsUnrated shown := by
  simp [Option.isSome_iff_exists, ofShown?_eq_some_iff]

/-- A line end between two texts leaves the lines of both as they are. -/
theorem showsUnrated_append_iff {a b : String} :
    ShowsUnrated (a ++ "\n" ++ b) ↔ ShowsUnrated a ∨ ShowsUnrated b := by
  have htext : (a ++ "\n" ++ b).toList = a.toList ++ '\n' :: b.toList := by simp
  unfold ShowsUnrated
  rw [htext, List.splitOn_append_cons_self]
  simp only [List.mem_append, or_and_right, exists_or]

end Advisory

-- =================================================== installing, advised

namespace Shaper

variable {s : Shaper}

/-- The advice on an answer is the one that is due on it: a query that failed
asks for none, one that was answered is judged by its text. -/
theorem adviceOn_eq_some_iff {device : String} {result : Except Fault CommandOutput}
    {a : Advisory} : adviceOn device result = some a ↔ Advisory.Due device result a := by
  cases result with
  | error fault =>
      constructor
      · intro h
        cases h
        exact .notRun fault
      · rintro ⟨⟩
        rfl
  | ok output =>
      show (if output.success = true then Advisory.ofShown? device output.stdout
        else some (.unverified device output.stderr)) = some a ↔ _
      constructor
      · intro h
        split at h
        next hsuccess =>
          obtain ⟨hunrated, rfl⟩ := Advisory.ofShown?_eq_some_iff.1 h
          exact .shown hsuccess hunrated
        next hfailed =>
          cases h
          exact .failed (Bool.eq_false_iff.2 hfailed)
      · intro h
        cases h with
        | failed hfailed => simp [hfailed]
        | shown hsuccess hunrated =>
            rw [if_pos hsuccess]
            exact Advisory.ofShown?_eq_some_iff.2 ⟨hunrated, rfl⟩

/-- Order is kept where there is an impairment and reordering is not asked
for. -/
theorem keepsOrder_iff {spec : ShapingSpec} :
    spec.keepsOrder = true ↔ spec.impairment.isSome = true ∧ spec.reorder = false := by
  simp [ShapingSpec.keepsOrder]

/-- An installation that returned has got through its schedule and looked at the
devices. -/
theorem exists_installed_of_ok {runner : Runner} {report : ApplyReport} {t : Transcript}
    (h : s.apply.under runner = (.ok report, t)) :
    ∃ installed, march runner .empty s.schedule = (.ok (), installed)
      ∧ report.warnings = s.finalAdvice runner installed.commands
      ∧ t.warnings = installed.warnings ++ report.warnings.map .advisory := by
  by_cases hnamed : s.policy.interface ≠ "" ∧ s.policy.mirrorDevice ≠ ""
  · obtain ⟨hi, hm⟩ := hnamed
    rw [apply_eq hi hm, Session.under_eq_resume, Session.resume_bind, performs_getThrough hi hm]
      at h
    cases hmarch : march runner .empty s.schedule with
    | mk result installed =>
        rw [hmarch] at h
        cases result with
        | error fault => cases h
        | ok u =>
            have hreport := (resume_lookAndReport hi hm runner installed).symm.trans h
            obtain ⟨hvalue, rfl⟩ := Prod.mk.inj hreport
            obtain rfl := Except.ok.inj hvalue
            exact ⟨installed, rfl, rfl, rfl⟩
  -- without both names it would not have returned
  · rw [not_and_or, not_ne_iff, not_ne_iff] at hnamed
    rw [apply_of_unnamed hnamed] at h
    cases hmarch : march runner .empty s.inquiryTasks with
    | mk result t' =>
        rw [hmarch] at h
        cases result <;> cases h

/-- After every successful apply the warnings are those that its answers ask
for. -/
theorem givesDueAdvice_of_ok {runner : Runner} {report : ApplyReport} {t : Transcript}
    (h : s.apply.under runner = (.ok report, t)) : s.GivesDueAdvice runner report t := by
  obtain ⟨installed, hmarch, hwarnings, hsaid⟩ := exists_installed_of_ok h
  have hcommands := march_commands_of_ok hmarch
  rw [Transcript.empty_commands, List.nil_append] at hcommands
  refine ⟨installed, hmarch, hcommands, hsaid, ?_⟩
  unfold finalAdvice at hwarnings
  by_cases hkeeps : s.policy.shaping.keepsOrder = true
  · rw [if_pos hkeeps] at hwarnings
    refine ⟨_, _, by simpa [advice] using hwarnings, fun a => ?_, fun a => ?_⟩
    · rw [adviceOn_eq_some_iff, and_iff_right (keepsOrder_iff.1 hkeeps)]
    · rw [adviceOn_eq_some_iff, and_iff_right (keepsOrder_iff.1 hkeeps)]
  · rw [if_neg hkeeps] at hwarnings
    rw [keepsOrder_iff] at hkeeps
    exact ⟨none, none, hwarnings, by simp [hkeeps], by simp [hkeeps]⟩

end Shaper

-- ======================================================== the statement

/-- Of every text, on every device: there is an advisory exactly where some line
shows an emulator without a rate, so that one text after the other needs no
more than each of them. And an installation that returned has said, after the
rules were in, what there was to say about its devices, and nothing else. -/
theorem advice_is_exact :
    (∀ device shown, (Advisory.ofShown? device shown).isSome = true
        ↔ Advisory.ShowsUnrated shown)
      ∧ (∀ device a b, (Advisory.ofShown? device (a ++ "\n" ++ b)).isSome = true
        ↔ (Advisory.ofShown? device a).isSome = true ∨ (Advisory.ofShown? device b).isSome = true)
      ∧ ∀ (s : Shaper) (runner : Runner) (report : ApplyReport) (t : Transcript),
        s.apply.under runner = (.ok report, t) → s.GivesDueAdvice runner report t := by
  refine ⟨fun device shown => Advisory.ofShown?_isSome_iff, fun device a b => ?_,
    fun s runner report t h => Shaper.givesDueAdvice_of_ok h⟩
  rw [Advisory.ofShown?_isSome_iff, Advisory.ofShown?_isSome_iff, Advisory.ofShown?_isSome_iff]
  exact Advisory.showsUnrated_append_iff

/-- The interface shows an emulator on the line after one that does have a rate,
and the mirror device cannot be queried: both get their word. -/
theorem advice_is_exact_on_both_devices :
    let s : Shaper :=
      ⟨{ ShapingPolicy.default with shaping := ⟨none, some ⟨"delay 50ms 10ms"⟩, false⟩ },
        CompilerConfig.default, true⟩
    let shown :=
      "qdisc netem 20: parent 1:3 limit 9 rate 1Tbit\nqdisc netem 20: parent 1:3 limit 9\n"
    let runner : Runner := fun _ c =>
      if c = Command.showOn "eth0" then .ok (CommandOutput.ok shown)
      else if c = Command.showOn "ifb0" then .error (.io "Broken pipe")
      else .ok (CommandOutput.ok "")
    ∃ report t, s.apply.under runner = (.ok report, t)
      ∧ report.warnings = [.rateIgnored "eth0", .unverified "ifb0" "I/O error: Broken pipe"]
      ∧ s.GivesDueAdvice runner report t := by
  intro s shown runner
  have hwarnings : (s.apply.under runner).1.toOption.map (·.warnings)
      = some [.rateIgnored "eth0", .unverified "ifb0" "I/O error: Broken pipe"] := by
    decide +kernel
  cases hrun : s.apply.under runner with
  | mk result t =>
      rw [hrun] at hwarnings
      cases result with
      | error fault => cases hwarnings
      | ok report =>
          exact ⟨report, t, rfl, Option.some.inj hwarnings,
            advice_is_exact.2.2 s runner report t hrun⟩

end TrafficShaping
