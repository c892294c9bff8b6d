/-
What looking at both devices comes to, under any runner
(`status_follows_answers`).

Which queries are posed depends on what came of those before: a device is asked
for its filters only where the root of its direction was seen. So the queries
are said from the runner's answers, and the session is shown to pose them in
order up to the first that could not be run (`Session.Asks`). That is closed
under sequencing, so one device settles both.

What the report says of a device is told from the answers about that device
alone, and they leave nothing open (`DeviceStatus.Describes.unique`): whatever
happens to the other device, the entry is the same.
-/
import TrafficShaping.Proofs.Session.Inspection

namespace TrafficShaping

-- ==================================================== statement vocabulary

/-- A command ran, succeeded, and showed this. -/
def Printed (shown : String) (answer : Except Fault CommandOutput) : Prop :=
  ∃ output, answer = .ok output ∧ output.success = true ∧ output.stdout = shown

/-- A command ran, failed, and complained like this. -/
def FailedWith (complaint : String) (answer : Except Fault CommandOutput) : Prop :=
  ∃ output, answer = .ok output ∧ output.success = false ∧ output.stderr = complaint

/-- A query succeeded, and some line that it showed begins like that of the root
of a direction's tree. -/
def RootSeen (d : Direction) (answer : Except Fault CommandOutput) : Prop :=
  ∃ shown, Printed shown answer ∧ ∃ line ∈ shown.toList.splitOn '\n',
    ("qdisc prio " ++ (Numbering.of d).root.render ++ " root").toList <+: line

section Answers

variable {d : Direction} {output : CommandOutput} {fault : Fault} {text : String}

@[simp] theorem printed_ok_iff :
    Printed text (.ok output) ↔ output.success = true ∧ output.stdout = text := by
  simp [Printed]

@[simp] theorem not_printed_error : ¬ Printed text (.error fault) := by
  simp [Printed]

@[simp] theorem failedWith_ok_iff :
    FailedWith text (.ok output) ↔ output.success = false ∧ output.stderr = text := by
  simp [FailedWith]

@[simp] theorem not_failedWith_error : ¬ FailedWith text (.error fault) := by
  simp [FailedWith]

/-- The test for a root looks for it at the beginning of a line. -/
theorem Numbering.rootShown_iff {n : Numbering} {shown : String} :
    n.rootShown shown = true ↔ ∃ line ∈ shown.toList.splitOn '\n',
      ("qdisc prio " ++ n.root.render ++ " root").toList <+: line := by
  simp only [Numbering.rootShown, List.any_eq_true, List.isPrefixOf_iff_prefix]
  rfl

theorem rootSeen_ok_iff :
    RootSeen d (.ok output)
      ↔ output.success = true ∧ (Numbering.of d).rootShown output.stdout = true := by
  simp [RootSeen, Numbering.rootShown_iff, and_assoc]

@[simp] theorem not_rootSeen_error : ¬ RootSeen d (.error fault) := by
  simp [RootSeen]

instance (d : Direction) : DecidablePred (RootSeen d)
  | .ok _ => decidable_of_iff _ rootSeen_ok_iff.symm
  | .error _ => .isFalse not_rootSeen_error

end Answers

/-- What came of the queries about a direction's device: of that for the
disciplines, and of that for the filters where it was posed. -/
structure Answers where
  qdiscs : Except Fault CommandOutput
  filters : Option (Except Fault CommandOutput)

namespace ShapingPolicy

/-- The queries about a direction's device, the commands `seen` having been
handed over before. -/
def queriesOn (p : ShapingPolicy) (runner : Runner) (seen : List Command) (d : Direction) :
    List Command :=
  let qdiscs := Command.showCounts (p.deviceFor d)
  qdiscs :: if RootSeen d (runner seen qdiscs) then
      [Command.showFilterCounts (p.deviceFor d) (Numbering.of d).root]
    else []

/-- What comes of them. -/
def answersOn (p : ShapingPolicy) (runner : Runner) (seen : List Command) (d : Direction) :
    Answers where
  qdiscs := runner seen (Command.showCounts (p.deviceFor d))
  filters :=
    let qdiscs := Command.showCounts (p.deviceFor d)
    if RootSeen d (runner seen qdiscs) then
      some (runner (seen ++ [qdiscs])
        (Command.showFilterCounts (p.deviceFor d) (Numbering.of d).root))
    else none

/-- The queries before those about a direction: outbound comes first. -/
def queriesBefore (p : ShapingPolicy) (runner : Runner) : Direction → List Command
  | .outbound => []
  | .inbound => p.queriesOn runner [] .outbound

/-- All queries. -/
def queries (p : ShapingPolicy) (runner : Runner) : List Command :=
  p.queriesOn runner [] .outbound
    ++ p.queriesOn runner (p.queriesBefore runner .inbound) .inbound

/-- What comes of the queries about a direction. -/
def answers (p : ShapingPolicy) (runner : Runner) (d : Direction) : Answers :=
  p.answersOn runner (p.queriesBefore runner d) d

end ShapingPolicy

/-- An entry says of a direction's device what the answers about it were. -/
structure DeviceStatus.Describes (e : DeviceStatus) (p : ShapingPolicy) (d : Direction)
    (a : Answers) : Prop where
  direction_eq : e.direction = d
  device_eq : e.device = p.deviceFor d
  ran : ∃ output, a.qdiscs = .ok output
  error_iff : ∀ complaint, e.error = some complaint ↔ FailedWith complaint a.qdiscs
  /-- Of a device that could not be queried nothing else is said. -/
  nothing_else : e.error ≠ none →
    e.active = false ∧ e.qdiscs = "" ∧ e.filters = "" ∧ e.filtersError = none
  active_iff : e.active = true ↔ RootSeen d a.qdiscs
  filtersError_iff : ∀ complaint,
    e.filtersError = some complaint ↔ ∃ answer ∈ a.filters, FailedWith complaint answer
  qdiscs_eq : ∀ shown, Printed shown a.qdiscs → e.qdiscs = shown
  filters_eq : ∀ answer ∈ a.filters, ∀ shown, Printed shown answer → e.filters = shown
  filters_ne : e.filters ≠ "" →
    e.active = true ∧ ∃ answer ∈ a.filters, ∃ shown, Printed shown answer

/-- A report has one entry for each direction, in order, and each is told from
the answers about its own device. -/
def StatusReport.Describes (r : StatusReport) (p : ShapingPolicy) (runner : Runner) : Prop :=
  r.interface = p.interface ∧ ∃ outbound inbound, r.devices = [outbound, inbound]
    ∧ outbound.Describes p .outbound (p.answers runner .outbound)
    ∧ inbound.Describes p .inbound (p.answers runner .inbound)

/-- How a look at the devices ends: with a report when every query was run, and
otherwise in the fault of the first that was not, right behind it. -/
structure StatusReport.Follows (p : ShapingPolicy) (runner : Runner)
    (result : Except Fault StatusReport) (t : Transcript) : Prop where
  commands : t.commands <+: p.queries runner
  reads_only : ∀ c ∈ t.commands, c.changesPlatform = false
  error_iff : ∀ fault, result = .error fault
    ↔ ∃ before c, t.commands = before ++ [c] ∧ runner before c = .error fault
  ran : ∀ before c after, t.commands = before ++ c :: after → after ≠ [] →
    ∃ output, runner before c = .ok output
  reported : ∀ report, result = .ok report →
    t.commands = p.queries runner ∧ report.Describes p runner

-- ==================================================== running queries

/-- The runner runs all of these, one after the other. -/
def AllRan (runner : Runner) : List Command → List Command → Prop
  | _, [] => True
  | seen, c :: cs => (∃ output, runner seen c = .ok output) ∧ AllRan runner (seen ++ [c]) cs

variable {runner : Runner} {seen : List Command}

/-- Commands ran where the first part did, and after that the second. -/
theorem allRan_append_iff {cs ds : List Command} :
    AllRan runner seen (cs ++ ds) ↔ AllRan runner seen cs ∧ AllRan runner (seen ++ cs) ds := by
  induction cs generalizing seen with
  | nil => simp [AllRan]
  | cons c cs ih =>
      simp only [List.cons_append, AllRan, ih, and_assoc, List.append_assoc, List.nil_append]

theorem AllRan.exists_output {before after : List Command} {c : Command}
    (h : AllRan runner seen (before ++ c :: after)) :
    ∃ output, runner (seen ++ before) c = .ok output :=
  (allRan_append_iff.1 h).2.1

namespace Session

variable {α β : Type}

/-- A session taken up at a transcript poses these queries: when all can be run
it returns a value of this kind, and otherwise it ends with the first that
cannot. -/
inductive Asks (s : Session α) (runner : Runner) (t : Transcript) (cs : List Command)
    (value : α → Prop) : Prop where
  | through (a : α) (hran : AllRan runner t.commands cs) (hvalue : value a)
    (hresume : s.resume runner t = (.ok a, ⟨t.commands ++ cs, t.warnings⟩))
  | stopped (before after : List Command) (c : Command) (fault : Fault)
    (hcommands : cs = before ++ c :: after) (hran : AllRan runner t.commands before)
    (hfault : runner (t.commands ++ before) c = .error fault)
    (hresume : s.resume runner t
      = (.error fault, ⟨t.commands ++ (before ++ [c]), t.warnings⟩))

variable {t : Transcript} {cs ds : List Command} {value : α → Prop}

theorem asks_pure {a : α} (h : value a) : (pure a : Session α).Asks runner t [] value :=
  .through a trivial h (by simp)

/-- What is sequenced poses the queries of both parts. -/
theorem Asks.bind {s : Session α} {k : α → Session β} {value' : β → Prop}
    (hs : s.Asks runner t cs value)
    (hk : ∀ a, value a → (k a).Asks runner ⟨t.commands ++ cs, t.warnings⟩ ds value') :
    (s >>= k).Asks runner t (cs ++ ds) value' := by
  cases hs with
  | through a hran hvalue hresume =>
      cases hk a hvalue with
      | through b hran' hvalue' hresume' =>
          refine .through b (allRan_append_iff.2 ⟨hran, hran'⟩) hvalue' ?_
          rw [resume_bind_ok hresume, hresume', List.append_assoc]
      | stopped before after c fault hcommands hran' hfault hresume' =>
          refine .stopped (cs ++ before) after c fault (by simp [hcommands])
            (allRan_append_iff.2 ⟨hran, hran'⟩) ?_ ?_
          · rw [← List.append_assoc]
            exact hfault
          · rw [resume_bind_ok hresume, hresume']
            simp
  | stopped before after c fault hcommands hran hfault hresume =>
      refine .stopped before (after ++ ds) c fault (by simp [hcommands]) hran hfault ?_
      rw [resume_bind, hresume]

/-- A single query, and then what its output calls for. -/
theorem asks_issue_bind {c : Command} {k : CommandOutput → Session α}
    (h : ∀ output, runner t.commands c = .ok output → (k output).Asks runner (t.issue c) cs value) :
    (issue c >>= k).Asks runner t (c :: cs) value := by
  cases hanswer : runner t.commands c with
  | error fault =>
      refine .stopped [] cs c fault rfl trivial (by simpa using hanswer) ?_
      rw [resume_bind, resume_issue, hanswer]
      rfl
  | ok output =>
      have hissue : (issue c).Asks runner t [c] (fun a => a = output) :=
        .through output ⟨⟨output, hanswer⟩, trivial⟩ rfl (by rw [resume_issue, hanswer]; rfl)
      refine hissue.bind fun a ha => ?_
      rw [ha]
      exact h output hanswer

/-- The two ends of a session that poses queries and starts with nothing. -/
theorem Asks.under_cases {s : Session α} (h : s.Asks runner .empty cs value) :
    (AllRan runner [] cs ∧ ∃ a, value a ∧ s.under runner = (.ok a, ⟨cs, []⟩))
      ∨ ∃ before after c fault, cs = before ++ c :: after ∧ AllRan runner [] before
        ∧ runner before c = .error fault
        ∧ s.under runner = (.error fault, ⟨before ++ [c], []⟩) := by
  cases h with
  | through a hran hvalue hresume => exact Or.inl ⟨hran, a, hvalue, hresume⟩
  | stopped before after c fault hcommands hran hfault hresume =>
      exact Or.inr ⟨before, after, c, fault, hcommands, hran, hfault, hresume⟩

/-- What is issued is the beginning of what is asked for. -/
theorem Asks.commands_under {s : Session α} (h : s.Asks runner .empty cs value) :
    (s.under runner).2.commands <+: cs := by
  rcases h.under_cases with ⟨-, a, -, hunder⟩ | ⟨before, after, c, fault, hcommands, -, -, hunder⟩
  · simp [hunder]
  · rw [hunder, hcommands]
    exact ⟨after, by simp⟩

/-- Every command but the last could be run. -/
theorem Asks.ran_under {s : Session α} (h : s.Asks runner .empty cs value)
    {before after : List Command} {c : Command}
    (hsplit : (s.under runner).2.commands = before ++ c :: after) (hne : after ≠ []) :
    ∃ output, runner before c = .ok output := by
  rcases h.under_cases with ⟨hran, a, -, hunder⟩ | ⟨before', _, c', fault, -, hran, -, hunder⟩
  · rw [hunder] at hsplit
    obtain rfl : cs = before ++ c :: after := hsplit
    exact hran.exists_output
  · rw [hunder, ← List.dropLast_concat_getLast hne, ← List.cons_append, ← List.append_assoc]
      at hsplit
    obtain rfl := (List.append_inj' hsplit rfl).1
    exact hran.exists_output

/-- A session fails where one of its commands does not run, and then at that
one. -/
theorem Asks.under_error_iff {s : Session α} (h : s.Asks runner .empty cs value) (fault : Fault) :
    (s.under runner).1 = .error fault ↔ ∃ before c,
      (s.under runner).2.commands = before ++ [c] ∧ runner before c = .error fault := by
  rcases h.under_cases with ⟨hran, a, -, hunder⟩ | ⟨before, _, c, fault', -, -, hfault, hunder⟩
  · rw [hunder]
    constructor
    · intro herror
      cases herror
    · rintro ⟨before, c, hsplit, hfault⟩
      obtain rfl : cs = before ++ [c] := hsplit
      obtain ⟨output, houtput⟩ := hran.exists_output
      cases hfault.symm.trans houtput
  · rw [hunder]
    constructor
    · intro herror
      cases herror
      exact ⟨before, c, rfl, hfault⟩
    · rintro ⟨before', c', hsplit, hfault'⟩
      obtain ⟨rfl, hlast⟩ := List.append_inj' hsplit rfl
      obtain rfl := (List.cons.inj hlast).1
      exact congrArg _ (Except.error.inj (hfault.symm.trans hfault'))

/-- A session that gets through has asked for everything. -/
theorem Asks.of_under_ok {s : Session α} (h : s.Asks runner .empty cs value) {a : α}
    (hok : (s.under runner).1 = .ok a) : (s.under runner).2.commands = cs ∧ value a := by
  rcases h.under_cases with ⟨-, a', hvalue, hunder⟩ | ⟨_, _, _, fault, -, -, -, hunder⟩
  · rw [hunder] at hok ⊢
    obtain rfl := Except.ok.inj hok
    exact ⟨rfl, hvalue⟩
  · rw [hunder] at hok
    cases hok

end Session

-- ========================================================= one device

variable {p : ShapingPolicy} {d : Direction}

/-- Which queries are posed is settled by what came of the first. -/
theorem ShapingPolicy.queriesOn_congr {r₁ r₂ : Runner} {seen₁ seen₂ : List Command}
    (h : (p.answersOn r₁ seen₁ d).qdiscs = (p.answersOn r₂ seen₂ d).qdiscs) :
    p.queriesOn r₁ seen₁ d = p.queriesOn r₂ seen₂ d := by
  replace h : r₁ seen₁ (Command.showCounts (p.deviceFor d))
      = r₂ seen₂ (Command.showCounts (p.deviceFor d)) := h
  unfold queriesOn
  simp only [h]

namespace DeviceStatus

/-- A device is asked for its disciplines and, past those, for its filters, and
the entry says what the answers were. -/
theorem asks_collect (h : p.deviceFor d ≠ "") (t : Transcript) :
    (collect p d).Asks runner t (p.queriesOn runner t.commands d)
      (fun e => e.Describes p d (p.answersOn runner t.commands d)) := by
  unfold collect ShapingPolicy.queriesOn ShapingPolicy.answersOn
  simp only [Command.showQdiscs_counts h, Command.showFilters_eq h, Session.built, pure_bind]
  refine Session.asks_issue_bind fun qdiscs hanswer => ?_
  simp only [hanswer, rootSeen_ok_iff]
  cases hsuccess : qdiscs.success with
  | false =>
      simp only [Bool.not_false, if_true, Bool.false_eq_true, false_and, if_false]
      refine Session.asks_pure ?_
      constructor <;> simp [unavailable, hsuccess, rootSeen_ok_iff]
  | true =>
      cases hroot : (Numbering.of d).rootShown qdiscs.stdout with
      | false =>
          simp only [Bool.not_false, Bool.not_true, if_true, Bool.false_eq_true, if_false,
            and_false]
          refine Session.asks_pure ?_
          constructor <;> simp [hsuccess, hroot, rootSeen_ok_iff]
      | true =>
          simp only [Bool.not_true, if_true, Bool.false_eq_true, if_false, and_self]
          refine Session.asks_issue_bind fun filters hanswer' => ?_
          replace hanswer' : runner (t.commands ++ [Command.showCounts (p.deviceFor d)])
              (Command.showFilterCounts (p.deviceFor d) (Numbering.of d).root) = .ok filters :=
            hanswer'
          cases hfiltered : filters.success with
          | false =>
              refine Session.asks_pure ?_
              constructor <;> simp [hsuccess, hroot, hanswer', hfiltered, rootSeen_ok_iff]
          | true =>
              refine Session.asks_pure ?_
              constructor <;> simp [hsuccess, hroot, hanswer', hfiltered, rootSeen_ok_iff]

/-- The answers about a device settle its entry. -/
theorem Describes.unique {e e' : DeviceStatus} {a : Answers} (h : e.Describes p d a)
    (h' : e'.Describes p d a) : e = e' := by
  have herror : e.error = e'.error :=
    Option.ext fun complaint => (h.error_iff complaint).trans (h'.error_iff complaint).symm
  have hactive : e.active = e'.active := Bool.eq_iff_iff.2 (h.active_iff.trans h'.active_iff.symm)
  have hfiltersError : e.filtersError = e'.filtersError :=
    Option.ext fun complaint =>
      (h.filtersError_iff complaint).trans (h'.filtersError_iff complaint).symm
  have hqdiscs : e.qdiscs = e'.qdiscs := by
    obtain ⟨output, houtput⟩ := h.ran
    cases hsuccess : output.success with
    | false =>
        have hfailed : FailedWith output.stderr a.qdiscs := ⟨output, houtput, hsuccess, rfl⟩
        have hsome := (h.error_iff _).2 hfailed
        have hsome' := (h'.error_iff _).2 hfailed
        rw [(h.nothing_else (by simp [hsome])).2.1, (h'.nothing_else (by simp [hsome'])).2.1]
    | true =>
        have hprinted : Printed output.stdout a.qdiscs := ⟨output, houtput, hsuccess, rfl⟩
        rw [h.qdiscs_eq _ hprinted, h'.qdiscs_eq _ hprinted]
  have hfilters : e.filters = e'.filters := by
    by_cases hprinted : ∃ answer ∈ a.filters, ∃ shown, Printed shown answer
    · obtain ⟨answer, hanswer, shown, hshown⟩ := hprinted
      rw [h.filters_eq _ hanswer _ hshown, h'.filters_eq _ hanswer _ hshown]
    · have hempty : e.filters = "" :=
        Decidable.byContradiction fun hne => hprinted (h.filters_ne hne).2
      have hempty' : e'.filters = "" :=
        Decidable.byContradiction fun hne => hprinted (h'.filters_ne hne).2
      rw [hempty, hempty']
  have hdirection : e.direction = e'.direction := h.direction_eq.trans h'.direction_eq.symm
  have hdevice : e.device = e'.device := h.device_eq.trans h'.device_eq.symm
  cases e
  cases e'
  simp_all only

end DeviceStatus

-- ======================================================== both devices

namespace StatusReport

/-- Every entry of a report is about its own direction. -/
theorem Describes.entry {r : StatusReport} (h : r.Describes p runner) {e : DeviceStatus}
    (he : e ∈ r.devices) : e.Describes p e.direction (p.answers runner e.direction) := by
  obtain ⟨-, outbound, inbound, hdevices, hout, hin⟩ := h
  rw [hdevices, List.mem_cons, List.mem_singleton] at he
  rcases he with rfl | rfl
  · rwa [hout.direction_eq]
  · rwa [hin.direction_eq]

variable (hi : p.interface ≠ "") (hm : p.mirrorDevice ≠ "")

include hi hm

theorem asks_collect (runner : Runner) :
    (collect p).Asks runner .empty (p.queries runner) (fun r => r.Describes p runner) := by
  have hqueries : p.queries runner = p.queriesOn runner [] .outbound
      ++ (p.queriesOn runner (p.queriesOn runner [] .outbound) .inbound ++ []) := by
    rw [List.append_nil]
    rfl
  rw [collect_eq, hqueries]
  refine (DeviceStatus.asks_collect (d := .outbound) hi .empty).bind fun outbound hout => ?_
  refine (DeviceStatus.asks_collect (d := .inbound) hm _).bind fun inbound hin => ?_
  exact Session.asks_pure ⟨rfl, outbound, inbound, rfl, hout, hin⟩

/-- So the collected report follows the answers. -/
theorem follows_collect (runner : Runner) :
    Follows p runner ((collect p).under runner).1 ((collect p).under runner).2 where
  commands := (asks_collect hi hm runner).commands_under
  reads_only := fun _ hc => ((collect_shows p).under runner hc).changesPlatform_eq_false
  error_iff := (asks_collect hi hm runner).under_error_iff
  ran := fun _ _ _ hsplit hne => (asks_collect hi hm runner).ran_under hsplit hne
  reported := fun _ hok => (asks_collect hi hm runner).of_under_ok hok

end StatusReport

-- ======================================================== the statement

/-- Under every runner, looking at the devices poses the queries that the answers
call for, and a report says what the answers were. What it says of one device
rests on the answers about that device: two runners that give the same ones are
asked the same about it and get the same entry, whatever they say about the
other. -/
theorem status_follows_answers (p : ShapingPolicy) (hi : p.interface ≠ "")
    (hm : p.mirrorDevice ≠ "") :
    (∀ runner, StatusReport.Follows p runner ((StatusReport.collect p).under runner).1
        ((StatusReport.collect p).under runner).2)
      ∧ ∀ (r₁ r₂ : Runner) (d : Direction) (report₁ report₂ : StatusReport),
        ((StatusReport.collect p).under r₁).1 = .ok report₁ →
        ((StatusReport.collect p).under r₂).1 = .ok report₂ →
        p.answers r₁ d = p.answers r₂ d →
        p.queriesOn r₁ (p.queriesBefore r₁ d) d = p.queriesOn r₂ (p.queriesBefore r₂ d) d
          ∧ ∀ e₁ ∈ report₁.devices, ∀ e₂ ∈ report₂.devices,
            e₁.direction = d → e₂.direction = d → e₁ = e₂ := by
  refine ⟨StatusReport.follows_collect hi hm, ?_⟩
  intro r₁ r₂ d report₁ report₂ hok₁ hok₂ halike
  refine ⟨ShapingPolicy.queriesOn_congr (congrArg Answers.qdiscs halike), ?_⟩
  intro e₁ he₁ e₂ he₂ hd₁ hd₂
  have hreport₁ := ((StatusReport.follows_collect hi hm r₁).reported report₁ hok₁).2
  have hreport₂ := ((StatusReport.follows_collect hi hm r₂).reported report₂ hok₂).2
  have hentry₁ := hreport₁.entry he₁
  have hentry₂ := hreport₂.entry he₂
  rw [hd₁, halike] at hentry₁
  rw [hd₂] at hentry₂
  exact hentry₁.unique hentry₂

/-- Both trees are in, and then the interface is gone: what is said of the mirror
device, whose filters cannot be shown, stays the same. -/
theorem status_follows_answers_without_interface :
    let p := ShapingPolicy.default
    let before : Runner := fun _ c =>
      if c = Command.showCounts "eth0" then .ok (CommandOutput.ok "qdisc prio 1: root refcnt 2\n")
      else if c = Command.showCounts "ifb0" then
        .ok (CommandOutput.ok "qdisc prio 2: root refcnt 2\n")
      else .ok (CommandOutput.failed "RTNETLINK answers: Resource busy")
    let after : Runner := fun seen c =>
      if c = Command.showCounts "eth0" then .ok (CommandOutput.failed "Cannot find device eth0")
      else before seen c
    (∀ runner, StatusReport.Follows p runner ((StatusReport.collect p).under runner).1
        ((StatusReport.collect p).under runner).2)
      ∧ ∃ report₁ report₂, ((StatusReport.collect p).under before).1 = .ok report₁
        ∧ ((StatusReport.collect p).under after).1 = .ok report₂
        ∧ report₁.devices.map (·.active) = [true, true]
        ∧ report₂.devices.map (·.active) = [false, true]
        ∧ ∀ e₁ ∈ report₁.devices, ∀ e₂ ∈ report₂.devices,
          e₁.direction = .inbound → e₂.direction = .inbound → e₁ = e₂ := by
  intro p before after
  have hboth := status_follows_answers p (by decide) (by decide)
  refine ⟨hboth.1, _, _, rfl, rfl, ?_, ?_, ?_⟩
  · decide +kernel
  · decide +kernel
  · exact (hboth.2 before after .inbound _ _ rfl rfl rfl).2

end TrafficShaping
