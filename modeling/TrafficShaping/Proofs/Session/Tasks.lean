/-
Tasks: commands together with what they are run for, and what it means to
run a list of them.

What a command is run for settles which of its results a session lives with.
Running tasks is then a plain recursion on the list (`march`): each command
is handed over once, in order, and the first result that is not tolerated
ends the run. Sessions are related to it by `Performs`, which says that a
session and a run of tasks come to the same under every runner and from
every transcript; it holds of single steps and is kept by sequencing, so it
holds of whatever is put together from steps.

The other reading of a run is by position: `march_of_all_tolerated` and
`march_of_first_refused` say what a run comes to from the results alone.
-/
import TrafficShaping.Proofs.Command.Words
import TrafficShaping.Proofs.Offload.Entries
import TrafficShaping.Proofs.Session.Laws
import TrafficShaping.Proofs.Text.Folding
import TrafficShaping.Shaper.Install

namespace TrafficShaping

-- ========================================================== the tasks

/-- What a command is run for. -/
inductive Purpose where
  /-- To learn which offload features of an interface are on. -/
  | inquiry (interface : String)
  /-- To delete what may not be there. -/
  | deletion
  /-- To create what may be there already. -/
  | creation
  /-- To make a change that has to succeed. -/
  | change
  deriving DecidableEq, Repr

/-- A command and what it is run for. -/
structure Task where
  command : Command
  purpose : Purpose
  deriving DecidableEq, Repr

namespace Purpose

/-- The phrases that mark a failure as harmless. -/
def harmless : Purpose → List String
  | inquiry _ => []
  | deletion =>
    ["cannot find", "no such", "handle of zero", "invalid handle", "does not exist"]
  | creation => ["file exists"]
  | change => []

/-- The results that a session lives with. An inquiry may fail or not run at
all, and stands in the way only with a report in which a feature that matters is
on; any other command has to run, and to succeed unless its complaint is a
harmless one. -/
def Tolerates : Purpose → Except Fault CommandOutput → Prop
  | inquiry _, .error _ => True
  | inquiry _, .ok output =>
    output.success = true → ¬ ∃ p name, Offload.SpoilsAt output.stdout.toList p name
  | _, .error _ => False
  | p, .ok output =>
    output.success = true
      ∨ ∃ phrase ∈ p.harmless, Text.Mentions phrase.toList output.stderr.toList

/-- What a session says about an inquiry that came to nothing. -/
def warnings : Purpose → Except Fault CommandOutput → List Warning
  | inquiry interface, .error fault => [.featuresNotQueried interface fault]
  | inquiry interface, .ok output =>
    if output.success then [] else [.featuresUnknown interface output.stderr]
  | _, _ => []

end Purpose

/-- The fault that a result is when it is not tolerated: the runner's own, the
features that are on, or else the command's failure. -/
inductive Task.Blames (k : Task) : Except Fault CommandOutput → Fault → Prop
  | runner {fault : Fault} : k.Blames (.error fault) fault
  | features {interface : String} {output : CommandOutput} {names : List String}
    (hpurpose : k.purpose = .inquiry interface)
    (hnames : Offload.Spoilers output.stdout.toList names) :
    k.Blames (.ok output) (.offloadEnabled interface (", ".intercalate names))
  | command {output : CommandOutput} (hpurpose : ∀ interface, k.purpose ≠ .inquiry interface) :
    k.Blames (.ok output) (.commandFailed k.command.line output.stderr)

-- ============================================================= blame

namespace Task

/-- The fault that a result is blamed for. -/
def fault (k : Task) : Except Fault CommandOutput → Fault
  | .error fault => fault
  | .ok output =>
    match k.purpose with
    | .inquiry interface =>
      .offloadEnabled interface (", ".intercalate (Offload.enabled output.stdout))
    | _ => .commandFailed k.command.line output.stderr

/-- There is one fault to blame a result for. -/
theorem blames_iff {k : Task} {result : Except Fault CommandOutput} {f : Fault} :
    k.Blames result f ↔ f = k.fault result := by
  obtain ⟨command, purpose⟩ := k
  constructor
  · intro h
    cases h with
    | runner => rfl
    | features hpurpose hnames =>
        cases hpurpose
        rw [hnames.unique (Offload.spoilers_enabled _)]
        rfl
    | command hpurpose =>
        cases purpose with
        | inquiry interface => exact absurd rfl (hpurpose interface)
        | deletion | creation | change => rfl
  · intro h
    subst h
    cases result with
    | error fault => exact .runner
    | ok output =>
        cases purpose with
        | inquiry interface => exact .features rfl (Offload.spoilers_enabled _)
        | deletion | creation | change => exact .command fun _ h => nomatch h

end Task

-- ====================================================== the tolerances

namespace Tolerance

/-- What the steps of a tolerance are run for. -/
def purpose : Tolerance → Purpose
  | none => .change
  | nothingToDelete => .deletion
  | alreadyThere => .creation

/-- A tolerance covers exactly the complaints that mention one of its
phrases. -/
theorem covers_iff {t : Tolerance} {complaint : String} :
    t.covers complaint = true
      ↔ ∃ phrase ∈ t.purpose.harmless, Text.Mentions phrase.toList complaint.toList := by
  have hphrases : t.phrases = t.purpose.harmless := by cases t <;> rfl
  have hplain : ∀ phrase ∈ t.purpose.harmless, Text.IsPhrase phrase.toList := by
    cases t <;> decide
  unfold covers
  rw [hphrases, List.any_eq_true]
  refine exists_congr fun phrase => and_congr_right fun hphrase => ?_
  exact Text.occursFolded_iff_mentions (hplain phrase hphrase)

/-- Outside inquiries, a command that ran is tolerated when it succeeded or
failed harmlessly. -/
theorem purpose_tolerates_ok {t : Tolerance} {output : CommandOutput} :
    t.purpose.Tolerates (.ok output)
      ↔ (output.success || t.covers output.stderr) = true := by
  rw [Bool.or_eq_true, covers_iff]
  cases t <;> exact Iff.rfl

/-- No tolerance covers a command that could not be run. -/
theorem not_purpose_tolerates_error {t : Tolerance} {fault : Fault} :
    ¬ t.purpose.Tolerates (.error fault) := by
  cases t <;> exact id

end Tolerance

instance (p : Purpose) (result : Except Fault CommandOutput) : Decidable (p.Tolerates result) :=
  match p, result with
  | .inquiry _, .error _ => .isTrue trivial
  | .inquiry _, .ok output =>
    decidable_of_iff (output.success = true → Offload.enabled output.stdout = [])
      (imp_congr_right fun _ => Offload.enabled_eq_nil_iff)
  | .deletion, .ok _ =>
    decidable_of_iff _ (Tolerance.purpose_tolerates_ok (t := .nothingToDelete)).symm
  | .creation, .ok _ =>
    decidable_of_iff _ (Tolerance.purpose_tolerates_ok (t := .alreadyThere)).symm
  | .change, .ok _ => decidable_of_iff _ (Tolerance.purpose_tolerates_ok (t := .none)).symm
  | .deletion, .error _ => .isFalse id
  | .creation, .error _ => .isFalse id
  | .change, .error _ => .isFalse id

/-- A command that succeeds in silence is tolerated whatever it is for. -/
theorem Purpose.tolerates_silence (p : Purpose) : p.Tolerates (.ok (CommandOutput.ok "")) := by
  cases p with
  | inquiry interface => exact fun _ => Offload.enabled_eq_nil_iff.1 rfl
  | deletion => exact Or.inl rfl
  | creation => exact Or.inl rfl
  | change => exact Or.inl rfl

-- ============================================================ the run

/-- Runs tasks in order, up to the first result that is not tolerated. -/
def march (runner : Runner) (t : Transcript) : List Task → Except Fault Unit × Transcript
  | [] => (.ok (), t)
  | k :: ks =>
    let result := runner t.commands k.command
    let t' := (t.issue k.command).warn (k.purpose.warnings result)
    if k.purpose.Tolerates result then march runner t' ks else (.error (k.fault result), t')

variable {runner : Runner} {t : Transcript}

@[simp] theorem march_nil : march runner t [] = (.ok (), t) := rfl

/-- A run of two lists goes on with the second where the first came to its
end. -/
theorem march_append (ks ls : List Task) :
    march runner t (ks ++ ls) = match march runner t ks with
      | (.ok (), t') => march runner t' ls
      | (.error f, t') => (.error f, t') := by
  induction ks generalizing t with
  | nil => rfl
  | cons k ks ih =>
      simp only [List.cons_append, march]
      split
      · exact ih
      · rfl

/-- However a run ends, it has handed over the first so many commands in
order. -/
theorem march_commands (runner : Runner) (t : Transcript) (ks : List Task) :
    ∃ n, (march runner t ks).2.commands = t.commands ++ (ks.take n).map Task.command := by
  induction ks generalizing t with
  | nil => exact ⟨0, by simp⟩
  | cons k ks ih =>
      simp only [march]
      split
      · obtain ⟨n, hrest⟩ := ih ((t.issue k.command).warn
          (k.purpose.warnings (runner t.commands k.command)))
        exact ⟨n + 1, by simp [hrest]⟩
      · exact ⟨1, by simp⟩

/-- A run that comes to its end has handed over every command. -/
theorem march_commands_of_ok {t' : Transcript} {ks : List Task}
    (h : march runner t ks = (.ok (), t')) : t'.commands = t.commands ++ ks.map Task.command := by
  induction ks generalizing t with
  | nil =>
      obtain rfl := congrArg Prod.snd h
      simp
  | cons k ks ih =>
      simp only [march] at h
      split at h
      · rw [ih h]
        simp
      · cases h

-- ======================================================== by position

/-- The result of the task at a position, the tasks before it having run. -/
def reply (runner : Runner) (seen : List Command) (ks : List Task) (i : Nat)
    (h : i < ks.length) : Except Fault CommandOutput :=
  runner (seen ++ (ks.take i).map Task.command) ks[i].command

/-- The first `n` tasks all have results that are tolerated. -/
def AllTolerated (runner : Runner) (seen : List Command) (ks : List Task) (n : Nat) : Prop :=
  ∀ i (h : i < ks.length), i < n → ks[i].purpose.Tolerates (reply runner seen ks i h)

/-- The result of a later task, seen from after the first one. -/
theorem reply_cons_succ {seen : List Command} {k : Task} {ks : List Task} {i : Nat}
    (h : i + 1 < (k :: ks).length) :
    reply runner seen (k :: ks) (i + 1) h
      = reply runner (seen ++ [k.command]) ks i (Nat.lt_of_succ_lt_succ h) := by
  simp [reply]

/-- That the first tasks are tolerated splits into the first one and those
after it. -/
theorem allTolerated_cons_succ {seen : List Command} {k : Task} {ks : List Task} {n : Nat} :
    AllTolerated runner seen (k :: ks) (n + 1)
      ↔ k.purpose.Tolerates (runner seen k.command)
        ∧ AllTolerated runner (seen ++ [k.command]) ks n := by
  constructor
  · intro h
    refine ⟨?_, fun i hi hn => ?_⟩
    · have hzero := h 0 (Nat.zero_lt_succ _) (Nat.zero_lt_succ _)
      simpa [reply] using hzero
    · have hsucc := h (i + 1) (Nat.succ_lt_succ hi) (Nat.succ_lt_succ hn)
      rwa [reply_cons_succ] at hsucc
  · rintro ⟨hhead, htail⟩ i hi hn
    cases i with
    | zero => simpa [reply] using hhead
    | succ i =>
        rw [reply_cons_succ]
        exact htail i (Nat.lt_of_succ_lt_succ hi) (Nat.lt_of_succ_lt_succ hn)

/-- Where every result is tolerated, all commands are handed over and the run
comes to its end. -/
theorem march_of_all_tolerated {ks : List Task}
    (h : AllTolerated runner t.commands ks ks.length) :
    ∃ ws, march runner t ks
      = (.ok (), ⟨t.commands ++ ks.map Task.command, t.warnings ++ ws⟩) := by
  induction ks generalizing t with
  | nil => exact ⟨[], by simp⟩
  | cons k ks ih =>
      obtain ⟨hhead, htail⟩ := allTolerated_cons_succ.1 h
      obtain ⟨ws, hrest⟩ := ih (t := (t.issue k.command).warn
        (k.purpose.warnings (runner t.commands k.command))) htail
      refine ⟨k.purpose.warnings (runner t.commands k.command) ++ ws, ?_⟩
      simp only [march]
      rw [if_pos hhead, hrest]
      simp

/-- The first result that is not tolerated is the last one: the command is
handed over, nothing after it is, and the run ends in that result's fault. -/
theorem march_of_first_refused {ks : List Task} {i : Nat} (hi : i < ks.length)
    (hbefore : AllTolerated runner t.commands ks i)
    (hrefused : ¬ ks[i].purpose.Tolerates (reply runner t.commands ks i hi)) :
    ∃ ws, march runner t ks
      = (.error (ks[i].fault (reply runner t.commands ks i hi)),
          ⟨t.commands ++ (ks.take (i + 1)).map Task.command, t.warnings ++ ws⟩) := by
  induction ks generalizing t i with
  | nil => exact absurd hi (Nat.not_lt_zero i)
  | cons k ks ih =>
      cases i with
      | zero =>
          have hhead : ¬ k.purpose.Tolerates (runner t.commands k.command) := by
            simpa [reply] using hrefused
          refine ⟨k.purpose.warnings (runner t.commands k.command), ?_⟩
          simp only [march]
          rw [if_neg hhead]
          simp [reply, Transcript.issue, Transcript.warn]
      | succ i =>
          obtain ⟨hhead, htail⟩ := allTolerated_cons_succ.1 hbefore
          have hi' : i < ks.length := Nat.lt_of_succ_lt_succ hi
          rw [reply_cons_succ] at hrefused
          obtain ⟨ws, hrest⟩ := ih (t := (t.issue k.command).warn
            (k.purpose.warnings (runner t.commands k.command))) hi' htail hrefused
          refine ⟨k.purpose.warnings (runner t.commands k.command) ++ ws, ?_⟩
          simp only [march]
          rw [if_pos hhead, hrest, reply_cons_succ]
          simp

-- ======================================= sessions that perform tasks

namespace Session

/-- A session performs tasks when it comes to the same as running them, under
every runner and from every transcript. -/
def Performs (s : Session Unit) (ks : List Task) : Prop :=
  ∀ runner t, s.resume runner t = march runner t ks

theorem performs_pure : (pure () : Session Unit).Performs [] := fun _ _ => rfl

/-- Sessions one after the other perform their tasks one after the other. -/
theorem Performs.seq {s s' : Session Unit} {ks ls : List Task} (h : s.Performs ks)
    (h' : s'.Performs ls) : (s >>= fun _ => s').Performs (ks ++ ls) := by
  intro runner t
  rw [resume_bind, h, march_append]
  cases march runner t ks with
  | mk result t' =>
      cases result with
      | ok u => exact h' runner t'
      | error f => rfl

end Session

namespace Step

/-- The task that a step is. -/
def task (s : Step) : Task := ⟨s.command, s.tolerance.purpose⟩

/-- A step performs its task. -/
theorem performs_run (s : Step) : s.run.Performs [s.task] := by
  intro runner t
  unfold run
  rw [Session.resume_bind, Session.resume_issue]
  have hwarnings : s.tolerance.purpose.warnings (runner t.commands s.command) = [] := by
    cases s.tolerance <;> rfl
  simp only [march, task, hwarnings, Transcript.warn_nil]
  cases runner t.commands s.command with
  | error fault => rw [if_neg Tolerance.not_purpose_tolerates_error]; rfl
  | ok output =>
      simp only [Tolerance.purpose_tolerates_ok]
      split
      · rfl
      · cases htol : s.tolerance <;> simp [Task.fault, Tolerance.purpose, Command.render_eq_line]

/-- Steps that could all be built perform their tasks in order. -/
theorem performs_runAll (steps : List Step) :
    (runAll (steps.map .ok)).Performs (steps.map task) := by
  induction steps with
  | nil => exact Session.performs_pure
  | cons s steps ih => exact (performs_run s).seq ih

end Step

end TrafficShaping
