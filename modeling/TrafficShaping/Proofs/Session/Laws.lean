/-
Laws of sessions: what running one comes to, primitive by primitive.

A session threads a runner and a transcript through a computation that may
end in a fault, and the transcript survives the fault. The laws below take
that apart once, so that no later proof opens the monad: each says what a
session taken up at some transcript returns and what it leaves behind.
-/
import TrafficShaping.Shaper.Session

namespace TrafficShaping

-- ======================================================== transcripts

namespace Transcript

/-- The transcript after one more command. -/
def issue (t : Transcript) (c : Command) : Transcript :=
  { t with commands := t.commands ++ [c] }

/-- The transcript after more warnings. -/
def warn (t : Transcript) (ws : List Warning) : Transcript :=
  { t with warnings := t.warnings ++ ws }

@[simp] theorem empty_commands : Transcript.empty.commands = [] := rfl

@[simp] theorem issue_commands (t : Transcript) (c : Command) :
    (t.issue c).commands = t.commands ++ [c] := rfl

@[simp] theorem issue_warnings (t : Transcript) (c : Command) :
    (t.issue c).warnings = t.warnings := rfl

@[simp] theorem warn_commands (t : Transcript) (ws : List Warning) :
    (t.warn ws).commands = t.commands := rfl

@[simp] theorem warn_warnings (t : Transcript) (ws : List Warning) :
    (t.warn ws).warnings = t.warnings ++ ws := rfl

@[simp] theorem warn_nil (t : Transcript) : t.warn [] = t := by
  unfold warn
  rw [List.append_nil]

end Transcript

-- =========================================================== sessions

namespace Session

variable {α β : Type}

/-- The result and transcript of a session that is taken up at a
transcript. -/
def resume (s : Session α) (runner : Runner) (t : Transcript) : Except Fault α × Transcript :=
  (s.run runner).run.run t

theorem under_eq_resume (s : Session α) (runner : Runner) :
    s.under runner = s.resume runner Transcript.empty := rfl

@[simp] theorem resume_pure (a : α) (runner : Runner) (t : Transcript) :
    (pure a : Session α).resume runner t = (.ok a, t) := rfl

@[simp] theorem resume_throw (f : Fault) (runner : Runner) (t : Transcript) :
    (throw f : Session α).resume runner t = (.error f, t) := rfl

/-- A fault ends a session; otherwise the rest goes on from the transcript
that the first part left. -/
theorem resume_bind (s : Session α) (k : α → Session β) (runner : Runner) (t : Transcript) :
    (s >>= k).resume runner t = match s.resume runner t with
      | (.ok a, t') => (k a).resume runner t'
      | (.error f, t') => (.error f, t') := by
  show ((s.run runner >>= fun a => (k a).run runner).run).run t = _
  unfold resume
  simp only [ExceptT.run_bind, StateT.run_bind]
  cases (s.run runner).run.run t with
  | mk result t' => cases result <;> rfl

/-- Working on the result leaves the transcript alone. -/
theorem resume_map (g : α → β) (s : Session α) (runner : Runner) (t : Transcript) :
    (g <$> s).resume runner t = ((s.resume runner t).1.map g, (s.resume runner t).2) := by
  rw [map_eq_pure_bind, resume_bind]
  cases s.resume runner t with
  | mk result t' => cases result <;> rfl

theorem under_map (g : α → β) (s : Session α) (runner : Runner) :
    (g <$> s).under runner = ((s.under runner).1.map g, (s.under runner).2) :=
  resume_map g s runner Transcript.empty

/-- The case of a first part that returns. -/
theorem resume_bind_ok {s : Session α} {k : α → Session β} {runner : Runner}
    {t t' : Transcript} {a : α} (h : s.resume runner t = (.ok a, t')) :
    (s >>= k).resume runner t = (k a).resume runner t' := by
  rw [resume_bind, h]

/-- The runner answers to the commands before, and the new one is recorded
whatever the answer. -/
@[simp] theorem resume_attempt (c : Command) (runner : Runner) (t : Transcript) :
    (attempt c).resume runner t = (.ok (runner t.commands c), t.issue c) := rfl

@[simp] theorem resume_warn (w : Warning) (runner : Runner) (t : Transcript) :
    (warn w).resume runner t = (.ok (), t.warn [w]) := rfl

/-- Issuing a command passes the runner's answer on as the session's own. -/
@[simp] theorem resume_issue (c : Command) (runner : Runner) (t : Transcript) :
    (issue c).resume runner t = (runner t.commands c, t.issue c) := by
  unfold issue
  rw [resume_bind_ok (resume_attempt c runner t)]
  cases runner t.commands c <;> rfl

end Session

end TrafficShaping
