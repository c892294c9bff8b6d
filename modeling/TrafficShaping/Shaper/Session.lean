/-
Sessions: computations that run commands one after the other.

What a command does is the business of a runner, and a runner may be
anything: it sees the commands run so far and the next one, and answers with
the command's outcome or with a fault of its own. A session keeps the
commands it handed to the runner and the warnings it gave, also when it ends
in a fault.
-/
import TrafficShaping.Command
import TrafficShaping.Fault
import TrafficShaping.Selector
import TrafficShaping.Shaper.Advisory

namespace TrafficShaping

-- ============================================================ runners

/-- What came of a command that could be run. -/
structure CommandOutput where
  success : Bool
  stdout : String
  stderr : String
  deriving DecidableEq, Repr

/-- A command that succeeded and said this. -/
def CommandOutput.ok (stdout : String) : CommandOutput := ⟨true, stdout, ""⟩

/-- A command that failed and complained like this. -/
def CommandOutput.failed (stderr : String) : CommandOutput := ⟨false, "", stderr⟩

/-- The outcome of a command, given the commands that ran before it. -/
abbrev Runner := List Command → Command → Except Fault CommandOutput

/-- The runner that runs nothing: every command succeeds in silence. -/
def Runner.dry : Runner := fun _ _ => .ok (CommandOutput.ok "")

-- =========================================================== warnings

/-- What is worth saying without being a fault. -/
inductive Warning where
  | unreadablePort (w : UnreadablePort)
  /-- The feature tool failed and complained like this. -/
  | featuresUnknown (interface complaint : String)
  /-- The feature tool could not be run. -/
  | featuresNotQueried (interface : String) (cause : Fault)
  | advisory (a : Advisory)
  | interfaceMissing (interface : String)
  deriving DecidableEq, Repr

/-- The wording of a warning. -/
def Warning.message : Warning → String
  | unreadablePort w => w.message
  | featuresUnknown interface complaint =>
    "Could not query offload features of " ++ interface ++ ": " ++ complaint
  | featuresNotQueried interface cause =>
    "Could not run ethtool for " ++ interface ++ ": " ++ cause.message
  | advisory a => a.message
  | interfaceMissing interface => "Interface " ++ interface ++ " does not exist"

-- =========================================================== sessions

/-- What a session has done so far. -/
structure Transcript where
  /-- The commands handed to the runner, in order. -/
  commands : List Command
  /-- The warnings given, in order. -/
  warnings : List Warning
  deriving DecidableEq, Repr

/-- The transcript of a session that has done nothing. -/
def Transcript.empty : Transcript := ⟨[], []⟩

/-- A computation that runs commands and may end in a fault. -/
abbrev Session := ReaderT Runner (ExceptT Fault (StateM Transcript))

namespace Session

/-- Hands a command to the runner and takes what comes of it. -/
def attempt (c : Command) : Session (Except Fault CommandOutput) := do
  let runner ← read
  let seen ← get
  set { seen with commands := seen.commands ++ [c] }
  return runner seen.commands c

/-- Runs a command; a fault of the runner is a fault of the session. -/
def issue (c : Command) : Session CommandOutput := do
  match ← attempt c with
  | .ok output => return output
  | .error fault => throw fault

/-- Gives a warning. -/
def warn (w : Warning) : Session Unit :=
  modify fun seen => { seen with warnings := seen.warnings ++ [w] }

/-- The result and transcript of a session under a runner. -/
def under {α : Type} (s : Session α) (runner : Runner) : Except Fault α × Transcript :=
  (s.run runner).run.run Transcript.empty

end Session

end TrafficShaping
