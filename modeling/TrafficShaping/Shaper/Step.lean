/-
Steps: commands together with the failures they may have. Much of setting up
and clearing is a list of such steps, run in order until one fails in a way
that is not allowed for.
-/
import TrafficShaping.Shaper.Session
import TrafficShaping.Command.Draft
import TrafficShaping.Text.Search

namespace TrafficShaping

/-- The failures of a command that do no harm. -/
inductive Tolerance where
  /-- None. -/
  | none
  /-- There was nothing to delete. -/
  | nothingToDelete
  /-- What should be created is there already. -/
  | alreadyThere
  deriving DecidableEq, Repr

namespace Tolerance

/-- The phrases by which a harmless failure is known. -/
def phrases : Tolerance → List String
  | none => []
  | nothingToDelete =>
    ["cannot find", "no such", "handle of zero", "invalid handle", "does not exist"]
  | alreadyThere => ["file exists"]

/-- Whether a complaint is that of a harmless failure: one of the phrases
occurs in it, in whatever case. -/
def covers (t : Tolerance) (complaint : String) : Bool :=
  t.phrases.any fun phrase => Text.occursFolded phrase.toList complaint.toList

end Tolerance

/-- A command and the failures it may have. -/
structure Step where
  command : Command
  tolerance : Tolerance
  deriving DecidableEq, Repr

namespace Step

/-- Runs a step. -/
def run (s : Step) : Session Unit := do
  let output ← Session.issue s.command
  if output.success || s.tolerance.covers output.stderr then pure ()
  else throw (.commandFailed s.command.render output.stderr)

/-- Steps of one tolerance, for commands that may fail to be built. -/
def each (tolerance : Tolerance) (commands : Except DraftError (List Command)) :
    List (Except DraftError Step) :=
  match commands with
  | .ok cs => cs.map fun c => .ok ⟨c, tolerance⟩
  | .error e => [.error e]

/-- Runs steps in order, as far as their commands can be built and their
failures are allowed for. -/
def runAll : List (Except DraftError Step) → Session Unit
  | [] => pure ()
  | .error e :: _ => throw (.invalidConfig e.message)
  | .ok s :: rest => do
    s.run
    runAll rest

end Step

/-- A command that has to be built before a session can go on. -/
def Session.built {α : Type} (result : Except DraftError α) : Session α :=
  match result with
  | .ok a => return a
  | .error e => throw (.invalidConfig e.message)

end TrafficShaping
