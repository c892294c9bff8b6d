/-
Actions: what an invocation is to do.
-/
import TrafficShaping.Failure
import TrafficShaping.Text.Lowercase

namespace TrafficShaping

/-- What an invocation is to do. -/
inductive Action where
  /-- Install the policy. -/
  | apply
  /-- Show what is installed. -/
  | status
  /-- Remove what is installed. -/
  | clear
  deriving DecidableEq, Repr

namespace Action

/-- All actions. -/
def all : List Action := [apply, status, clear]

/-- The word for an action. -/
def render : Action → String
  | apply => "apply"
  | status => "status"
  | clear => "clear"

/-- The action of a word, exactly as it is written. -/
def ofWord? (word : String) : Option Action := all.find? (·.render == word)

/-- The action of a word in whatever case. -/
def parse (word : String) : Except Failure Action :=
  let lowered := String.ofList (Text.lowercase word.toList)
  match ofWord? lowered with
  | some action => .ok action
  | none => .error (.badAction lowered)

end Action

end TrafficShaping
