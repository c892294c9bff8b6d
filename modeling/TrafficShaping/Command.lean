/-
Commands: a program and the words it is given. A command is data here; what
running one does is the business of a runner.
-/

namespace TrafficShaping

/-- The programs that are used. -/
inductive Program where
  | tc
  | ip
  | ethtool
  deriving DecidableEq, Repr

/-- The name of a program. -/
def Program.render : Program → String
  | .tc => "tc"
  | .ip => "ip"
  | .ethtool => "ethtool"

/-- A program with its arguments. -/
structure Command where
  program : Program
  args : List String
  deriving DecidableEq, Repr

namespace Command

/-- A command of the link tool. -/
def ip (args : List String) : Command := ⟨.ip, args⟩

/-- A command of the device feature tool. -/
def ethtool (args : List String) : Command := ⟨.ethtool, args⟩

/-- The program and its arguments, as one list of words. -/
def argv (c : Command) : List String := c.program.render :: c.args

/-- The command as one line, its words a space apart. -/
def render (c : Command) : String := " ".intercalate c.argv

end Command

end TrafficShaping
