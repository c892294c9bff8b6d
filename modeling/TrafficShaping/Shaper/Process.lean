/-
Commands run as processes. A process ends with an exit code, or without one
when it is killed, and leaves bytes on its two outputs. The bytes are read as
text with ill-formed pieces replaced, and the blanks around a complaint are
cut off; what a process prints is otherwise kept as it is.
-/
import TrafficShaping.Shaper.Session
import TrafficShaping.Text.Blank
import TrafficShaping.Text.Utf8

namespace TrafficShaping

/-- What a process leaves behind. -/
structure ProcessResult where
  /-- The exit code, unless the process was killed. -/
  exit : Option Nat
  stdout : List UInt8
  stderr : List UInt8
  deriving DecidableEq, Repr

/-- The outcome of a command that ran as a process. -/
def CommandOutput.ofProcess (p : ProcessResult) : CommandOutput where
  success := p.exit == some 0
  stdout := String.ofList (Text.Utf8.decodeLossy p.stdout)
  stderr := String.ofList (Text.trim (Text.Utf8.decodeLossy p.stderr))

/-- Whether a command can be handed over at all: no word of it may hold a null
character, which would end the word. -/
def Command.canBeHandedOver (c : Command) : Bool :=
  c.argv.all fun word => !word.toList.contains '\x00'

/-- The runner that launches processes. Launching one may fail for a reason
of the system's. -/
def Runner.ofProcesses (launch : Command → Except String ProcessResult) : Runner :=
  fun _ c =>
    if c.canBeHandedOver then
      match launch c with
      | .ok p => .ok (CommandOutput.ofProcess p)
      | .error cause => .error (.io cause)
    else .error (.io "nul byte found in provided data")

end TrafficShaping
