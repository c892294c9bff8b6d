/-
Faults: what can go wrong while traffic shaping is set up, and how each is
worded.
-/

namespace TrafficShaping

/-- A fault, with what its wording needs. -/
inductive Fault where
  /-- A command ran and failed. -/
  | commandFailed (command message : String)
  | interfaceNotFound (interface : String)
  /-- Offload features are on that would spoil a bandwidth limit. -/
  | offloadEnabled (interface features : String)
  | notPrivileged (action : String)
  | invalidConfig (message : String)
  | badProfile (origin message : String)
  /-- The system refused: a program could not be run or a file not read. -/
  | io (cause : String)
  /-- The program cannot go on and ends at once. -/
  | brokenOff
  deriving DecidableEq, Repr

/-- The wording of a fault. -/
def Fault.message : Fault → String
  | commandFailed command message =>
    "Traffic control command failed: `" ++ command ++ "`: " ++ message
  | interfaceNotFound interface => "Interface not found: " ++ interface
  | offloadEnabled interface features =>
    "Offload features enabled on " ++ interface ++ " (" ++ features
      ++ "); bandwidth limiting would under-perform. Disable them with `ethtool -K "
      ++ interface ++ " tso off gso off gro off`"
  | notPrivileged action => "Root privileges are required to " ++ action
  | invalidConfig message => "Invalid configuration: " ++ message
  | badProfile origin message => "Profile error in " ++ origin ++ ": " ++ message
  | io cause => "I/O error: " ++ cause
  | brokenOff => "The program broke off"

end TrafficShaping
