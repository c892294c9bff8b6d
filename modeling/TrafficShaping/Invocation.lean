/-
Invocations: what a command line asks for. What can come from a profile too
stays absent until it is given, so that leaving it out overrides nothing; a
text that is given and empty is given all the same.
-/
import TrafficShaping.Action

namespace TrafficShaping

/-- What a command line asks for. -/
structure Invocation where
  action : Action
  /-- Say more about what is done. -/
  verbose : Bool
  interface : Option String
  mirrorDevice : Option String
  bandwidth : Option String
  impairment : Option String
  source : Option String
  destination : Option String
  exclude : Option String
  reorder : Bool
  bufferSize : Option UInt32
  profile : Option String
  /-- Show the commands instead of running them. -/
  dryRun : Bool
  /-- Give results as JSON. -/
  json : Bool
  skipOffloadCheck : Bool
  deriving DecidableEq, Repr

/-- What the empty command line asks for: the status, and nothing besides. -/
def Invocation.default : Invocation where
  action := .status
  verbose := false
  interface := none
  mirrorDevice := none
  bandwidth := none
  impairment := none
  source := none
  destination := none
  exclude := none
  reorder := false
  bufferSize := none
  profile := none
  dryRun := false
  json := false
  skipOffloadCheck := false

end TrafficShaping
