/-
What stands between a command line and a change of the platform
(`guarded_run`).

A run has five gates to get through, in this order: there has to be a
configuration, it has to be valid, the user has to be privileged, the interface
has to exist, and where a bandwidth limit is installed no offload feature may
spoil it. The first four are checked before any program is run. The last one is
what the first program run is for, and it changes nothing itself.

Whether a gate refuses is said here of each gate taken by itself, with no
regard to the others: so that several may refuse at once, and the order in
which they are asked is something to be proved.
-/
import TrafficShaping.Proofs.Offload.Refusal

namespace TrafficShaping

-- ==================================================== statement vocabulary

/-- What a run has to get through before it changes anything. -/
inductive Gate where
  | configuration
  | validation
  | privilege
  | interface
  | offload
  deriving DecidableEq, Repr

/-- The gates that are asked before a gate. -/
def Gate.before : Gate → List Gate
  | configuration => []
  | validation => [configuration]
  | privilege => [configuration, validation]
  | interface => [configuration, validation, privilege]
  | offload => [configuration, validation, privilege, interface]

/-- The path under which the system keeps an interface. A name that begins with a
slash is a path itself. -/
def World.pathOf (interface : String) : String :=
  if interface.toList.head? = some '/' then interface else "/sys/class/net/" ++ interface

/-- A configuration installs a bandwidth limit that offload features are not to
spoil. -/
structure Configuration.LooksAtFeatures (c : Configuration) : Prop where
  applies : c.action = .apply
  checks : c.checksOffload = true
  limits : c.policy.shaping.bandwidth.isSome = true

/-- A gate holds up a configuration with a failure. -/
inductive Configuration.Refuses (w : World) (c : Configuration) : Gate → Failure → Prop
  | validation {f : Failure} (h : c.validate = .error f) : Refuses w c .validation f
  | privilege (h : w.user ≠ 0) :
    Refuses w c .privilege (.fault (.notPrivileged c.action.render))
  | interface (h : w.holds (World.pathOf c.policy.interface) = false) :
    Refuses w c .interface (.fault (.interfaceNotFound c.policy.interface))
  | offload {names : List String} (hlooks : c.LooksAtFeatures)
    (hspoils : Offload.Spoils (w.runner [] (Command.askFeatures c.policy.interface)) names) :
    Refuses w c .offload
      (.fault (.offloadEnabled c.policy.interface (", ".intercalate names)))

/-- A gate holds up an invocation with a failure. Where there is no
configuration, there is nothing for the other gates to look at. -/
inductive Gate.Refuses (w : World) (i : Invocation) : Gate → Failure → Prop
  | configuration {f : Failure} (h : Configuration.of w.surroundings i = .error f) :
    Refuses w i .configuration f
  | configured {c : Configuration} {ws : List UnreadablePort} {g : Gate} {f : Failure}
    (hof : Configuration.of w.surroundings i = .ok (c, ws)) (h : c.Refuses w g f) :
    Refuses w i g f

namespace Program

end Program

-- ================================================ what the gates ask for

namespace Program

variable {w : World} {c : Configuration} {i : Invocation} {ws : List UnreadablePort} {f : Failure}

end Program

end TrafficShaping
