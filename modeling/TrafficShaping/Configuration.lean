/-
Configurations: everything an invocation is carried out with.

Each field of the policy comes from the command line if it is given there,
else from the profile if the profile has it, else it is the default. The
reordering switch can only be turned on. A configuration may still make no
sense; validating it says so, with the first thing that is wrong.
-/
import TrafficShaping.Shaper.Install
import TrafficShaping.Invocation
import TrafficShaping.PortList
import TrafficShaping.Profile.Lookup

namespace TrafficShaping

-- ========================================================== log levels

/-- How much is said about what is done. -/
inductive LogLevel where
  | error
  | warn
  | info
  | debug
  | trace
  deriving DecidableEq, Repr

namespace LogLevel

/-- The name of a level. -/
def name : LogLevel → String
  | error => "Error"
  | warn => "Warn"
  | info => "Info"
  | debug => "Debug"
  | trace => "Trace"

/-- The name of a level in log lines. -/
def label : LogLevel → String
  | error => "ERROR"
  | warn => "WARN"
  | info => "INFO"
  | debug => "DEBUG"
  | trace => "TRACE"

/-- The level that a list of log directives begins with: what stands before
the first comma, and in that before the first equals sign, in whatever
case. -/
def ofDirectives (directives : String) : LogLevel :=
  let first := directives.toList.takeWhile (· != ',')
  let word := Text.lowercase (first.takeWhile (· != '='))
  match String.ofList word with
  | "error" => error
  | "warn" => warn
  | "debug" => debug
  | "trace" => trace
  | _ => info

end LogLevel

-- ====================================================== configurations

/-- Everything an invocation is carried out with. -/
structure Configuration where
  action : Action
  policy : ShapingPolicy
  compiler : CompilerConfig
  logLevel : LogLevel
  dryRun : Bool
  json : Bool
  checksOffload : Bool
  deriving DecidableEq, Repr

/-- What a configuration is made from, besides the command line. -/
structure Surroundings where
  files : Files
  /-- The directories in which profiles are looked up. -/
  profileDirs : List String
  /-- The log directives of the environment. -/
  logDirectives : Option String

namespace Configuration

/-- Reads a selector that is given on the command line, together with the
warnings it gives. -/
def selector (given : Option String) (otherwise : Selector) : Selector × List UnreadablePort :=
  match given with
  | none => (otherwise, [])
  | some raw => ((Selector.read raw).1, (Selector.read raw).2.toList)

/-- The profile that is referred to, or the one that says nothing. -/
def profile (around : Surroundings) (reference : Option String) :
    Except Failure Profile.Reading :=
  match reference with
  | none => .ok Profile.Reading.empty
  | some r => Profile.load around.files around.profileDirs r

/-- The policy of a command line over a base, with the warnings it gives. -/
def overlay (i : Invocation) (base : ShapingPolicy) :
    Except Failure (ShapingPolicy × List UnreadablePort) := do
  let (source, sourceWarnings) := selector i.source base.source
  let (destination, destinationWarnings) := selector i.destination base.destination
  let excludedPorts ←
    match i.exclude with
    | some raw => PortList.parse raw
    | none => pure base.excludedPorts
  return (
    { interface := i.interface.getD base.interface
      mirrorDevice := i.mirrorDevice.getD base.mirrorDevice
      shaping :=
        { bandwidth := (i.bandwidth.map RawParams.ofText?).getD base.shaping.bandwidth
          impairment := (i.impairment.map RawParams.ofText?).getD base.shaping.impairment
          reorder := i.reorder || base.shaping.reorder }
      source := source
      destination := destination
      excludedPorts := excludedPorts },
    sourceWarnings ++ destinationWarnings)

/-- The level at which is logged. -/
def logLevelOf (around : Surroundings) (i : Invocation) : LogLevel :=
  if i.verbose then .debug
  else (around.logDirectives.map LogLevel.ofDirectives).getD .info

/-- The configuration of an invocation, with the warnings that reading it
gives. -/
def of (around : Surroundings) (i : Invocation) :
    Except Failure (Configuration × List UnreadablePort) := do
  let profile ← profile around i.profile
  let (policy, warnings) ← overlay i (profile.profile.applyTo ShapingPolicy.default)
  return (
    { action := i.action
      policy := policy
      compiler :=
        { CompilerConfig.default with
          bufferSize := i.bufferSize.getD CompilerConfig.default.bufferSize }
      logLevel := logLevelOf around i
      dryRun := i.dryRun
      json := i.json
      checksOffload := !i.skipOffloadCheck },
    profile.warnings ++ warnings)

/-- Finds the first thing that is wrong with a configuration. -/
def validate (c : Configuration) : Except Failure Unit :=
  if c.policy.interface.isEmpty then .error .emptyInterface
  else if c.policy.mirrorDevice.isEmpty then .error .emptyMirrorDevice
  else if c.policy.mirrorDevice == c.policy.interface then
    .error (.mirrorIsInterface c.policy.interface)
  else if c.compiler.bufferSize == 0 then .error .zeroBuffer
  else if c.action = .apply && c.policy.shaping.isEmpty then .error .nothingToApply
  else .ok ()

/-- What installs, shows and clears the policy. -/
def shaper (c : Configuration) : Shaper := ⟨c.policy, c.compiler, c.checksOffload⟩

end Configuration

end TrafficShaping
