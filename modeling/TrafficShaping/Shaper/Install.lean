/-
Installing and clearing a policy.

Installing replaces whatever is there: the offload features are looked at
where a bandwidth limit depends on them, the rules are compiled and laid out
as commands, both devices are cleared, incoming traffic is redirected, and
the rules go in, outbound before inbound. Nothing is tried twice and nothing
is undone: a failure leaves the tree as far as it was built. Once the rules
are in, what remains is to look whether the impairment keeps the order of
packets, and that cannot fail.
-/
import TrafficShaping.Compile
import TrafficShaping.Shaper.Offload
import TrafficShaping.Shaper.Status

namespace TrafficShaping

/-- A policy ready to be installed. -/
structure Shaper where
  policy : ShapingPolicy
  config : CompilerConfig
  /-- Whether offload features that spoil a bandwidth limit are refused. -/
  checksOffload : Bool

/-- What came of installing a policy. -/
structure ApplyReport where
  /-- What was installed. -/
  compiled : CompiledPolicy
  /-- How many disciplines and filters that took. -/
  rulesInstalled : Nat
  warnings : List Advisory
  deriving DecidableEq, Repr

/-- The report as a JSON value. -/
def ApplyReport.toJson (r : ApplyReport) : Json :=
  .obj [("compiled", JsonForm.toJson r.compiled), ("rules_installed", .int r.rulesInstalled),
    ("warnings", .arr (r.warnings.map fun a => .str a.message))]

namespace Shaper

-- =========================================================== offload

/-- Refuses an interface whose enabled features spoil a bandwidth limit. Where
they cannot be learned, that is only worth a warning. -/
def checkOffload (interface : String) : Session Unit := do
  match ← Session.attempt (Command.showFeatures interface) with
  | .error fault => Session.warn (.featuresNotQueried interface fault)
  | .ok output =>
    if output.success then
      let enabled := Offload.enabled output.stdout
      if !enabled.isEmpty then
        throw (.offloadEnabled interface (", ".intercalate enabled))
    else Session.warn (.featuresUnknown interface output.stderr)

-- ========================================================== clearing

/-- The steps that remove everything from both devices, and the mirror device
itself. Finding nothing to remove is fine. -/
def clearSteps (policy : ShapingPolicy) : List (Except DraftError Step) :=
  [policy.interface, policy.mirrorDevice].map
      (fun device => (Command.removeRoot device).map fun c => ⟨c, .nothingToDelete⟩)
    ++ Step.each .nothingToDelete (Command.removeRedirect policy.interface policy.mirrorDevice)

/-- Removes everything that installing a policy puts in place. -/
def clear (s : Shaper) : Session Unit := Step.runAll (clearSteps s.policy)

-- ======================================================== installing

/-- The steps that redirect incoming traffic. The mirror device may be there
already. -/
def redirectSteps (policy : ShapingPolicy) : List (Except DraftError Step) :=
  .ok ⟨Command.createMirror policy.mirrorDevice, .alreadyThere⟩
    :: Step.each .none (Command.redirect policy.interface policy.mirrorDevice)

/-- The steps that install rules. -/
def ruleSteps (commands : List Command) : List (Except DraftError Step) :=
  Step.each .none (.ok commands)

/-- What there is to say about a device once its rules are in. -/
def advisory? (device : String) : Session (Option Advisory) :=
  match Command.showQdiscs device false with
  | .error e => return some (.unverified device (Fault.invalidConfig e.message).message)
  | .ok query => do
    match ← Session.attempt query with
    | .error fault => return some (.unverified device fault.message)
    | .ok output =>
      if output.success then return Advisory.ofShown? device output.stdout
      else return some (.unverified device output.stderr)

/-- What there is to say about each device, given as warnings too. -/
def advisories : List String → Session (List Advisory)
  | [] => return []
  | device :: rest => do
    let found ← advisory? device
    if let some a := found then
      Session.warn (.advisory a)
    return found.toList ++ (← advisories rest)

/-- The rules of the policy. -/
def plan (s : Shaper) : CompiledPolicy := compile s.policy s.config

/-- Replaces what is installed by the policy. -/
def apply (s : Shaper) : Session ApplyReport := do
  if s.checksOffload && s.policy.shaping.bandwidth.isSome then
    checkOffload s.policy.interface
  let compiled := s.plan
  let commands ← Session.built (compiled.ruleSets.mapM Command.ofRules)
  s.clear
  Step.runAll (redirectSteps s.policy)
  Step.runAll (ruleSteps commands.flatten)
  let warnings ←
    if s.policy.shaping.keepsOrder then advisories (compiled.ruleSets.map (·.device))
    else pure []
  return ⟨compiled, commands.flatten.length, warnings⟩

/-- What is installed on the devices of the policy. -/
def status (s : Shaper) : Session StatusReport := StatusReport.collect s.policy

end Shaper

end TrafficShaping
