/-
The program: from a command line to its output.

A command line is matched, made into a configuration, and validated. A dry
run then plays the action through on a runner that runs nothing, and shows
the commands. Any other run that would change something needs privileges and
an interface that exists; only after that does it hand commands to the real
runner. All output comes at the end, so a run that fails prints nothing but
its failure, and one that breaks off prints nothing at all.
-/
import TrafficShaping.CommandLine.Matcher
import TrafficShaping.Configuration

namespace TrafficShaping

/-- The world the program runs in. -/
structure World where
  files : Files
  /-- The home directory, where there is one. -/
  home : Option String
  logDirectives : Option String
  /-- The effective user; the privileged one is 0. -/
  user : Nat
  /-- Whether something is at a path. -/
  holds : String → Bool
  runner : Runner

namespace World

/-- What configurations are made from in a world. -/
def surroundings (w : World) : Surroundings :=
  ⟨w.files, Profile.defaultDirectories w.home, w.logDirectives⟩

/-- An interface exists when the system keeps something under its name. -/
def interfaceExists (w : World) (interface : String) : Bool :=
  w.holds (Files.join "/sys/class/net" interface)

/-- Needs an interface to exist. -/
def needInterface (w : World) (interface : String) : Except Failure Unit :=
  if w.interfaceExists interface then .ok ()
  else .error (.fault (.interfaceNotFound interface))

/-- Needs privileges to carry out an action. -/
def needPrivileges (w : World) (action : Action) : Except Failure Unit :=
  if w.user = 0 then .ok () else .error (.fault (.notPrivileged action.render))

end World

-- ============================================================ outcomes

/-- The result of an action, in both forms of output. -/
structure Outcome where
  json : Json
  text : String

namespace Outcome

/-- The outcome of installing a policy. -/
def ofApply (interface : String) (r : ApplyReport) : Outcome where
  json := r.toJson
  text := "Shaping applied on " ++ interface ++ " (" ++ r.rulesInstalled.repr ++ " rules)\n"
    ++ String.join (r.warnings.map fun a => "warning: " ++ a.message ++ "\n")

/-- The outcome of showing what is installed. -/
def ofStatus (r : StatusReport) : Outcome := ⟨r.toJson, r.render⟩

/-- The outcome of clearing an interface. -/
def ofClear (interface : String) : Outcome where
  json := .obj [("cleared", .str interface)]
  text := "Shaping cleared on " ++ interface ++ "\n"

/-- What is printed of an outcome. -/
def print (o : Outcome) (json : Bool) : String :=
  if json then o.json.pretty ++ "\n" else o.text

/-- What is printed of the outcome of a dry run, with its commands. -/
def printDry (o : Outcome) (commands : List String) (json : Bool) : String :=
  if json then
    (Json.obj [("result", o.json), ("commands", .arr (commands.map .str))]).pretty ++ "\n"
  else o.text ++ "\n" ++ String.join (commands.map (· ++ "\n"))

end Outcome

namespace Program

/-- Carries out the action of a configuration. -/
def act (c : Configuration) : Session Outcome := do
  match c.action with
  | .apply => return Outcome.ofApply c.policy.interface (← c.shaper.apply)
  | .status => return Outcome.ofStatus (← c.shaper.status)
  | .clear => do
    c.shaper.clear
    return Outcome.ofClear c.policy.interface

-- ================================================================ runs

/-- How a run ends. -/
inductive Ending where
  /-- The command line was refused. -/
  | refused (r : CommandLine.Refusal)
  | failed (f : Failure)
  /-- The run broke off. -/
  | brokeOff
  /-- The run succeeded and printed this. -/
  | printed (output : String)
  deriving DecidableEq, Repr

/-- A run: how it ended, the commands that it handed to the real runner, and
the warnings it gave. -/
structure Run where
  ending : Ending
  executed : List Command
  warnings : List Warning
  deriving DecidableEq, Repr

/-- A run that failed before any command. -/
def Run.failed (f : Failure) : Run :=
  ⟨if f.breaksOff then .brokeOff else .failed f, [], []⟩

/-- A dry run of a configuration. -/
def dryRun (c : Configuration) : Run :=
  match (act c).under Runner.dry with
  | (.ok o, t) => ⟨.printed (o.printDry (t.commands.map Command.render) c.json), [], t.warnings⟩
  | (.error fault, t) => ⟨.failed (.fault fault), [], t.warnings⟩

/-- What a real run of a configuration needs of the world. Showing what is
installed needs nothing. -/
def gates (w : World) (c : Configuration) : Except Failure Unit := do
  if c.action ≠ .status then
    w.needPrivileges c.action
    w.needInterface c.policy.interface

/-- The warnings that precede the commands of a real run. -/
def forewarnings (w : World) (c : Configuration) : List Warning :=
  if c.action = .status && !w.interfaceExists c.policy.interface then
    [.interfaceMissing c.policy.interface]
  else []

/-- A real run of a configuration. -/
def realRun (w : World) (c : Configuration) : Run :=
  match gates w c with
  | .error f => Run.failed f
  | .ok () =>
    let warnings := forewarnings w c
    match (act c).under w.runner with
    | (.ok o, t) => ⟨.printed (o.print c.json), t.commands, warnings ++ t.warnings⟩
    | (.error fault, t) => ⟨.failed (.fault fault), t.commands, warnings ++ t.warnings⟩

/-- The run of an invocation. -/
def runInvocation (w : World) (i : Invocation) : Run :=
  match Configuration.of w.surroundings i with
  | .error f => Run.failed f
  | .ok (c, _) =>
    match c.validate with
    | .error f => Run.failed f
    | .ok () => if c.dryRun then dryRun c else realRun w c

/-- The run of a command line. -/
def run (w : World) (words : List String) : Run :=
  match CommandLine.parse words with
  | .error r => ⟨.refused r, [], []⟩
  | .ok i => runInvocation w i

-- ============================================================== output

/-- The version that is shown on request. -/
def version : String := "tcshape 0.1.0\n"

/-- How to use the program, shown on request. -/
def usage : String :=
  "Usage: tcshape [OPTIONS] [ACTION]\n\nActions: apply, status, clear\nOptions: "
    ++ ", ".intercalate (CommandLine.names.map fun n => "--" ++ n.long) ++ "\n"

/-- The exit code of a run. -/
def Ending.exitCode : Ending → Nat
  | .refused .displayHelp => 0
  | .refused .displayVersion => 0
  | .refused _ => 2
  | .failed _ => 1
  | .brokeOff => 101
  | .printed _ => 0

/-- What a run prints. -/
def Ending.stdout : Ending → String
  | .refused .displayHelp => usage
  | .refused .displayVersion => version
  | .refused _ => ""
  | .failed _ => ""
  | .brokeOff => ""
  | .printed output => output

/-- What a run that failed says about it. -/
def Ending.complaint? : Ending → Option String
  | .failed f => some ("Error: " ++ f.report)
  | _ => none

end Program

end TrafficShaping
