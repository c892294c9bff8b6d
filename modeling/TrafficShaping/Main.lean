/-
The command line of the program.

The program itself is a function of the world it runs in. Here that world is
gathered: the files that a profile may be in, the environment, the effective
user, and whether the interface exists. What the program says is printed.

No means of launching other programs is gathered, so to a run that reaches
for one it is missing. Dry runs need none.
-/
import TrafficShaping.Program
import TrafficShaping.Shaper.Process

namespace TrafficShaping.Main

/-- What a path of the system leads to. -/
def entryAt (path : String) : IO Entry := do
  try
    let bytes ← IO.FS.readBinFile path
    return .file bytes.toList
  catch e =>
    match e with
    | .inappropriateType none _ _ => return .directory
    | .inappropriateType _ _ _ => return .absent .notDirectory
    | .permissionDenied _ _ _ =>
      -- what is out of reach is as good as absent
      try
        let _ ← IO.FS.realPath path
        return .unreadable "Permission denied (os error 13)"
      catch _ => return .absent .notFound
    | _ => return .absent .notFound

/-- Whether the system keeps something at a path. -/
def isThere (path : String) : IO Bool := do
  try
    let _ ← IO.FS.Handle.mk path .read
    return true
  catch e =>
    match e with
    | .noFileOrDirectory _ _ _ => return false
    | .inappropriateType _ _ _ => return false
    | _ => return true

/-- The effective user: the second number on the line of the process status
that is about users. -/
def effectiveUser : IO Nat := do
  let status ← IO.FS.readFile "/proc/self/status"
  let lines := (status.toList.splitOnP (· == '\n')).map Text.words
  match lines.find? fun line => line.head? == some "Uid:".toList with
  | some (_ :: _ :: user :: _) =>
    match Text.readNumeral (UInt32.size - 1) user with
    | .ok n => return n
    | .error _ => return 1
  | _ => return 1

/-- The files that an invocation may read. -/
def gatherFiles (dirs : List String) (i : Invocation) : IO Files := do
  let paths := (i.profile.map (Profile.choices dirs)).getD []
  let entries ← paths.mapM fun path => do return (path, ← entryAt path)
  return ⟨fun path => (entries.lookup path).getD (.absent .notFound)⟩

/-- The world of an invocation. -/
def gather (i : Invocation) : IO World := do
  let home := (← IO.getEnv "HOME").filter fun h => !h.isEmpty
  let logDirectives ← IO.getEnv "RUST_LOG"
  let dirs := Profile.defaultDirectories home
  let files ← gatherFiles dirs i
  let interface :=
    match Configuration.of ⟨files, dirs, logDirectives⟩ i with
    | .ok (c, _) => c.policy.interface
    | .error _ => ""
  let path := Files.join "/sys/class/net" interface
  let there ← isThere path
  return {
    files := files
    home := home
    logDirectives := logDirectives
    user := ← effectiveUser
    holds := fun p => p == path && there
    runner := Runner.ofProcesses fun _ => .error Absence.notFound.message }

/-- The run of a command line in the world of the system. -/
def run (words : List String) : IO Program.Run := do
  match CommandLine.parse words with
  | .error r => return ⟨.refused r, [], []⟩
  | .ok i => return Program.runInvocation (← gather i) i

end TrafficShaping.Main

open TrafficShaping in
/-- Runs the command line and prints what comes of it. -/
def main (words : List String) : IO UInt32 := do
  let run ← Main.run words
  for w in run.warnings do
    IO.eprintln w.message
  IO.print run.ending.stdout
  match run.ending with
  | .refused .displayHelp => pure ()
  | .refused .displayVersion => pure ()
  | .refused _ => IO.eprint Program.usage
  | ending =>
    if let some complaint := ending.complaint? then
      IO.eprintln complaint
  return UInt32.ofNat run.ending.exitCode
