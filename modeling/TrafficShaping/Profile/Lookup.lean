/-
Finding profiles. A profile is referred to by the path of its file, or by a
name that is looked up in a list of directories under the ending of profiles.
The path comes first; of the directories a later one outranks an earlier one.

What is found is what is read: a profile that turns out to be broken is a
failure, whatever the directories of lower rank may hold.
-/
import TrafficShaping.Failure
import TrafficShaping.Files
import TrafficShaping.Profile.Reader

namespace TrafficShaping.Profile

/-- The directories that are searched, the highest in rank last: those of the
system, of the user, and of the working directory. -/
def defaultDirectories (home : Option String) : List String :=
  ["/usr/share/tcshape/profiles"]
    ++ (home.map fun h => Files.join h ".config/tcshape/profiles").toList
    ++ ["./profiles"]

/-- The file that a profile's name stands for in a directory. -/
def candidate (reference dir : String) : String := Files.join dir (reference ++ ".json5")

/-- The paths that a reference may lead to, the first choice first: the
reference itself, and then the directories from the highest rank down. -/
def choices (dirs : List String) (reference : String) : List String :=
  reference :: dirs.reverse.map (candidate reference)

/-- The path of the file that a reference leads to. -/
def resolve (fs : Files) (dirs : List String) (reference : String) : Except Failure String :=
  match (choices dirs reference).find? fs.isFile with
  | some path => .ok path
  | none => .error (.profileNotFound reference dirs)

/-- Reads the profile in a file. -/
def ofFile (fs : Files) (path : String) : Except Fault Reading := do
  parse (← fs.readText path) path

/-- Finds a profile and reads it. -/
def load (fs : Files) (dirs : List String) (reference : String) : Except Failure Reading := do
  let path ← resolve fs dirs reference
  match ofFile fs path with
  | .ok r => .ok r
  | .error cause => .error (.profileNotLoaded path cause)

end TrafficShaping.Profile
