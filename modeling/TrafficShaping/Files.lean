/-
Files: what the paths of a file system lead to, as far as reading needs it.

A file system is the answer to every path: the bytes of a file, a directory,
or nothing, with the system's reason for that. A file may also be there and
refuse to be read.
-/
import TrafficShaping.Fault
import TrafficShaping.Text.Utf8

namespace TrafficShaping

/-- Why a path leads nowhere. -/
inductive Absence where
  | notFound
  /-- A part of the path that has to be a directory is a file. -/
  | notDirectory
  | nameTooLong
  /-- A null character cannot be in a path. -/
  | badName
  deriving DecidableEq, Repr

/-- The wording of an absence. -/
def Absence.message : Absence → String
  | notFound => "No such file or directory (os error 2)"
  | notDirectory => "Not a directory (os error 20)"
  | nameTooLong => "File name too long (os error 36)"
  | badName => "file name contained an unexpected NUL byte"

/-- What a path leads to. -/
inductive Entry where
  | file (bytes : List UInt8)
  /-- A file that is there and cannot be read, with the system's reason. -/
  | unreadable (reason : String)
  | directory
  | absent (why : Absence)
  deriving DecidableEq, Repr

/-- A file system: what every path leads to. -/
structure Files where
  entry : String → Entry

namespace Files

/-- Whether a path leads to a file. -/
def isFile (fs : Files) (path : String) : Bool :=
  match fs.entry path with
  | .file _ => true
  | .unreadable _ => true
  | _ => false

/-- The text of a file. -/
def readText (fs : Files) (path : String) : Except Fault String :=
  match fs.entry path with
  | .file bytes =>
    match Text.Utf8.decode? bytes with
    | some cs => .ok (String.ofList cs)
    | none => .error (.io "stream did not contain valid UTF-8")
  | .unreadable reason => .error (.io reason)
  | .directory => .error (.io "Is a directory (os error 21)")
  | .absent why => .error (.io why.message)

/-- The path of a name in a directory. An absolute name stands for itself,
and in the nameless directory so does every name. -/
def join (dir name : String) : String :=
  if name.toList.head? == some '/' || dir.isEmpty then name
  else if dir.toList.getLast? == some '/' then dir ++ name
  else dir ++ "/" ++ name

end Files

end TrafficShaping
