/-
File systems made of a list of files: the paths below the working directory
that hold something, where the directories on the way to them are there too.
Above the working directory there is nothing but more directories, and the
root holds nothing.

A path is followed part by part. Empty parts and `.` stay in place, `..` goes
back, and any other part goes on to what is there under its name; each of
them needs a directory to start from, so a file is the end of a path.
-/
import TrafficShaping.Files

namespace TrafficShaping

/-- The files and empty directories below the working directory; a directory
has no bytes. -/
abbrev FileTree := List (List String × Option (List UInt8))

namespace FileTree

/-- Where a path has led so far. -/
inductive Place where
  /-- Below the working directory, or at it. -/
  | below (parts : List String)
  /-- This many directories above the working directory. -/
  | above (levels : Nat)
  /-- At the root. -/
  | root
  deriving DecidableEq, Repr

/-- What is at a place. -/
def entryAt (t : FileTree) : Place → Entry
  | .below [] => .directory
  | .below parts =>
    match t.lookup parts with
    | some (some bytes) => .file bytes
    | some none => .directory
    | none =>
      if t.any fun (path, _) => parts.isPrefixOf path then .directory
      else .absent .notFound
  | .above _ => .directory
  | .root => .directory

/-- The place one part further on, and nothing where no such part can be. -/
def Place.next : Place → String → Option Place
  | .below parts, ".." =>
    if parts.isEmpty then some (.above 1) else some (.below parts.dropLast)
  | .above levels, ".." => some (.above (levels + 1))
  | .root, ".." => some .root
  | .below parts, name => some (.below (parts ++ [name]))
  | .above _, _ => none
  | .root, _ => none

/-- Follows the parts of a path; a file may be followed by none. -/
def follow (t : FileTree) (place : Place) : List String → Entry
  | [] => t.entryAt place
  | part :: rest =>
    match t.entryAt place with
    | .absent why => .absent why
    | .file _ => .absent .notDirectory
    | .unreadable _ => .absent .notDirectory
    | .directory =>
      if part == "" || part == "." then t.follow place rest
      else if 255 < part.utf8ByteSize then .absent .nameTooLong
      else
        match place.next part with
        | some place => t.follow place rest
        | none => .absent .notFound

/-- The parts of a path between its slashes. -/
def parts (path : String) : List String :=
  (path.toList.splitOnP (· == '/')).map String.ofList

/-- What a path leads to. -/
def entry (t : FileTree) (path : String) : Entry :=
  if path.toList.contains '\x00' then .absent .badName
  else if path.isEmpty then .absent .notFound
  else if 4096 ≤ path.utf8ByteSize then .absent .nameTooLong
  else if path.toList.head? == some '/' then t.follow .root (parts path)
  else t.follow (.below []) (parts path)

/-- The file system that a list of files makes, each under its path. -/
def ofFiles (files : List (String × Option (List UInt8))) : FileTree :=
  files.map fun (path, bytes) => ((parts path).filter fun p => p != "" && p != ".", bytes)

/-- The tree as a file system. -/
def toFiles (t : FileTree) : Files := ⟨t.entry⟩

end FileTree

end TrafficShaping
