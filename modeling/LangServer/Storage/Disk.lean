import LangServer.Storage.Path

/-!
# Disks

A tree of directories and files, as far as looking up paths goes. A place in the tree is the list
of names on the way to it from the root; the root is a directory and is always there.

A look-up follows the components of a path from the root or from the working directory. Here `..`
leads to the directory above, and the root is above itself. Every component, also an empty one at
the end, is looked for in a directory, so nothing can follow a file.

Files and directories may be closed to the server, for whatever reason the system has: a missing
permission, a failing disk. A closed file or directory is there and cannot be read, and what is
below a closed directory is out of reach.

## Main definitions

* `Disk.look`: what a path leads to.
* `Disk.makeDirectories`, `Disk.write`: new directories and files.
-/

namespace LangServer

/-- What a path leads to. -/
inductive Sight where
  | absent
  | directory
  | file (contents : ByteArray)
  /-- A file or a directory that cannot be read, with the words of the system. -/
  | closed (words : String)
  /-- A file where a directory was needed. -/
  | notDirectory
  | tooLong
  | zeroInPath
  /-- A place of which it is not known whether anything is there, with the words of the system. -/
  | outOfReach (words : String)

/-- Whether there is known to be a file or a directory. -/
def Sight.isThere : Sight → Bool
  | .directory | .file _ | .closed _ => true
  | _ => false

/-- A place in the tree: the names on the way to it from the root. -/
abbrev Place := List Text

/-- Something on a disk. -/
inductive DiskEntry where
  | directory
  | file (contents : ByteArray)
  | closedDirectory (words : String)
  | closedFile (words : String)

/-- A tree of directories and files; of two entries for a place the first one counts. -/
structure Disk where
  entries : List (Place × DiskEntry) := []

namespace Disk

/-- What is at a place. -/
def entry? (d : Disk) (place : Place) : Option DiskEntry :=
  if place = [] then some .directory else d.entries.lookup place

/-! ### Looking up -/

/-- The most bytes of a name. -/
def nameLimit : Nat := 255

/-- The most bytes of a path. -/
def pathLimit : Nat := 4095

/-- What some components lead to from a place. -/
def walk (d : Disk) (here : Place) : List Text → Sight
  | [] =>
    match d.entry? here with
    | none => .absent
    | some .directory => .directory
    | some (.file contents) => .file contents
    | some (.closedDirectory words) | some (.closedFile words) => .closed words
  | name :: names =>
    match d.entry? here with
    | none => .absent
    | some (.file _) | some (.closedFile _) => .notDirectory
    | some (.closedDirectory words) => .outOfReach words
    | some .directory =>
      if name = [] ∨ name = ['.'] then walk d here names
      else if name = ['.', '.'] then walk d here.dropLast names
      else if nameLimit < Text.byteSize name then .tooLong
      else walk d (here ++ [name]) names

/-- What a path leads to when `here` is the working directory. -/
def look (d : Disk) (here : Place) (p : Path) : Sight :=
  if '\x00' ∈ p.text then .zeroInPath
  else if p.text = [] then .absent
  else if pathLimit < Text.byteSize p.text then .tooLong
  else walk d (if p.isAbsolute then [] else here) (List.splitOn '/' p.text)

/-! ### Writing -/

/-- The disk with something at a place. -/
def put (d : Disk) (place : Place) (entry : DiskEntry) : Disk :=
  ⟨(place, entry) :: d.entries⟩

/-- The disk with directories along some names from a place on; what is there already stays. -/
def makeDirectories (d : Disk) (here : Place) : List Text → Disk
  | [] => d
  | name :: names =>
    let next := here ++ [name]
    let d := if (d.entry? next).isSome then d else d.put next .directory
    makeDirectories d next names

/-- The disk with a file at a place and directories on the way to it. -/
def write (d : Disk) (place : Place) (contents : ByteArray) : Disk :=
  (d.makeDirectories [] place.dropLast).put place (.file contents)

end Disk

end LangServer
