import Scaffold.Disk.Path
import Scaffold.Table
import Scaffold.Text.Lines
import Scaffold.Text.Quoted
import Scaffold.Text.Utf8

/-!
# The disk

A tree of directories and files as a value. The entries are kept under their location, the list of
names on the way from the top; the top itself is a directory that is always there, and the program
runs in it. A path leads to a location step by step, through directories that exist, and every
operation on a path either gives its result or one system error; no operation of this module changes
more than one entry.
-/

namespace Scaffold

/-- The names on the way from the top of the disk to an entry. -/
abbrev Location : Type := List String

/-- What stands at a location. -/
inductive Entry
  | file (bytes : List UInt8)
  | directory
  deriving DecidableEq, Repr

/-- The entries of a disk, the top apart. -/
structure Disk where
  entries : Table Location Entry
  deriving Repr

/-- The reasons for which the system refuses an operation. -/
inductive SystemFault
  | notFound
  | alreadyExists
  | notDirectory
  | isDirectory
  | invalidArgument
  | nameTooLong
  | notEmpty
  | busy
  deriving DecidableEq, Repr

/-- Why an operation on a path failed: the system refused it, or removal of a tree met something
that is no directory, or the path holds a null character and names nothing at all. -/
inductive DiskError
  | refused (fault : SystemFault) (path : Path)
  | noTree (path : Path)
  | nullCharacter
  deriving DecidableEq, Repr

/-- The system's number and words for a fault. -/
def SystemFault.describe : SystemFault → Nat × String
  | .notFound => (2, "No such file or directory")
  | .alreadyExists => (17, "File exists")
  | .notDirectory => (20, "Not a directory")
  | .isDirectory => (21, "Is a directory")
  | .invalidArgument => (22, "Invalid argument")
  | .nameTooLong => (36, "File name too long")
  | .notEmpty => (39, "Directory not empty")
  | .busy => (16, "Device or resource busy")

/-- A fault in words, before the path that it concerns. -/
def SystemFault.message (f : SystemFault) : String :=
  let (number, words) := f.describe
  "[Errno " ++ toString number ++ "] " ++ words ++ ": "

/-- A failed operation in words. -/
def DiskError.message : DiskError → String
  | .refused fault path => fault.message ++ Text.quoted path.text
  | .noTree path => SystemFault.notDirectory.message ++ "PosixPath(" ++ Text.quoted path.text ++ ")"
  | .nullCharacter => "embedded null byte"

namespace Disk

/-- A disk with nothing on it. -/
def empty : Disk := ⟨[]⟩

/-- The entry at a location. -/
def entry? (d : Disk) (l : Location) : Option Entry :=
  if l = [] then some .directory else Table.find? d.entries l

/-- The disk with an entry put at a location. -/
def put (d : Disk) (l : Location) (e : Entry) : Disk := ⟨Table.insert d.entries l e⟩

/-- The disk without the entries whose locations are singled out. -/
def without (d : Disk) (gone : Location → Bool) : Disk :=
  ⟨d.entries.filter fun pair => !gone pair.1⟩

/-- Whether a location lies strictly below another one. -/
def isBelow (above l : Location) : Bool := above.isPrefixOf l && above.length < l.length

/-- The names in a directory. -/
def names (d : Disk) (l : Location) : List String :=
  d.entries.filterMap fun pair =>
    if pair.1.dropLast = l then pair.1.getLast? else none

/-- The longest name that the system takes, in bytes. -/
def maxNameSize : Nat := 255

/-- The longest path that the system takes, in bytes. -/
def maxPathSize : Nat := 4095

/-- Follows names from a directory. The last name need not exist. -/
def walk (d : Disk) (l : Location) : List String → Except SystemFault Location
  | [] => .ok l
  | name :: rest =>
    if name = ".." then walk d l.dropLast rest
    else if maxNameSize < name.utf8ByteSize then .error .nameTooLong
    else
      match rest with
      | [] => .ok (l ++ [name])
      | next :: more =>
        match d.entry? (l ++ [name]) with
        | none => .error .notFound
        | some (.file _) => .error .notDirectory
        | some .directory => walk d (l ++ [name]) (next :: more)

/-- Whether a path holds a null character. -/
def hasNull (p : Path) : Bool := p.names.any fun name => name.toList.contains '\x00'

/-- The location that a path leads to; all but its last name have to exist. Paths of both kinds lead
from the top, where the program runs. -/
def locate (d : Disk) (p : Path) : Except DiskError Location :=
  if hasNull p then .error .nullCharacter
  else if maxPathSize < p.text.utf8ByteSize then .error (.refused .nameTooLong p)
  else
    match d.walk [] p.names with
    | .ok l => .ok l
    | .error fault => .error (.refused fault p)

/-- The entry that a path leads to. -/
def lookup (d : Disk) (p : Path) : Except DiskError Entry :=
  match d.locate p with
  | .error e => .error e
  | .ok l =>
    match d.entry? l with
    | some e => .ok e
    | none => .error (.refused .notFound p)

/-- The entry that a path leads to, if it leads to one. Only a name or path that is too long makes
the question itself fail. -/
def find? (d : Disk) (p : Path) : Except DiskError (Option Entry) :=
  match d.lookup p with
  | .ok e => .ok (some e)
  | .error (.refused .notFound _) => .ok none
  | .error (.refused .notDirectory _) => .ok none
  | .error .nullCharacter => .ok none
  | .error e => .error e

/-- Whether a path leads to something. -/
def holds (d : Disk) (p : Path) : Except DiskError Bool := (d.find? p).map Option.isSome

/-- Whether a path leads to a file. -/
def isFile (d : Disk) (p : Path) : Except DiskError Bool :=
  (d.find? p).map fun
    | some (.file _) => true
    | _ => false

/-- Whether a path leads to a directory. -/
def isDirectory (d : Disk) (p : Path) : Except DiskError Bool :=
  (d.find? p).map fun
    | some .directory => true
    | _ => false

/-- The bytes of the file at a path. -/
def readFile (d : Disk) (p : Path) : Except DiskError (List UInt8) :=
  match d.lookup p with
  | .error e => .error e
  | .ok (.file bytes) => .ok bytes
  | .ok .directory => .error (.refused .isDirectory p)

/-- Writes a file, which is made if it is missing; its directory has to exist. -/
def writeFile (d : Disk) (p : Path) (bytes : List UInt8) : Except DiskError Disk :=
  match d.locate p with
  | .error e => .error e
  | .ok l =>
    match d.entry? l with
    | some .directory => .error (.refused .isDirectory p)
    | _ => .ok (d.put l (.file bytes))

/-- Removes a file. -/
def removeFile (d : Disk) (p : Path) : Except DiskError Disk :=
  match d.locate p with
  | .error e => .error e
  | .ok l =>
    if p.endsUpward then .error (.refused .isDirectory p)
    else
      match d.entry? l with
      | none => .error (.refused .notFound p)
      | some .directory => .error (.refused .isDirectory p)
      | some (.file _) => .ok (d.without (· = l))

/-- Makes a directory in a directory that exists. -/
def makeDirectory (d : Disk) (p : Path) : Except DiskError Disk :=
  match d.locate p with
  | .error e => .error e
  | .ok l =>
    match d.entry? l with
    | some _ => .error (.refused .alreadyExists p)
    | none => .ok (d.put l .directory)

/-- Removes a directory with nothing in it. The directory has to be named: it cannot be reached by
going up or by staying, and the top stays. -/
def removeDirectory (d : Disk) (p : Path) : Except DiskError Disk :=
  match d.locate p with
  | .error e => .error e
  | .ok l =>
    if p.names = [] then
      .error (.refused (if p.root = .here then .invalidArgument else .busy) p)
    else if p.endsUpward then .error (.refused .notEmpty p)
    else
      match d.entry? l with
      | none => .error (.refused .notFound p)
      | some (.file _) => .error (.refused .notDirectory p)
      | some .directory =>
        if d.names l = [] then .ok (d.without (· = l)) else .error (.refused .notEmpty p)

end Disk

end Scaffold
