import Scaffold.Disk.Basic

/-!
# Directories and text files as a whole

Operations that take several steps on the disk: making a directory with all that is missing above
it, removing a directory with all that is in it, and writing a text file into a directory that may
have to be made first. Each can stop halfway, so each gives the disk as it then is besides the
outcome. Text files are UTF-8; any kind of line end is read as a line feed, and text is written as
it is.
-/

namespace Scaffold

/-- Why a text file could not be read. -/
inductive ReadError
  | disk (e : DiskError)
  | undecodable (fault : Text.Utf8.Fault)
  deriving DecidableEq, Repr

/-- A failed reading in words. -/
def ReadError.message : ReadError → String
  | .disk e => e.message
  | .undecodable fault => fault.message

namespace Disk

/-- The text of the file at a path. -/
def readText (d : Disk) (p : Path) : Except ReadError (List Char) :=
  match d.readFile p with
  | .error e => .error (.disk e)
  | .ok bytes =>
    match Text.Utf8.decode bytes with
    | .error fault => .error (.undecodable fault)
    | .ok t => .ok (Text.unifyLineEnds t)

/-- Writes a text file into a directory that exists. -/
def writeText (d : Disk) (p : Path) (t : List Char) : Except DiskError Disk :=
  d.writeFile p (Text.Utf8.encode t)

/-- A refused making of a directory is no failure if the directory is there. -/
def acceptDirectory (d : Disk) (p : Path) (e : DiskError) : Except DiskError Unit :=
  match e with
  | .nullCharacter => .error e
  | _ =>
    match d.isDirectory p with
    | .ok true => .ok ()
    | .ok false => .error e
    | .error e => .error e

/-- Makes a directory and all directories that are missing above it. -/
def makeDirectories (d : Disk) (p : Path) : Except DiskError Unit × Disk :=
  match d.makeDirectory p with
  | .ok d => (.ok (), d)
  | .error (.refused .notFound q) =>
    if _h : p.names = [] then (.error (.refused .notFound q), d)
    else
      match makeDirectories d p.parent with
      | (.error e, d) => (.error e, d)
      | (.ok (), d) =>
        match d.makeDirectory p with
        | .ok d => (.ok (), d)
        | .error (.refused .notFound q) => (.error (.refused .notFound q), d)
        | .error e => (d.acceptDirectory p e, d)
  | .error e => (d.acceptDirectory p e, d)
termination_by p.names.length
decreasing_by
  have := List.length_pos_iff.2 _h
  simp only [Path.parent, List.length_dropLast]
  omega

/-- Writes a text file, after making the directories above it that are missing. -/
def saveText (d : Disk) (p : Path) (t : List Char) : Except DiskError Unit × Disk :=
  match d.makeDirectories p.parent with
  | (.error e, d) => (.error e, d)
  | (.ok (), d) =>
    match d.writeText p t with
    | .error e => (.error e, d)
    | .ok d => (.ok (), d)

/-- Removes a directory and all that is below it. What is below goes first, so that a directory that
cannot be removed itself is left empty. -/
def removeTree (d : Disk) (p : Path) : Except DiskError Unit × Disk :=
  match d.locate p with
  | .error e => (.error e, d)
  | .ok l =>
    match d.entry? l with
    | none => (.error (.refused .notFound p), d)
    | some (.file _) => (.error (.noTree p), d)
    | some .directory =>
      let d := d.without (isBelow l)
      match d.removeDirectory p with
      | .error e => (.error e, d)
      | .ok d => (.ok (), d)

end Disk

end Scaffold
