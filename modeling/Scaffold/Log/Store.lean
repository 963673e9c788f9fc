import Scaffold.Clock
import Scaffold.Document.Json.Printer
import Scaffold.Failure
import Scaffold.Log.Record
import Scaffold.Schema.Text
import Scaffold.Text.Lowercase
import Scaffold.Text.Search

/-!
# The log store

The log as a directory of files, one for each record, named by the record's hash. Listings read
every file of the directory whose name ends as it should, pass over what is no record, and give the
newest records first.
-/

namespace Scaffold.Log

open Document Schema

/-- A store is the directory that it keeps its records in. -/
structure Store where
  directory : Path
  deriving DecidableEq, Repr

/-- A log file and the record in it. -/
structure Found where
  name : String
  record : Record

/-- The milliseconds of a day. -/
def dayMilliseconds : Int := 86400000

/-- Reads the text of a log file. -/
def readRecord (t : List Char) : Checked Record := Reader.fromText Record.read t

/-- Whether a text is a hash as files are named by it: one to 64 hexadecimal digits in lower case. A
line feed after them is let pass. -/
def isHash (h : String) : Bool :=
  let t := h.toList
  let t := if t.getLast? = some '\n' then t.dropLast else t
  !t.isEmpty && t.length ≤ 64 && t.all fun c =>
    (48 ≤ c.toNat && c.toNat ≤ 57) || (97 ≤ c.toNat && c.toNat ≤ 102)

/-- Whether a file name is one that listings look at. -/
def isLogName (name : String) : Bool := ".json".toList.isSuffixOf name.toList

/-- A record as a document, if its instruction is not nested too deeply. -/
def Record.document (r : Record) : Except Failure Value :=
  if r.isShallow then .ok r.toValue else .error .tooDeep

namespace Store

/-- Where the record of a hash is kept. -/
def pathOf (s : Store) (hash : String) : Path := s.directory.join (Path.ofString (hash ++ ".json"))

/-- The text of the file that keeps a record. -/
def fileText (r : Record) : List Char := Json.stored r.stored

/-- Keeps a record, and makes the directory of the store if it is missing. The answer is the path of
the record's file. -/
def save (s : Store) (r : Record) (d : Disk) : Except Failure Path × Disk :=
  let p := s.pathOf r.hash
  let refuse (e : DiskError) : Failure :=
    match e with
    | .nullCharacter => .disk .nullCharacter
    | e => .log p (.unwritable e)
  match d.makeDirectories s.directory with
  | (.error e, d) => (.error (refuse e), d)
  | (.ok (), d) =>
    if !r.isShallow then (.error .tooDeepToStore, d)
    else
      match d.writeText p (fileText r) with
      | .error e => (.error (refuse e), d)
      | .ok d => (.ok p, d)

/-- Reads the record in a file. -/
def readFile (p : Path) (d : Disk) : Except Failure Record :=
  match d.readText p with
  | .error (.disk e) => .error (.disk e)
  | .error (.undecodable fault) => .error (.log p (.undecodable fault))
  | .ok t =>
    match readRecord t with
    | .valid r => .ok r
    | .invalid problems => .error (.log p (.invalid problems))

/-- The record of a hash, if there is one. Nothing is looked up for a text that is no hash. -/
def get (s : Store) (hash : String) (d : Disk) : Except Failure (Option Record) :=
  if !isHash hash then .ok none
  else
    match d.isFile (s.pathOf hash) with
    | .error e => .error (.disk e)
    | .ok false => .ok none
    | .ok true => (readFile (s.pathOf hash) d).map some

/-- The log files of the directory that hold a record, by name. -/
def readable (s : Store) (l : Location) (d : Disk) : List Found :=
  let names := ((d.names l).filter isLogName).mergeSort fun a b => a ≤ b
  names.filterMap fun name =>
    match readFile (s.directory.child name) d with
    | .ok r => some ⟨name, r⟩
    | .error _ => none

/-- All log files that hold a record, the newest record first. -/
def scan (s : Store) (d : Disk) : Except Failure (List Found) :=
  match d.isDirectory s.directory with
  | .error e => .error (.disk e)
  | .ok false => .ok []
  | .ok true =>
    match d.locate s.directory with
    | .error e => .error (.disk e)
    | .ok l =>
      .ok ((s.readable l d).mergeSort fun a b => b.record.timestamp ≤ a.record.timestamp)

/-- All records, the newest first. -/
def records (s : Store) (d : Disk) : Except Failure (List Record) :=
  (s.scan d).map fun found => found.map Found.record

end Store

/-- What a listing is narrowed to: a status, a part of the project's name and a part of the module's
name. Parts of names are compared in lower case, and an empty one narrows nothing. -/
structure Query where
  status : Option Status
  project : Option String
  module : Option String
  deriving DecidableEq, Repr

/-- Whether a part of a name is found in a name, in lower case. -/
def matchesName (part : Option String) (name : String) : Bool :=
  match part with
  | none => true
  | some s => s = "" || Text.contains (Text.lower s.toList) (Text.lower name.toList)

/-- Whether a record is among those asked for. -/
def Query.accepts (q : Query) (r : Record) : Bool :=
  (match q.status with
    | none => true
    | some status => r.status = status)
  && matchesName q.project r.project && matchesName q.module r.module

/-- The status that a word stands for. -/
def statusOf (word : String) : Except Failure Status :=
  match Table.find? Status.words word with
  | some status => .ok status
  | none => .error (.unknownStatus word)

namespace Store

/-- The records that a query asks for, the newest first. -/
def list (s : Store) (q : Query) (d : Disk) : Except Failure (List Record) :=
  (s.records d).map fun rs => rs.filter q.accepts

/-- The time before which records are too old to be kept for so many days. -/
def cutoff (days now : Int) : Int := now - days * dayMilliseconds

/-- Removes the files of records that are older than so many days, and counts them. -/
def prune (s : Store) (days now : Int) (d : Disk) : Except Failure Nat × Disk :=
  match s.scan d with
  | .error e => (.error e, d)
  | .ok found =>
    let old := found.filter fun f => f.record.timestamp < cutoff days now
    let remove (d : Disk) (f : Found) : Disk :=
      match d.removeFile (s.directory.child f.name) with
      | .ok d => d
      | .error _ => d
    (.ok old.length, old.foldl remove d)

end Store

end Scaffold.Log
