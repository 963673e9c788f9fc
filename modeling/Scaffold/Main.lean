import Std.Time.DateTime.Timestamp
import Scaffold.CommandLine.Run

/-!
# The program

The program itself, around the part that only computes. The directory that it is started in is read
before a run and is the disk of the run, so that paths from the top lead from it too; what the run
has changed is written afterwards, also if the run has failed. A user's own directory that does not
lie below it cannot be reached from it, and it takes its place.
-/

namespace Scaffold.Program

open Console CommandLine

/-- The disk entries of directory entries found at a location, with all that is below them. Links
are passed over. -/
partial def entriesAt (l : Location) (found : List IO.FS.DirEntry) :
    IO (List (Location × Entry)) := do
  let parts ← found.mapM fun e => do
    let here := l ++ [e.fileName]
    match (← e.path.symlinkMetadata).type with
    | .file => return [(here, Entry.file (← IO.FS.readBinFile e.path).toList)]
    | .dir => return (here, Entry.directory) :: (← entriesAt here (← e.path.readDir).toList)
    | _ => return []
  return parts.flatten

/-- The file name of a location. -/
def fileName (l : Location) : String := "/".intercalate l

/-- Makes the directory that the program runs in equal to a disk. What is gone is removed from the
bottom up, and what is new is made from the top down. -/
def writeChanges (before after : Disk) : IO Unit := do
  let byDepth (d : Disk) := d.entries.mergeSort fun a b => a.1.length ≤ b.1.length
  for (l, e) in (byDepth before).reverse do
    if after.entry? l ≠ some e then
      match e, after.entry? l with
      | .file _, some (.file _) => pure ()
      | .file _, _ => IO.FS.removeFile (fileName l)
      | .directory, _ => IO.FS.removeDir (fileName l)
  for (l, e) in byDepth after do
    if before.entry? l ≠ some e then
      match e with
      | .directory => IO.FS.createDir (fileName l)
      | .file bytes => IO.FS.writeBinFile (fileName l) ⟨bytes.toArray⟩

/-- Prints the rows of a table. -/
def showRows (rows : List (List String)) : IO Unit :=
  for row in rows do IO.println ("  ".intercalate row)

/-- Prints one thing. -/
def showPrinted : Printed → IO Unit
  | .line s => IO.println s
  | .table title header rows => do
    IO.println title
    showRows (header :: rows)
  | .panel title rows => do
    IO.println title
    showRows rows

/-- The names of the options of a grammar. -/
def helpText (g : Grammar) : String :=
  "usage: " ++ g.program ++ " " ++ " ".intercalate (g.options.map fun o => "[" ++ o.shown ++ "]")

/-- The path of the user's own directory from the directory that the program runs in. -/
def homeBelow (top : Path) (home : Option String) : Path :=
  let p := Path.ofString (home.getD "")
  if top.root = p.root ∧ top.names.isPrefixOf p.names then p.names.drop top.names.length
  else ([] : List String)

/-- The variables of the environment that settings come from. -/
def settingNames : List String :=
  ["MODFORGE_LOG_DIR", "MODFORGE_LOG_RETENTION_DAYS", "MODFORGE_VERBOSE", "MODFORGE_MODULES_DIR"]

/-- Runs what a command line asks for, and gives the number that the program ends with. -/
def run (x : Invocation) : IO UInt32 := do
  let here ← IO.currentDir
  let top := Path.ofString here.toString
  let environment ← settingNames.filterMapM fun name => do
    return (← IO.getEnv name).map fun value => (name, value)
  let disk : Disk := ⟨← entriesAt [] (← here.readDir).toList⟩
  let now := (← Std.Time.Timestamp.now).toMillisecondsSinceUnixEpoch.toInt
  let around : Surroundings := ⟨.usual, homeBelow top (← IO.getEnv "HOME"), top.name, environment⟩
  let (result, site) := (x.run around).outcome ⟨disk, ⟨now, 1⟩, []⟩
  writeChanges disk site.disk
  for p in site.printed do showPrinted p
  match result with
  | .ok code => return UInt32.ofNat code
  | .error failure =>
    IO.eprintln failure.message
    return 1

end Scaffold.Program

/-- The program. -/
def main (words : List String) : IO UInt32 := do
  match Scaffold.CommandLine.parse words with
  | .ok x => Scaffold.Program.run x
  | .error .help =>
    for g in Scaffold.CommandLine.grammars do
      IO.println (Scaffold.Program.helpText g)
    return 0
  | .error (.misuse program message) =>
    IO.eprintln (program ++ ": error: " ++ message)
    return 2
