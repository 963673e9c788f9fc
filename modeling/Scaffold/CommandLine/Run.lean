import Scaffold.CommandLine.Command
import Scaffold.Install
import Scaffold.Text.Shorten

/-!
# Running commands

What the program does for a command line: what it prints, what it does on the disk, and the number
that it ends with, which is zero if it did what was asked for.
-/

namespace Scaffold.CommandLine

open Console Document

/-- What the program finds around it: the room that the readers of documents have, the user's own
directory, the name of the directory that it runs in, and the variables of the environment. -/
structure Surroundings where
  room : Room
  home : Path
  top : String
  environment : Table String String
  deriving Repr

/-- The texts between commas. -/
def commaParts (s : String) : List (List Char) := s.toList.splitOn ','

/-- The names in a text that separates them by commas. Blanks around names do not count, nor do
empty names. -/
def splitNames (s : String) : List String :=
  ((commaParts s).map fun part => String.ofList (Text.trim part)).filter (· ≠ "")

/-- The name of the directory that a path leads to. The top has a name as the directory that the
program runs in only. -/
def directoryName (top : String) (p : Path) (d : Disk) : String :=
  match d.locate p with
  | .ok l => l.getLast?.getD (if p.root = .here then top else "")
  | .error _ => p.name

/-- Prints a message of failure, and ends with a one. -/
def failWith (message : String) : Job Nat := do
  Job.print [.error message]
  pure 1

/-! ## Installing modules -/

/-- The table at the end of an installation. Names and paths in it count as markup. -/
def summaryTable (s : Settings) (project : Project) (r : Resolution) (report : InstallReport) :
    Except Markup.Fault Printed :=
  let unloaded := ", ".intercalate report.unloaded
  Printed.tableOf "Install Summary" ["Item", "Value"]
    [["Project", project.name],
      ["Modules", ", ".intercalate r.names],
      ["Executed", toString report.executed],
      ["Skipped", toString report.skipped],
      ["Failed", toString report.failed],
      ["Modules not loaded", if unloaded = "" then "none" else unloaded],
      ["Logs", s.logDirectory.text]]

/-- Resolves and installs the modules of a template that are selected. -/
def applyTemplate (room : Room) (s : Settings) (project : Project) (t : Template)
    (selected : List String) : Job Nat := do
  let r ← t.resolve (selected.map Choice.name)
  if r.isEmpty then
    Job.print [.plain "Nothing to install"]
    pure 0
  else
    let report ← install room s project r.modules
    Job.printMarkup (summaryTable s project r report)
    Job.print [.line ""]
    pure 0

/-- Runs the command that installs modules. -/
def runApply (around : Surroundings) (s : Settings) (x : ApplyRequest) : Job Nat := do
  let root := Path.ofString x.root
  let isThere ← Job.onDisk fun d => ((d.isDirectory root).mapError Failure.disk, d)
  if !isThere then failWith ("Project directory not found: " ++ root.text)
  else
    let template ← Job.catching Failure.isCatalog
      (Job.onDisk fun d => (Template.load around.room (Path.ofString x.template) d, d))
    match template with
    | .error e => failWith e.message
    | .ok t =>
      let s := { s with
        removesModules := s.removesModules && !x.keepsModules
        verbose := s.verbose || x.verbose }
      let top ← Job.look (directoryName around.top root)
      let name := (given? x.projectName).getD top
      Job.print [.plain ("Selected template: " ++ t.name)]
      if t.description ≠ "" then
        Job.print [.plain ("Description: " ++ t.description)]
      match splitNames x.modules with
      | [] =>
        Job.print [.plain "No modules selected"]
        pure 0
      | selected => applyTemplate around.room s ⟨root, name⟩ t selected

/-! ## Showing the log -/

/-- The colour and the sign of a status. -/
def statusStyle : Log.Status → String × String
  | .success => ("green", "+")
  | .skipped => ("yellow", "o")
  | .failed => ("red", "x")

/-- The time of a record. -/
def timeOf (r : Log.Record) : Except Failure String :=
  (Calendar.showInstant r.timestamp).mapError Failure.calendar

/-- The number of a record's instruction, counted from one. -/
def numberOf (r : Log.Record) : Except Failure String :=
  (Text.decimal (r.index + 1)).mapError Failure.unwritable

/-- The text cut to a limit. -/
def shortened (limit : Int) (s : String) : String := String.ofList (Text.shorten limit s.toList)

/-- A row about a part of a record's instruction, if the instruction has that part and it is not
blank. -/
def partRow (r : Log.Record) (title field : String) (form : String → String) : List (List String) :=
  match r.instruction.field? field with
  | none => []
  | some v => if v.isBlank then [] else [[title, escaped (form v.text)]]

/-- The text of a part of a record's instruction, empty if there is no such part. -/
def partText (r : Log.Record) (field : String) : String :=
  ((r.instruction.field? field).map Value.text).getD ""

/-- What follows the name of an attribute: its value, if there is one that is not blank. -/
def valueSuffix (r : Log.Record) : String :=
  match r.instruction.field? "propValue" with
  | none => ""
  | some v => if v.isBlank then "" else "=\x7b" ++ v.text ++ "\x7d"

/-- The row about a verdict, by its position counted from one. -/
def verdictRow (v : Verdict) (position : Nat) : List String :=
  ["Condition #" ++ toString position, v.mark ++ " " ++ escaped v.reason]

/-- The rows about a record, with cells that are markup. -/
def recordRows (r : Log.Record) : Except Failure (List (List String)) := do
  let number ← numberOf r
  let time ← timeOf r
  let color := (statusStyle r.status).1
  let replacement :=
    match r.instruction.field? "replacement" with
    | none => []
    | some v => [["Replacement", escaped v.text]]
  let error :=
    match given? r.error with
    | none => []
    | some e => [["Error", styled "red" (escaped e)]]
  pure
    ([["Project", escaped r.project], ["Module", escaped r.module],
        ["Instruction #", number], ["Timestamp", time],
        ["Status", styled color r.status.word.toUpper],
        ["Action", escaped (partText r "action")], ["Target Path", escaped (partText r "path")]]
      ++ partRow r "Content" "content" (shortened 100) ++ partRow r "Pattern" "pattern" id
      ++ replacement ++ partRow r "Component" "componentName" id
      ++ partRow r "Prop" "propName" (· ++ valueSuffix r)
      ++ ((r.conditions.getD []).zipIdx 1).map (fun (v, position) => verdictRow v position)
      ++ error)

/-- Prints the panel about a record. The hash in its title counts as markup. -/
def printRecord (r : Log.Record) : Job Unit := do
  let rows ← Job.ofExcept (recordRows r)
  Job.printMarkup (Printed.panelOf (styled "bold" ("Instruction Log: " ++ r.hash)) rows)

/-- The row about a record in a listing, with cells that are markup. -/
def recordRow (r : Log.Record) : Except Failure (List String) := do
  let number ← numberOf r
  let time ← timeOf r
  let (color, sign) := statusStyle r.status
  let error := ((given? r.error).map fun e => escaped (shortened 80 e)).getD ""
  pure
    [styled color sign, r.hash, escaped (r.project ++ " > " ++ r.module ++ " > #" ++ number), time,
      error]

/-- Prints a listing, of which only the first records are shown. -/
def printListing (limit : Nat) (rs : List Log.Record) : Job Unit := do
  let rows ← Job.ofExcept ((rs.take limit).mapM recordRow)
  let title := "Found " ++ toString rs.length ++ " log(s)"
  Job.printMarkup (Printed.tableOf title ["", "Hash", "Instruction", "Time", "Error"] rows)
  if limit < rs.length then
    Job.print [.plain ("... and " ++ toString (rs.length - limit) ++ " more logs")]
  Job.print [.plain "Use \"modforge logs <hash>\" to view details"]

/-- Removes old records. -/
def clearLog (s : Settings) (store : Log.Store) (days : Option Int) : Job Nat := do
  Job.print [.info "Clearing old logs..."]
  let now ← Job.time
  let removed ← Job.onDisk (store.prune (days.getD s.retentionDays) now)
  Job.print [.success ("Cleared " ++ toString removed ++ " old log(s)")]
  pure 0

/-- Whether a failure concerns one record of the log only. -/
def isRecordFailure : Failure → Bool
  | .log .. => true
  | _ => false

/-- Shows one record. -/
def showRecord (store : Log.Store) (hash : String) : Job Nat := do
  let found ← Job.catching isRecordFailure (Job.onDisk fun d => (store.get hash d, d))
  match found with
  | .error e => failWith e.message
  | .ok none => failWith ("Log not found: " ++ hash)
  | .ok (some r) =>
    printRecord r
    pure 0

/-- Lists the records that a query asks for. -/
def showList (s : Settings) (store : Log.Store) (q : Log.Query) : Job Nat := do
  let rs ← Job.onDisk fun d => (store.list q d, d)
  if rs.isEmpty then
    Job.print [.info "No logs found"]
    pure 0
  else
    printListing s.listLimit.toNat rs
    pure 0

/-- Runs the command that shows the log. -/
def runLogs (s : Settings) (x : LogsRequest) : Job Nat :=
  let store : Log.Store := ⟨s.logDirectory⟩
  if x.clears then clearLog s store x.days
  else
    match given? x.hash with
    | some hash => showRecord store hash
    | none =>
      showList s store
        { status := if x.onlyFailed then some .failed else none
          project := x.project
          module := x.module }

/-! ## The whole program -/

/-- The directory in the place of the log's own, if a command line names one. -/
def Invocation.logPath (home : Path) (x : Invocation) (s : Settings) : Job Path :=
  match given? x.logDirectory with
  | none => pure s.logDirectory
  | some directory =>
    Job.ofExcept
      ((Settings.expandHome home (Path.ofString directory)).mapError Failure.environment)

/-- Runs what a command line asks for. An environment that gives no settings ends the run with a
message, unless it asks for the directory of an unknown user. -/
def Invocation.run (around : Surroundings) (x : Invocation) : Job Nat := do
  match Settings.fromEnvironment around.home around.environment with
  | .error .unknownUser => throw (.environment .unknownUser)
  | .error fault => failWith ("Invalid configuration: " ++ fault.message)
  | .ok s =>
    let s := { s with logDirectory := ← x.logPath around.home s }
    match x.command with
    | .apply request => runApply around s request
    | .logs request => runLogs s request

end Scaffold.CommandLine
