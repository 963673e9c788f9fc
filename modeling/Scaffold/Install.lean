import Scaffold.Catalog.Source
import Scaffold.Execution.Batch
import Scaffold.Resolution.Basic
import Scaffold.Settings

/-!
# Installation

Installing modules into a project: the instructions of each module are read from the project and
carried out, one module after another, and in the end the directory of the catalogs is removed. A
module whose instructions cannot be read is passed over, and an installation that is not stopped by
the disk itself always comes to its report.
-/

namespace Scaffold

open Console Document

/-- The line about a module to be installed, by its position counted from one. -/
def Module.line (position : Nat) (m : Module) : Except Text.Unwritable String :=
  let start := "  " ++ toString position ++ ". " ++ m.name ++ ": " ++ m.description
  if m.priority = 0 then .ok start
  else (Text.decimal m.priority).map fun written => start ++ " [Priority: " ++ written ++ "]"

/-- A heading and a line for each of some names, or nothing if there are none. -/
def namesUnder (heading : Printed) (mark : String) (names : List String) : List Printed :=
  if names = [] then []
  else heading :: names.map fun name => .plain ("  " ++ mark ++ " " ++ name)

namespace Resolution

/-- What is printed about the parts of a resolution that ask for attention. -/
def remarks (r : Resolution) : List Printed :=
  namesUnder (.warning "The following modules are not offered by this template:") "?" r.unknown
    ++ namesUnder (.info "The following modules were automatically included:") "+" r.included
    ++ namesUnder (.warning "The following modules will be ignored due to conflicts:") "-"
      r.excluded
    ++ r.ambiguities.map fun a => .warning a.message

/-- Prints the modules to be installed, each on a line of its own. -/
def printPlan (hasSelection : Bool) (r : Resolution) : Job Unit := do
  if r.isEmpty then
    if hasSelection then
      Job.print [.warning "All selected modules were excluded due to conflicts"]
  else
    Job.print [.plain "Modules to be installed (in order):"]
    (r.modules.zipIdx 1).forM fun (m, position) => do
      let line ← Job.ofExcept ((m.line position).mapError Failure.unwritable)
      Job.print [.plain line]

end Resolution

/-- Resolves a selection from the modules of a template and prints what comes of it. -/
def Template.resolve (t : Template) (selected : List Choice) : Job Resolution := do
  let r := Resolution.ofSelection selected t.modules
  Job.print r.remarks
  r.printPlan (!selected.isEmpty)
  pure r

/-- What became of one module. -/
structure ModuleReport where
  name : String
  isLoaded : Bool
  error : Option String
  summary : Summary
  deriving DecidableEq, Repr

/-- A module's report as a document. -/
def ModuleReport.toValue (r : ModuleReport) : Value :=
  .record
    [("name", .string r.name), ("loaded", .bool r.isLoaded), ("error", .string? r.error),
      ("summary", r.summary.toValue)]

/-- What became of all modules. -/
structure InstallReport where
  modules : List ModuleReport
  deriving DecidableEq, Repr

namespace InstallReport

/-- The sum of a count over all modules. -/
def total (count : Summary → Nat) (r : InstallReport) : Nat :=
  r.modules.foldr (fun m n => count m.summary + n) 0

/-- The number of instructions carried out. -/
def executed (r : InstallReport) : Nat := r.total Summary.executed

/-- The number of instructions skipped. -/
def skipped (r : InstallReport) : Nat := r.total Summary.skipped

/-- The number of instructions that failed. -/
def failed (r : InstallReport) : Nat := r.total Summary.failed

/-- The names of the modules whose instructions could not be read. -/
def unloaded (r : InstallReport) : List String :=
  (r.modules.filter fun m => !m.isLoaded).map ModuleReport.name

end InstallReport

/-- Whether a failure concerns the catalog of one module only. -/
def Failure.isCatalog : Failure → Bool
  | .catalog .. => true
  | _ => false

/-- A project that modules are installed into. -/
structure Project where
  root : Path
  name : String
  deriving DecidableEq, Repr

/-- An installation: the room that the readers of its catalogs have, its settings, its project, and
the names of all its modules. -/
structure Installation where
  room : Room
  settings : Settings
  project : Project
  selected : List String
  deriving DecidableEq, Repr

namespace Installation

/-- The log of an installation. -/
def log (x : Installation) : Log.Store := ⟨x.settings.logDirectory⟩

/-- The context of a module. -/
def context (x : Installation) (m : Module) : Context where
  selected := x.selected
  root := x.project.root
  project := x.project.name
  module := m.name
  verbose := x.settings.verbose

/-- What is printed at the end of a module. -/
def farewell (m : Module) (s : Summary) : Printed :=
  if s.failed = 0 then .success ("Module " ++ m.name ++ " installed successfully")
  else
    .warning
      ("Module " ++ m.name ++ " installed with " ++ toString s.failed ++ " failed instruction(s)")

/-- Installs a module. -/
def installModule (x : Installation) (m : Module) : Job ModuleReport := do
  Job.print [.info ("Installing module: " ++ m.name)]
  let catalog ← Job.catching Failure.isCatalog
    (Job.onDisk fun d => (ModuleInstructions.load x.room x.project.root m d, d))
  match catalog with
  | .error e =>
    Job.print
      [.warning ("Module configuration not usable, skipping " ++ m.name ++ ": " ++ e.message)]
    pure ⟨m.name, false, some e.message, .zero⟩
  | .ok catalog =>
    let summary ← applyAll (some x.log) (x.context m) catalog.instructions
    Job.print [farewell m summary]
    pure ⟨m.name, true, none, summary⟩

/-- Installs modules in order. -/
def installModules (x : Installation) : List Module → Job (List ModuleReport)
  | [] => pure []
  | m :: rest => do
    let report ← x.installModule m
    let later ← x.installModules rest
    pure (report :: later)

end Installation

/-- Where the catalogs of a project are. -/
def Settings.catalogDirectory (s : Settings) (root : Path) : Path :=
  root.join (Path.ofString s.modulesDirectory)

/-- Removes the directory of the catalogs from a project, and tells whether it was removed. -/
def Settings.cleanUp (s : Settings) (root : Path) : Job Bool := do
  let p := s.catalogDirectory root
  let there ← Job.onDisk fun d => ((d.holds p).mapError Failure.disk, d)
  if there then
    let removed ← Job.onDisk fun d =>
      let (result, d) := d.removeTree p
      (.ok result, d)
    match removed with
    | .error e =>
      Job.print [.warning ("Failed to clean up " ++ s.modulesDirectory ++ ": " ++ e.message)]
      pure false
    | .ok () =>
      Job.print [.success "Cleaned up modules configuration"]
      pure true
  else pure false

/-- Installs modules, in the given order, into a project. -/
def install (room : Room) (s : Settings) (project : Project) (modules : List Module) :
    Job InstallReport := do
  Job.print [.info "Processing modules..."]
  let reports ← Installation.installModules ⟨room, s, project, modules.map Module.name⟩ modules
  if s.removesModules then
    let _ ← s.cleanUp project.root
  pure ⟨reports⟩

end Scaffold
