import Scaffold.Catalog.Context
import Scaffold.Text.Lowercase

/-!
# Settings

The settings of the program: where the log is kept and for how long, which directory of a project
holds the catalogs and whether it is removed after an installation, and how much is shown. They come
from a document, from a stored file, or from environment variables.
-/

namespace Scaffold

open Document Schema

/-- The settings. -/
structure Settings where
  logDirectory : Path
  retentionDays : Int
  modulesDirectory : String
  removesModules : Bool
  verbose : Bool
  listLimit : Int
  deriving DecidableEq, Repr

namespace Settings

/-- The directory of the log, unless another one is set: a hidden directory of the user's own. -/
def defaultLogDirectory (home : Path) : Path := home.join [".modforge-logs"]

/-- The settings when nothing is set. -/
def default (home : Path) : Settings where
  logDirectory := defaultLogDirectory home
  retentionDays := 30
  modulesDirectory := ".modules"
  removesModules := true
  verbose := false
  listLimit := 20

/-- Reads settings from their fields. -/
def readFields (home : Path) (entries : Entries) : Checked Settings :=
  let d := default home
  Settings.mk
    <$> optional entries (.single "log_dir") d.logDirectory Path.read
    <*> optional entries (.single "log_retention_days") d.retentionDays (integerFrom 1)
    <*> optional entries (.single "modules_dir") d.modulesDirectory Schema.text
    <*> optional entries (.single "cleanup_modules_dir") d.removesModules boolean
    <*> optional entries (.single "verbose") d.verbose boolean
    <*> optional entries (.single "list_limit") d.listLimit (integerFrom 1)

/-- The name under which problems of settings are reported. -/
def recordName : String := "Config"

/-- Reads settings. -/
def read (home : Path) : Reader Settings := record recordName (readFields home)

/-- Settings as a document. -/
def toValue (s : Settings) : Value :=
  Value.record
    [("log_dir", s.logDirectory.toValue), ("log_retention_days", .int s.retentionDays),
      ("modules_dir", .string s.modulesDirectory), ("cleanup_modules_dir", .bool s.removesModules),
      ("verbose", .bool s.verbose), ("list_limit", .int s.listLimit)]

/-- Why the environment gives no settings: a number of days is not written as one, a path starts in
the directory of another user, or the settings have problems. -/
inductive EnvironmentFault
  | notDays (name written : String)
  | unknownUser
  | invalid (problems : List Problem)
  deriving DecidableEq, Repr

/-- The field that a problem is in. -/
def fieldOf (p : Problem) : Option String :=
  match p.place with
  | .field name :: _ => some name
  | .item index :: _ => some (toString index)
  | [] => none

/-- What a fault of the environment concerns. -/
def EnvironmentFault.message : EnvironmentFault → String
  | .notDays name written =>
    name ++ ": expected a whole number of days, got " ++ Text.quoted written
  | .unknownUser => "Could not determine home directory."
  | .invalid problems =>
    let fields := problems.filterMap fieldOf
    (if fields = [] then "config" else ", ".intercalate fields)
      ++ ": invalid value from environment"

/-- The words that switch on what a variable asks about. -/
def truthyWords : List String := ["1", "true", "yes", "on"]

/-- Whether a variable's text switches something on. -/
def isTruthy (s : String) : Bool :=
  truthyWords.contains (String.ofList (Text.lower (Text.trim s.toList)))

/-- A path in which a leading tilde stands for the user's own directory. A name after the tilde asks
for the directory of another user, and none is known. -/
def expandHome (home p : Path) : Except EnvironmentFault Path :=
  match p with
  | ⟨.here, first :: rest⟩ =>
    if first = "~" then .ok (home.join rest)
    else if first.toList.head? = some '~' then .error .unknownUser
    else .ok p
  | _ => .ok p

/-- A variable that is set to something. -/
def setting? (environment : Table String String) (name : String) : Option String :=
  (Table.find? environment name).filter (· ≠ "")

/-- The number of days that a variable gives. -/
def daysOf (name written : String) : Except EnvironmentFault Int :=
  match Text.integer? written.toList with
  | some n => .ok n
  | none => .error (.notDays name written)

/-- The settings that environment variables give. -/
def fromEnvironment (home : Path) (environment : Table String String) :
    Except EnvironmentFault Settings := do
  let setting? := setting? environment
  let directory ← (setting? "MODFORGE_LOG_DIR").mapM fun s => expandHome home (Path.ofString s)
  let days ← (setting? "MODFORGE_LOG_RETENTION_DAYS").mapM (daysOf "MODFORGE_LOG_RETENTION_DAYS")
  let field (name : String) (v : Option Value) : List (String × Value) :=
    (v.map fun v => (name, v)).toList
  let fields :=
    field "log_dir" (directory.map Path.toValue)
      ++ field "log_retention_days" (days.map Value.int)
      ++ field "verbose" ((setting? "MODFORGE_VERBOSE").map fun s => Value.bool (isTruthy s))
      ++ field "modules_dir" ((setting? "MODFORGE_MODULES_DIR").map Value.string)
  match read home (Value.record fields) with
  | .valid s => .ok s
  | .invalid problems => .error (.invalid problems)

end Settings

end Scaffold
