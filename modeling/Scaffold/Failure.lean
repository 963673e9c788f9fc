import Scaffold.Calendar
import Scaffold.Catalog.Instruction
import Scaffold.Console.Markup
import Scaffold.Disk.Tree
import Scaffold.Document.Json.Reader
import Scaffold.Document.Yaml.Fault
import Scaffold.Schema.Checked
import Scaffold.Settings

/-!
# Failures

Everything that can stop a job, as causes. A failure of an instruction or of the log concerns one
instruction only, and a batch goes on after it; a failure of a catalog concerns one module; all
others end the job.
-/

namespace Scaffold

open Document Schema

/-- Why a catalog gives nothing. -/
inductive CatalogCause
  | notFound
  | unreadable (e : DiskError)
  | malformedJson (fault : Json.Fault) (position line column : Nat)
  | malformedYaml
  | notCategories
  | notTemplates (category : Scalar)
  | invalidTemplate (problems : List Problem)
  | notInstructions
  | invalidInstructions (problems : List Problem)

/-- Why an instruction was not carried out. -/
inductive InstructionCause
  | lacking (fields : List NeededField)
  | fileNotFound
  | unreadable (e : ReadError)
  | unwritable (e : DiskError)

/-- Why a log record could not be kept or read. -/
inductive LogCause
  | unwritable (e : DiskError)
  | undecodable (fault : Text.Utf8.Fault)
  | invalid (problems : List Problem)

/-- What stops a job. -/
inductive Failure
  | invalid (record : String) (origin : Origin) (problems : List Problem)
  | catalog (source : String) (cause : CatalogCause)
  | instruction (action : Action) (path : String) (cause : InstructionCause)
  | log (path : Path) (cause : LogCause)
  | environment (fault : Settings.EnvironmentFault)
  | disk (e : DiskError)
  | undecodable (fault : Text.Utf8.Fault)
  | integerTooLong (digits : Nat)
  | unwritable (e : Text.Unwritable)
  | tooDeepToRead (container : Json.Container)
  | tooDeepToFollow
  | unreadableDocument (fault : Yaml.Fault)
  | unknownStatus (written : String)
  | calendar (fault : Calendar.Fault)
  | markup (fault : Console.Markup.Fault)
  | tooDeep
  | tooDeepToStore

/-- The cause of a catalog's failure in words. -/
def CatalogCause.message : CatalogCause → String
  | .notFound => "file not found"
  | .unreadable e => "could not be read: " ++ e.message
  | .malformedJson fault position line column =>
    "is not valid: " ++ Json.faultAt fault position line column
  | .malformedYaml => "is not valid"
  | .notCategories => "catalog must map categories to template lists"
  | .notTemplates category => "category " ++ category.shown ++ " is not a list"
  | .invalidTemplate problems =>
    "invalid template definition: " ++ countMessage problems "Template"
  | .notInstructions => "instruction catalog must be an object"
  | .invalidInstructions problems =>
    "invalid instruction catalog: " ++ countMessage problems "ModuleInstructions"

/-- The cause of an instruction's failure in words. -/
def InstructionCause.message : InstructionCause → String
  | .lacking fields =>
    "missing required field(s): " ++ ", ".intercalate (fields.map NeededField.word)
  | .fileNotFound => "file not found"
  | .unreadable e => e.message
  | .unwritable e => e.message

/-- The cause of a log's failure in words. -/
def LogCause.message : LogCause → String
  | .unwritable e => "could not write instruction log: " ++ e.message
  | .undecodable fault => "not a valid instruction log: " ++ fault.message
  | .invalid problems =>
    "not a valid instruction log: " ++ countMessage problems "InstructionLog"

/-- That a list or map lies too deep to be read, in words. -/
def tooDeepMessage (container : Json.Container) : String :=
  let word :=
    match container with
    | .list => "array"
    | .map => "object"
  "maximum recursion depth exceeded while decoding a JSON " ++ word ++ " from a unicode string"

/-- A failure in words. -/
def Failure.message : Failure → String
  | .invalid record _ problems => countMessage problems record
  | .catalog source cause => source ++ ": " ++ cause.message
  | .instruction action path cause => action.word ++ " " ++ path ++ ": " ++ cause.message
  | .log path cause => path.text ++ ": " ++ cause.message
  | .environment fault => fault.message
  | .disk e => e.message
  | .undecodable fault => fault.message
  | .integerTooLong digits => Text.tooManyDigits digits
  | .unwritable e => e.message
  | .tooDeepToRead container => tooDeepMessage container
  | .tooDeepToFollow => "maximum recursion depth exceeded"
  | .unreadableDocument fault => fault.message
  | .unknownStatus written => Text.quoted written ++ " is not a valid LogStatus"
  | .calendar fault => fault.message
  | .markup fault => fault.message
  | .tooDeep => "Maximum serialization depth exceeded"
  | .tooDeepToStore =>
    "Error serializing to JSON: ValueError: Maximum serialization depth exceeded"

/-- The problems of a document that a failure stems from, with the origin of the document. -/
def Failure.problems? : Failure → Option (Origin × List Problem)
  | .invalid _ origin problems => some (origin, problems)
  | .catalog _ (.invalidTemplate problems) => some (.value, problems)
  | .catalog _ (.invalidInstructions problems) => some (.value, problems)
  | .log _ (.invalid problems) => some (.json, problems)
  | .environment (.invalid problems) => some (.value, problems)
  | _ => none

/-- The value of a checked document, or the failure of its record. -/
def Schema.Checked.orFail {α : Type} (record : String) (origin : Origin) :
    Checked α → Except Failure α
  | .valid a => .ok a
  | .invalid problems => .error (.invalid record origin problems)

end Scaffold
