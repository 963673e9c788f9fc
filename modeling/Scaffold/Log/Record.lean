import Scaffold.Digest.Md5
import Scaffold.Document.Depth
import Scaffold.Document.Pruned
import Scaffold.Schema.Reader
import Scaffold.Text.Integer
import Scaffold.Text.Utf8

/-!
# Log records

The record of one attempt to carry out an instruction. A record is known by a short hash of the
project, the module, the index of the instruction and the time, which also names the file that it is
kept in.
-/

namespace Scaffold

open Document Schema

/-- The outcome of one condition, with what was compared and found. -/
structure Verdict where
  passed : Bool
  reason : String
  deriving DecidableEq, Repr

namespace Verdict

/-- Reads a verdict. -/
def read : Reader Verdict :=
  record "ConditionResult" fun entries =>
    Verdict.mk
      <$> required entries (.single "passed") boolean
      <*> required entries (.single "reason") Schema.text

/-- A verdict as a document. -/
def toValue (v : Verdict) : Value :=
  Value.record [("passed", .bool v.passed), ("reason", .string v.reason)]

end Verdict

namespace Log

/-- How an attempt ended. -/
inductive Status
  | success
  | skipped
  | failed
  deriving DecidableEq, Repr

/-- The word for a status. -/
def Status.word : Status → String
  | .success => "success"
  | .skipped => "skipped"
  | .failed => "failed"

/-- The statuses by their words. -/
def Status.words : List (String × Status) :=
  [("success", .success), ("skipped", .skipped), ("failed", .failed)]

/-- The record of one attempt. -/
structure Record where
  hash : String
  timestamp : Int
  project : String
  module : String
  index : Nat
  instruction : Value
  status : Status
  error : Option String
  conditions : Option (List Verdict)
  deriving Repr

/-- The text that a record's hash is the digest of. -/
def hashKey (project module : String) (index timestamp : Int) : String :=
  project ++ "_" ++ module ++ "_" ++ toString index ++ "_" ++ toString timestamp

/-- The hash of a key: the first twelve digits of its digest. -/
def shortDigest (key : String) : String :=
  String.ofList ((Digest.Md5.hex (Text.Utf8.encode key.toList)).take 12)

/-- The hash of a record of an attempt, whose index is its place in a batch and whose time is the
clock's, so that neither is too long to be written. -/
def hashOf (project module : String) (index timestamp : Int) : String :=
  shortDigest (hashKey project module index timestamp)

/-- The key of a record as it is written out, unless one of its integers has too many digits. -/
def writtenKey (project module : String) (index timestamp : Int) :
    Except Text.Unwritable String := do
  let index ← Text.decimal index
  let timestamp ← Text.decimal timestamp
  pure (project ++ "_" ++ module ++ "_" ++ index ++ "_" ++ timestamp)

/-- The hash of a record whose index and time come from outside. -/
def writtenHash (project module : String) (index timestamp : Int) :
    Except Text.Unwritable String :=
  (writtenKey project module index timestamp).map shortDigest

namespace Record

/-- The step to what a map holds under a key: a number that is a machine word counts as one, every
other key by its text. -/
def keyStep : Scalar → Step
  | .string s => .field s
  | .bool b => .item (if b then 1 else 0)
  | .int n =>
    if fitsWord n then .item n
    else .field ((Text.decimal n).toOption.getD "<unprintable int object>")
  | key => .field key.shown

/-- Reads the key of a map, which has to be a text. -/
def readKey (key : Scalar) : Checked Scalar :=
  Scalar.string <$> ((Schema.text (.scalar key)).within (.field "[key]")).within (keyStep key)

/-- Reads the keys of a map of any values. -/
def readKeys : Entries → Checked (List (Scalar × Value))
  | [] => .valid []
  | (key, v) :: rest => (fun key entries => (key, v) :: entries) <$> readKey key <*> readKeys rest

/-- Reads a map of any values with texts as keys. -/
def readMap : Reader Value
  | .map entries => (fun pairs => .map (Table.ofPairs pairs)) <$> readKeys entries
  | _ => .fail .notMap

/-- Reads an index. -/
def readIndex : Reader Nat := fun v => Int.toNat <$> integerFrom 0 v

/-- Reads a record from its fields. -/
def readFields (entries : Entries) : Checked Record :=
  Record.mk
    <$> required entries (.single "hash") Schema.text
    <*> required entries (.single "timestamp") integer
    <*> required entries ⟨"projectName", "project_name"⟩ Schema.text
    <*> required entries ⟨"moduleName", "module_name"⟩ Schema.text
    <*> required entries ⟨"instructionIndex", "instruction_index"⟩ readIndex
    <*> optional entries ⟨"instruction", "instruction_snapshot"⟩ (.map []) readMap
    <*> required entries (.single "status") (choice Status.words)
    <*> optional entries (.single "error") none (nullable Schema.text)
    <*> optional entries ⟨"conditions", "condition_results"⟩ none
      (nullable (list .notList Verdict.read))

/-- The name under which problems of a record are reported. -/
def recordName : String := "InstructionLog"

/-- Reads a record. -/
def read : Reader Record := record recordName readFields

/-- The fields of a record as a document. -/
def fields (r : Record) : List (String × Value) :=
  [("hash", .string r.hash), ("timestamp", .int r.timestamp), ("projectName", .string r.project),
    ("moduleName", .string r.module), ("instructionIndex", .int r.index),
    ("instruction", r.instruction), ("status", .string r.status.word),
    ("error", .string? r.error),
    ("conditions", (r.conditions.map fun vs => Value.list (vs.map Verdict.toValue)).getD .null)]

/-- A record as a document, with all its fields. -/
def toValue (r : Record) : Value := Value.record r.fields

/-- How deep the instruction of a record may be nested when the record becomes a document. -/
def maxDepth : Nat := 256

/-- Whether a record can become a document. -/
def isShallow (r : Record) : Bool := r.instruction.depth ≤ maxDepth

/-- A record as it is stored: without the fields that have no value. -/
def stored (r : Record) : Value := Value.prunedRecord r.fields

/-- The record of an attempt at the given time. An index below zero names no instruction. -/
def create (project module : String) (index : Int) (instruction : Value) (status : Status)
    (error : Option String) (conditions : Option (List Verdict)) (timestamp : Int) :
    Checked Record :=
  if index < 0 then .invalid [⟨.tooSmall 0, [.field "instruction_index"]⟩]
  else
    .valid
      { hash := hashOf project module index timestamp
        timestamp, project, module, index := index.toNat, instruction, status, error, conditions }

end Record

/-- A record as it is proposed from outside, with parts that have still to be read. -/
structure Draft where
  project : String
  module : String
  index : Int
  instruction : Value
  status : Value
  error : Value
  conditions : Value

/-- The record of a draft at the given time, if it can be hashed. -/
def Draft.record (x : Draft) (timestamp : Int) : Except Text.Unwritable (Checked Record) :=
  (writtenHash x.project x.module x.index timestamp).map fun hash =>
    Record.read
      (Value.record
        [("hash", .string hash), ("timestamp", .int timestamp), ("project_name", .string x.project),
          ("module_name", .string x.module), ("instruction_index", .int x.index),
          ("instruction_snapshot", x.instruction), ("status", x.status), ("error", x.error),
          ("condition_results", x.conditions)])

end Log

end Scaffold
