import Scaffold.Document.Value
import Scaffold.Schema.Checked
import Scaffold.Text.LenientInteger
import Scaffold.Text.Utf8

/-!
# Reading the parts of a document

Readers of single values, of lists, and of the fields of a record. They are lenient where no meaning
is lost: an integer may be written as a text or as a number with a zero fraction, a truth value as
one of the usual words, a text as the bytes of its encoding, and a list as a set.
-/

namespace Scaffold.Schema

open Scaffold.Document Scaffold.Number

/-- A reader of a part of a document. -/
abbrev Reader (α : Type) : Type := Value → Checked α

/-- The text that is encoded as bytes, if there is one. -/
def encodedText? (bytes : List UInt8) : Option String :=
  (Text.Utf8.decode bytes).toOption.map String.ofList

/-- Reads a text. -/
def text : Reader String
  | .scalar (.string s) => .valid s
  | .scalar (.bytes b) => ((encodedText? b).map .valid).getD (.fail .undecodableText)
  | _ => .fail .notText

/-- Reads a text of at least one character. -/
def nonEmptyText : Reader String := fun v =>
  (text v).andThen fun s => if s = "" then .fail (.textTooShort 1) else .valid s

/-- Reads an integer that is written as a text. -/
def writtenInteger (s : String) : Checked Int :=
  match Text.LenientInteger.read s.toList with
  | .value n => .valid n
  | .tooManyDigits => .fail .oversizedInteger
  | .notInteger => .fail .unreadableInteger

/-- Reads an integer. -/
def integer : Reader Int
  | .scalar (.int n) => .valid n
  | .scalar (.bool b) => .valid (if b then 1 else 0)
  | .scalar (.string s) => writtenInteger s
  | .scalar (.bytes b) => ((encodedText? b).map writtenInteger).getD (.fail .unreadableInteger)
  | .scalar (.float x) =>
    match x with
    | .finite _ _ _ =>
      match x.toInt? with
      | none => .fail .fractional
      | some n => if twoTo 63 ≤ n.natAbs then .fail .oversizedInteger else .valid n
    | _ => .fail .notFinite
  | _ => .fail .notInteger

/-- Reads an integer that is not below a bound. -/
def integerFrom (least : Int) : Reader Int := fun v =>
  (integer v).andThen fun n => if n < least then .fail (.tooSmall least) else .valid n

/-- The words for truth values, in lower case. -/
def booleanWords : List (String × Bool) :=
  [("1", true), ("t", true), ("true", true), ("y", true), ("yes", true), ("on", true),
    ("0", false), ("f", false), ("false", false), ("n", false), ("no", false), ("off", false)]

/-- Reads a truth value that is written as a number: one or zero. -/
def numericBoolean (n : Int) : Checked Bool :=
  if n = 0 then .valid false else if n = 1 then .valid true else .fail .unreadableBoolean

/-- Whether an integer fits a machine word of 64 bits, one of which is its sign. -/
def fitsWord (n : Int) : Bool := -Int.ofNat (twoTo 63) ≤ n && n < Int.ofNat (twoTo 63)

/-- Reads a truth value that is written as a text: one of the words for it in any case. -/
def writtenBoolean (s : String) : Checked Bool :=
  match Table.find? booleanWords s.toLower with
  | some b => .valid b
  | none => .fail .unreadableBoolean

/-- Reads a truth value. A number that is no machine word is not taken for a truth value at all. -/
def boolean : Reader Bool
  | .scalar (.bool b) => .valid b
  | .scalar (.int n) => if fitsWord n then numericBoolean n else .fail .notBoolean
  | .scalar (.float x) =>
    match x.toInt? with
    | some n => if n.natAbs < twoTo 63 then numericBoolean n else .fail .notBoolean
    | none => .fail .notBoolean
  | .scalar (.string s) => writtenBoolean s
  | .scalar (.bytes b) => ((encodedText? b).map writtenBoolean).getD (.fail .unreadableBoolean)
  | _ => .fail .notBoolean

/-- Reads one of a few words, each of which stands for a value. -/
def choice {α : Type} (choices : List (String × α)) : Reader α := fun v =>
  match (text v).toOption.bind (Table.find? choices) with
  | some a => .valid a
  | none => .fail (.notChoice (choices.map (·.1)))

/-- Reads a list of parts of one kind, which may be given as a set; anything else has the given
cause. -/
def list {α : Type} (otherwise : Cause) (part : Reader α) : Reader (List α)
  | .list items => Checked.items part 0 items
  | .set items => Checked.items part 0 (items.map .scalar)
  | _ => .fail otherwise

/-- Reads a part that may be absent. -/
def nullable {α : Type} (part : Reader α) : Reader (Option α) := fun v =>
  if v.isNull then .valid none else some <$> part v

/-- Reads a list in whose place the absent value stands for no parts. -/
def nullableList {α : Type} (otherwise : Cause) (part : Reader α) : Reader (List α) := fun v =>
  if v.isNull then .valid [] else list otherwise part v

/-- The two spellings of a field: the one that documents are written in, and a second one that is
read as well. -/
structure FieldName where
  written : String
  second : String

/-- A field of one spelling. -/
def FieldName.single (name : String) : FieldName := ⟨name, name⟩

/-- The value that a map gives for a field, with the spelling found. The written spelling prevails,
even if its value is absent. -/
def FieldName.given? (entries : Entries) (name : FieldName) : Option (String × Value) :=
  match Table.find? entries (.string name.written) with
  | some v => some (name.written, v)
  | none =>
    (Table.find? entries (.string name.second)).map fun v => (name.second, v)

/-- Reads a field that has to be given. -/
def required {α : Type} (entries : Entries) (name : FieldName) (part : Reader α) : Checked α :=
  match name.given? entries with
  | some (spelling, v) => (part v).within (.field spelling)
  | none => .invalid [⟨.missing, [.field name.written]⟩]

/-- Reads a field that stands for `default` if it is not given. -/
def optional {α : Type} (entries : Entries) (name : FieldName) (default : α) (part : Reader α) :
    Checked α :=
  match name.given? entries with
  | some (spelling, v) => (part v).within (.field spelling)
  | none => .valid default

/-- Reads a record of the given name from its fields. -/
def record {α : Type} (name : String) (fields : Entries → Checked α) : Reader α
  | .map entries => fields entries
  | _ => .fail (.notRecord name)

end Scaffold.Schema
