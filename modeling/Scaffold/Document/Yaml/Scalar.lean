import Scaffold.Document.Yaml.Number
import Scaffold.Document.Yaml.Time
import Scaffold.Text.Base64

/-!
# Scalars of YAML

What a text stands for. A plain text is taken for what its form tells; a tag takes the place of the
form, and the text has to fit it.
-/

namespace Scaffold.Document.Yaml

open Scaffold.Text

/-- The full name of a standard tag. -/
def standardTag (name : String) : String := "tag:yaml.org,2002:" ++ name

/-- The standard tags by their names. -/
def standardKinds : List (String × Kind) :=
  [("null", .null), ("bool", .bool), ("int", .int), ("float", .float), ("str", .str),
    ("timestamp", .time), ("binary", .binary), ("merge", .merge), ("value", .whole),
    ("seq", .list), ("map", .map), ("omap", .pairs), ("pairs", .pairs), ("set", .set)]

/-- What a tag says that a node is. -/
def Kind.ofTag (tag : String) : Kind :=
  ((standardKinds.find? fun entry => standardTag entry.1 = tag).map Prod.snd).getD .unknown

/-- What a plain text is taken for. A line end after a form is not looked at. -/
def Kind.ofForm (text : String) : Kind :=
  let t := withoutFinalBreak text.toList
  let word := String.ofList t
  if text = "" || nullWords.contains word then .null
  else if boolWords.contains word then .bool
  else if word = "<<" then .merge
  else if word = "=" then .whole
  else if ["!", "&", "*"].contains word then .unknown
  else if isFloat t then .float
  else if isInteger t then .int
  else if isTime t then .time
  else .str

/-- The words for truth values, in lower case. -/
def truthWords : List (String × Bool) :=
  [("yes", true), ("no", false), ("true", true), ("false", false), ("on", true), ("off", false)]

/-- The truth value that a text stands for. -/
def readTruthValue (t : List Char) : Except Fault Bool :=
  let word := String.ofList (lower t)
  match truthWords.lookup word with
  | some b => .ok b
  | none => .error (.noTruthValue word)

/-- A result whose fault is the reason to refuse a text. -/
def orFault {α : Type} : Except Fault α → Except Refusal α :=
  Except.mapError Refusal.fault

/-- The scalar that a text stands for when it is taken for a kind. -/
def Kind.read (kind : Kind) (text : String) : Except Refusal Scalar :=
  let t := text.toList
  match kind with
  | .null => .ok .null
  | .bool => orFault ((readTruthValue t).map .bool)
  | .int => orFault ((readInteger t).map .int)
  | .float => orFault ((readFloat t).map .float)
  | .str => .ok (.string text)
  | .time => orFault (readTime t)
  | .binary => orMalformed ((Base64.bytes? t).map .bytes)
  | _ => .error .malformed

end Scaffold.Document.Yaml
