import Scaffold.Disk.Path
import Scaffold.Schema.Reader

/-!
# The context of a module

What the instructions of one module share: which modules are selected, where the project is, and the
names that the log will carry.
-/

namespace Scaffold

open Document Schema

/-- Reads a path. -/
def Path.read : Reader Path
  | .scalar (.string s) => .valid (Path.ofString s)
  | _ => .fail .notPath

/-- A path as a document. -/
def Path.toValue (p : Path) : Value := .string p.text

/-- What the instructions of one module share. -/
structure Context where
  selected : List String
  root : Path
  project : String
  module : String
  verbose : Bool
  deriving DecidableEq, Repr

namespace Context

/-- Where a path of the catalog leads. -/
def resolve (c : Context) (relative : String) : Path := c.root.join (Path.ofString relative)

/-- A set of names, written in order. -/
def sortedNames (names : List String) : List String :=
  names.eraseDups.mergeSort fun a b => a ≤ b

/-- Reads a context from its fields. -/
def readFields (entries : Entries) : Checked Context :=
  Context.mk
    <$> optional entries (.single "selected_modules") [] (list .notSet Schema.text)
    <*> required entries (.single "project_root") Path.read
    <*> required entries (.single "project_name") Schema.text
    <*> required entries (.single "module_name") Schema.text
    <*> optional entries (.single "verbose") false boolean

/-- Reads a context. -/
def read : Reader Context := record "ExecutionContext" readFields

/-- A context as a document. -/
def toValue (c : Context) : Value :=
  Value.record
    [("selected_modules", .list ((sortedNames c.selected).map Value.string)),
      ("project_root", c.root.toValue), ("project_name", .string c.project),
      ("module_name", .string c.module), ("verbose", .bool c.verbose)]

end Context

end Scaffold
