import Scaffold.Document.Json.Reader
import Scaffold.Schema.Reader

/-!
# Reading records from JSON text

Records that are kept in files are read from their text in one go: a text that is no document is one
problem of the whole record.
-/

namespace Scaffold.Schema

open Document

/-- How deep the documents of records may be nested. -/
def maxDepth : Nat := 200

/-- Reads a part from the JSON text of its document. -/
def Reader.fromText {α : Type} (part : Reader α) (t : List Char) : Checked α :=
  match Json.readWithin (.filled maxDepth) t with
  | .error _ => .fail .unreadable
  | .ok v => part v

end Scaffold.Schema
