import Scaffold.Document.Value

/-!
# Documents without absent values

The form in which records are kept: a field whose value is absent is left out.
-/

namespace Scaffold.Document.Value

/-- The fields that have a value. -/
def present (fields : List (String × Value)) : List (String × Value) :=
  fields.filter fun field => !field.2.isNull

/-- A map with those of the given fields that have a value. -/
def prunedRecord (fields : List (String × Value)) : Value := record (present fields)

end Scaffold.Document.Value
