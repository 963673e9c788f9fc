import Scaffold.Document.Value

/-!
# The depth of documents

How deep the lists and maps of a document are nested.
-/

namespace Scaffold.Document.Value

mutual

/-- The depth of a value: one for a scalar, and one more than its deepest part for a list, a map or a
set. -/
def depth : Value → Nat
  | .scalar _ => 1
  | .list items => depthOfItems items + 1
  | .map entries => depthOfEntries entries + 1
  | .set [] => 1
  | .set _ => 2

/-- The depth of the deepest item of a list. -/
def depthOfItems : List Value → Nat
  | [] => 0
  | v :: rest => max (depth v) (depthOfItems rest)

/-- The depth of the deepest value of a map. -/
def depthOfEntries : List (Scalar × Value) → Nat
  | [] => 0
  | (_, v) :: rest => max (depth v) (depthOfEntries rest)

end

end Scaffold.Document.Value
