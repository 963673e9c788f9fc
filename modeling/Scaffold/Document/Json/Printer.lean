import Scaffold.Document.Value

/-!
# Printing JSON

Two forms of a document: on one line without spaces, and laid out over lines with two spaces for
each level. Both escape the quote, the backslash and the control characters and nothing else.
-/

namespace Scaffold.Document.Json

open Scaffold.Number

/-- How a character is written inside quotes. -/
def escape (c : Char) : List Char :=
  if c = '"' then ['\\', '"']
  else if c = '\\' then ['\\', '\\']
  else if c = '\n' then ['\\', 'n']
  else if c = '\r' then ['\\', 'r']
  else if c = '\t' then ['\\', 't']
  else if c = '\x08' then ['\\', 'b']
  else if c = '\x0c' then ['\\', 'f']
  else if c.toNat < 32 then '\\' :: 'u' :: Text.hexDigits 4 c.toNat
  else [c]

/-- A text between quotes. -/
def printText (s : String) : List Char := '"' :: s.toList.flatMap escape ++ ['"']

/-- A scalar. What JSON has no form for is written as a text, and an infinite or undefined number as
the absent value. -/
def printScalar : Scalar → List Char
  | .null => "null".toList
  | .bool b => (if b then "true" else "false").toList
  | .int n => (toString n).toList
  | .float (.finite negative mantissa exponent) =>
    (Binary64.finite negative mantissa exponent).render Layout.stored "" ""
  | .float _ => "null".toList
  | s => printText s.text

/-- A key of a map. -/
def printKey (k : Scalar) : List Char := printText k.text

mutual

/-- A document on one line. -/
def compact : Value → List Char
  | .scalar s => printScalar s
  | .list items => '[' :: compactItems items ++ [']']
  | .map entries => '{' :: compactEntries entries ++ ['}']
  | .set items => '[' :: [','].intercalate (items.map printScalar) ++ [']']

/-- The items of a list on one line. -/
def compactItems : List Value → List Char
  | [] => []
  | [v] => compact v
  | v :: rest => compact v ++ ',' :: compactItems rest

/-- The entries of a map on one line. -/
def compactEntries : List (Scalar × Value) → List Char
  | [] => []
  | [(k, v)] => printKey k ++ ':' :: compact v
  | (k, v) :: rest => printKey k ++ ':' :: compact v ++ ',' :: compactEntries rest

end

/-- A new line at a level of nesting. -/
def newLine (level : Nat) : List Char := '\n' :: List.replicate (2 * level) ' '

mutual

/-- A document over lines, its own parts at `level + 1`. -/
def indented (level : Nat) : Value → List Char
  | .scalar s => printScalar s
  | .list [] => ['[', ']']
  | .list (v :: rest) => '[' :: indentedItems (level + 1) (v :: rest) ++ newLine level ++ [']']
  | .map [] => ['{', '}']
  | .map (e :: rest) => '{' :: indentedEntries (level + 1) (e :: rest) ++ newLine level ++ ['}']
  | .set [] => ['[', ']']
  | .set (s :: rest) =>
    let lines := (s :: rest).map fun s => newLine (level + 1) ++ printScalar s
    '[' :: [','].intercalate lines ++ newLine level ++ [']']

/-- The items of a list over lines. -/
def indentedItems (level : Nat) : List Value → List Char
  | [] => []
  | [v] => newLine level ++ indented level v
  | v :: rest => newLine level ++ indented level v ++ ',' :: indentedItems level rest

/-- The entries of a map over lines. -/
def indentedEntries (level : Nat) : List (Scalar × Value) → List Char
  | [] => []
  | [(k, v)] => newLine level ++ printKey k ++ ':' :: ' ' :: indented level v
  | (k, v) :: rest =>
    newLine level ++ printKey k ++ ':' :: ' ' :: indented level v
      ++ ',' :: indentedEntries level rest

end

/-- A document as it is stored in a file. -/
def stored (v : Value) : List Char := indented 0 v

end Scaffold.Document.Json
