import Scaffold.Text.Blank
import Scaffold.Text.Lines
import Scaffold.Text.Search

/-!
# Edits by lines and patterns

The edits that put text into a text, or other text in the place of a pattern. Each edit is a
function on texts; one that looks for a pattern has no result if the pattern is not there.
-/

namespace Scaffold.Edit

open Text

/-- The list with an element put in at a position. -/
def splice {α : Type} (position : Nat) (a : α) (xs : List α) : List α :=
  xs.take position ++ a :: xs.drop position

/-- Whether a text starts with a word and a blank after it. -/
def startsWithWord (word : String) (t : List Char) : Bool :=
  match afterPrefix? word.toList t with
  | some (c :: _) => isBlank c
  | _ => false

/-- Whether a line brings in names from elsewhere: `import …`, or `from … import …` with one word
between. -/
def isImportLike (line : List Char) : Bool :=
  let t := trim line
  startsWithWord "import" t ||
    (startsWithWord "from" t &&
      let source := trimStart (t.drop 4)
      let rest := source.dropWhile fun c => !isBlank c
      startsWithWord "import" (trimStart rest))

/-- The position after the last line that brings in names; the first position if there is none. -/
def importPosition (ls : List (List Char)) : Nat :=
  match ls with
  | [] => 0
  | line :: rest =>
    let later := importPosition rest
    if 0 < later then later + 1 else if isImportLike line then 1 else 0

/-- Puts a line in after the last line that brings in names. -/
def insertImport (content t : List Char) : List Char :=
  let ls := lines t
  joinLines (splice (importPosition ls) content ls)

/-- The position of the first line that holds a pattern. -/
def matchingLine? (pattern : List Char) (ls : List (List Char)) : Option Nat :=
  ls.findIdx? (contains pattern)

/-- Puts a line in `offset` lines below the first line that holds a pattern. -/
def insertBeside (offset : Nat) (pattern content t : List Char) : Option (List Char) :=
  let ls := lines t
  (matchingLine? pattern ls).map fun position => joinLines (splice (position + offset) content ls)

/-- Puts a line in below the first line that holds a pattern. -/
def insertAfter (pattern content t : List Char) : Option (List Char) :=
  insertBeside 1 pattern content t

/-- Puts a line in above the first line that holds a pattern. -/
def insertBefore (pattern content t : List Char) : Option (List Char) :=
  insertBeside 0 pattern content t

/-- Replaces every occurrence of a pattern. -/
def replaceContent (pattern replacement t : List Char) : Option (List Char) :=
  if contains pattern t then some (replaceAll pattern replacement t) else none

/-- What has to stand between a text and what is appended to it: a line feed, unless the text is
empty or ends in one. -/
def separator (t : List Char) : List Char :=
  match t.getLast? with
  | none => []
  | some c => if c = '\n' then [] else ['\n']

/-- Appends to a text, from a new line on. -/
def append (content t : List Char) : List Char := t ++ separator t ++ content

end Scaffold.Edit
