/-!
# Places in a YAML text

A cursor is a place in a text: what is still to be read, and how far the place is from the start of
the text and from the start of its line. Structure in YAML is told by columns, so every character
that is read moves the cursor on.
-/

namespace Scaffold.Document.Yaml

/-- Whether a character ends a line. -/
def isBreak (c : Char) : Bool :=
  c = '\n' || c = '\r' || c = '\x85' || c = '\u2028' || c = '\u2029'

/-- Whether a character separates words: a space, a tab, or the end of a line. -/
def isGap (c : Char) : Bool := c = ' ' || c = '\t' || isBreak c

/-- A place in a text. -/
structure Cursor where
  rest : List Char
  index : Nat
  line : Nat
  column : Nat
  deriving Repr

namespace Cursor

/-- The start of a text. -/
def start (t : List Char) : Cursor := ⟨t, 0, 0, 0⟩

/-- The character at a distance from the cursor. -/
def ahead? (c : Cursor) (distance : Nat) : Option Char := c.rest[distance]?

/-- The character at the cursor. -/
def here? (c : Cursor) : Option Char := c.rest.head?

/-- Whether the cursor is at the end of the text. -/
def atEnd (c : Cursor) : Bool := c.rest.isEmpty

/-- Whether the character at the cursor has a property. -/
def sees (c : Cursor) (p : Char → Bool) : Bool := c.here?.any p

/-- Whether a gap or the end of the text is at a distance from the cursor. -/
def gapAhead (c : Cursor) (distance : Nat) : Bool := (c.ahead? distance).all isGap

/-- The cursor one character on. A carriage return and a line feed end one line. -/
def advance (c : Cursor) : Cursor :=
  match c.rest with
  | [] => c
  | x :: rest =>
    if isBreak x && !(x = '\r' && rest.head? = some '\n') then ⟨rest, c.index + 1, c.line + 1, 0⟩
    else if x = '\ufeff' then ⟨rest, c.index + 1, c.line, c.column⟩
    else ⟨rest, c.index + 1, c.line, c.column + 1⟩

/-- The cursor so many characters on. -/
def skip (c : Cursor) : Nat → Cursor
  | 0 => c
  | n + 1 => c.advance.skip n

/-- The characters from the cursor on that have a property, and the cursor after them. -/
def take (c : Cursor) (p : Char → Bool) : List Char × Cursor :=
  let word := c.rest.takeWhile p
  (word, c.skip word.length)

/-- The cursor after the characters that have a property. -/
def skipWhile (c : Cursor) (p : Char → Bool) : Cursor := (c.take p).2

/-- The end of a line at the cursor, as it counts in a text, and the cursor after it. -/
def lineBreak? (c : Cursor) : Option (Char × Cursor) :=
  match c.rest with
  | '\r' :: '\n' :: _ => some ('\n', c.skip 2)
  | x :: _ =>
    if x = '\u2028' || x = '\u2029' then some (x, c.advance)
    else if isBreak x then some ('\n', c.advance)
    else none
  | [] => none

/-- Whether a line that marks the start or the end of a document begins at the cursor. -/
def atMarker (c : Cursor) : Bool :=
  (c.rest.take 3 = ['-', '-', '-'] || c.rest.take 3 = ['.', '.', '.']) && c.gapAhead 3

/-- The cursor after the spaces before a column. -/
def indentTo (column : Nat) (c : Cursor) : Cursor :=
  let spaces := (c.rest.takeWhile (· = ' ')).length
  c.skip (min spaces (column - c.column))

/-- The cursor after spaces, a comment and the end of the line; nothing else may stand there. -/
def restOfLine? (c : Cursor) : Option Cursor :=
  let c := c.skipWhile (· = ' ')
  let c := if c.here? = some '#' then c.skipWhile fun x => !isBreak x else c
  match c.lineBreak? with
  | some (_, c) => some c
  | none => if c.atEnd then some c else none

end Cursor

end Scaffold.Document.Yaml
