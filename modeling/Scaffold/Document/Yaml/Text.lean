import Scaffold.Document.Yaml.Cursor
import Scaffold.Document.Yaml.Fault
import Scaffold.Text.Digit

/-!
# Texts in YAML

The three ways to write a text: plain, between quotes, and as a block of lines. Each of them joins
lines by rules of its own, and none of these functions knows what the text is part of. The loops
over lines are bounded by the number of characters, since every line takes at least one.
-/

namespace Scaffold.Document.Yaml

open Scaffold.Number

/-- A text, and the cursor after it. -/
structure Scanned where
  text : List Char
  cursor : Cursor
  deriving Repr

/-- What the end of a line and the empty lines after it come to when lines are folded: a single line
end is a space, and of several the first one is dropped. -/
def folded (first : Char) (breaks : List Char) : List Char :=
  if first ≠ '\n' then first :: breaks else if breaks = [] then [' '] else breaks

/-! ## Plain texts -/

/-- Whether a colon ends a plain word, by what follows it. -/
def colonEnds (inFlow : Bool) (next : Option Char) : Bool :=
  next.all fun c => isGap c || (inFlow && c ∈ [',', '[', ']', '{', '}'])

/-- The number of characters of the plain word at the start of a text. -/
def wordLength (inFlow : Bool) : List Char → Nat
  | [] => 0
  | c :: rest =>
    if isGap c || (c = ':' && colonEnds inFlow rest.head?)
        || (inFlow && c ∈ [',', '?', '[', ']', '{', '}']) then 0
    else wordLength inFlow rest + 1

/-- The ends of empty lines before the next word of a plain text, with the cursor after them;
nothing if a document ends here. -/
def plainBreaks (bound : Nat) (breaks : List Char) (c : Cursor) : Option Scanned :=
  match bound with
  | 0 => some ⟨breaks, c⟩
  | bound + 1 =>
    if c.here? = some ' ' then plainBreaks bound breaks c.advance
    else
      match c.lineBreak? with
      | none => some ⟨breaks, c⟩
      | some (b, c) => if c.atMarker then none else plainBreaks bound (breaks ++ [b]) c

/-- What stands between two words of a plain text: its part of the text, and whether a line ends in
it. -/
def plainGap (c : Cursor) : Scanned × Bool :=
  let (spaces, c) := c.take (· = ' ')
  match c.lineBreak? with
  | none => (⟨spaces, c⟩, false)
  | some (first, c) =>
    if c.atMarker then (⟨[], c⟩, true)
    else
      match plainBreaks c.rest.length [] c with
      | none => (⟨[], c⟩, true)
      | some gap => (⟨folded first gap.text, gap.cursor⟩, true)

/-- The plain text from the cursor on, of which `gap` is what stands before the next word; besides,
whether a line has ended after its last word. A plain text outside of brackets goes on as long as
its lines are indented. -/
def plainFrom (bound : Nat) (inFlow : Bool) (indent : Int) (gap : List Char) (lineEnded : Bool)
    (c : Cursor) : Scanned × Bool :=
  match bound with
  | 0 => (⟨[], c⟩, lineEnded)
  | bound + 1 =>
    let length := wordLength inFlow c.rest
    if c.here? = some '#' || length = 0 then (⟨[], c⟩, lineEnded)
    else
      let word := gap ++ c.rest.take length
      let (next, lineEnded) := plainGap (c.skip length)
      if next.text = [] || next.cursor.here? = some '#'
          || (!inFlow && (next.cursor.column : Int) < indent) then
        (⟨word, next.cursor⟩, lineEnded)
      else
        let (later, lineEnded) :=
          plainFrom bound inFlow indent next.text lineEnded next.cursor
        (⟨word ++ later.text, later.cursor⟩, lineEnded)

/-- The plain text at the cursor, and whether a line has ended after it. -/
def plainText (inFlow : Bool) (indent : Int) (c : Cursor) : Scanned × Bool :=
  plainFrom (c.rest.length + 1) inFlow indent [] false c

/-! ## Quoted texts -/

/-- What the character after a backslash stands for. -/
def escapes : List (Char × Char) :=
  [('0', '\x00'), ('a', '\x07'), ('b', '\x08'), ('t', '\t'), ('\t', '\t'), ('n', '\n'),
    ('v', '\x0b'), ('f', '\x0c'), ('r', '\r'), ('e', '\x1b'), (' ', ' '), ('"', '"'),
    ('\\', '\\'), ('/', '/'), ('N', '\x85'), ('_', '\xa0'), ('L', '\u2028'), ('P', '\u2029')]

/-- How many hexadecimal digits follow the character after a backslash. -/
def codeLengths : List (Char × Nat) := [('x', 2), ('u', 4), ('U', 8)]

/-- The character of a code. The code of half a character stands for none, and so does one that is
too large, which is a fault of its own. -/
def charOf (code : Nat) : Except Refusal Char :=
  if twoTo 31 ≤ code then .error (.fault .codeTooLarge)
  else if 0x110000 ≤ code then .error (.fault .noCharacter)
  else if code.isValidChar then .ok (Char.ofNat code)
  else .error .malformed

/-- The ends of empty lines inside a quoted text. No document may begin or end there. -/
def quotedBreaks (bound : Nat) (breaks : List Char) (c : Cursor) : Except Refusal Scanned :=
  match bound with
  | 0 => .error .malformed
  | bound + 1 =>
    if c.atMarker then .error .malformed
    else
      let c := c.skipWhile fun x => x = ' ' || x = '\t'
      match c.lineBreak? with
      | none => .ok ⟨breaks, c⟩
      | some (b, c) => quotedBreaks bound (breaks ++ [b]) c

/-- What a gap inside a quoted text comes to. -/
def quotedGap (c : Cursor) : Except Refusal Scanned :=
  let (blanks, c) := c.take fun x => x = ' ' || x = '\t'
  match c.lineBreak? with
  | some (first, c) => do
    let gap ← quotedBreaks (c.rest.length + 1) [] c
    .ok ⟨folded first gap.text, gap.cursor⟩
  | none => if c.atEnd then .error .malformed else .ok ⟨blanks, c⟩

/-- What a backslash between double quotes stands for. One at the end of a line joins the line with
the next one. -/
def escapeAt (c : Cursor) : Except Refusal Scanned :=
  match c.ahead? 1 with
  | none => .error .malformed
  | some x =>
    match escapes.lookup x, codeLengths.lookup x with
    | some y, _ => .ok ⟨[y], c.skip 2⟩
    | none, some length =>
      let digits := (c.rest.drop 2).take length
      if digits.length < length then .error .malformed
      else do
        let code ← orMalformed (Text.valueIn? 16 digits)
        let y ← charOf code
        .ok ⟨[y], c.skip (2 + length)⟩
    | none, none =>
      match c.advance.lineBreak? with
      | some (_, c) => quotedBreaks (c.rest.length + 1) [] c
      | none => .error .malformed

/-- The rest of a text between quotes, and the cursor after the closing quote. -/
def quotedFrom (bound : Nat) (quote : Char) (c : Cursor) : Except Refusal Scanned :=
  match bound with
  | 0 => .error .malformed
  | bound + 1 =>
    let next (piece : List Char) (c : Cursor) : Except Refusal Scanned :=
      (quotedFrom bound quote c).map fun later => ⟨piece ++ later.text, later.cursor⟩
    match c.here? with
    | none => .error .malformed
    | some x =>
      if x = quote then
        if quote = '\'' && c.ahead? 1 = some '\'' then next ['\''] (c.skip 2)
        else .ok ⟨[], c.advance⟩
      else if isGap x then (quotedGap c).bind fun gap => next gap.text gap.cursor
      else if x = '\\' && quote = '"' then (escapeAt c).bind fun e => next e.text e.cursor
      else next [x] c.advance

/-- The quoted text whose opening quote is at the cursor. -/
def quotedText (quote : Char) (c : Cursor) : Except Refusal Scanned :=
  quotedFrom (c.rest.length + 1) quote c.advance

/-! ## Blocks of lines -/

/-- What the head of a block says about the line ends after its last line. -/
inductive Chomping
  | strip
  | clip
  | keep
  deriving DecidableEq, Repr

/-- The chomping that a sign stands for. -/
def chomping? (c : Char) : Option Chomping :=
  if c = '+' then some .keep else if c = '-' then some .strip else none

/-- The indentation that a digit stands for; a zero is refused. -/
def indentation? (c : Char) : Option Nat :=
  if '0' ≤ c && c ≤ '9' then some (c.toNat - 48) else none

/-- The head of a block: its chomping and its indentation, in any order. -/
def blockHead (c : Cursor) : Option (Chomping × Option Nat × Cursor) :=
  let sign (c : Cursor) : Option (Chomping × Cursor) :=
    (c.here?.bind chomping?).map fun k => (k, c.advance)
  let digit (c : Cursor) : Option (Nat × Cursor) :=
    (c.here?.bind indentation?).map fun n => (n, c.advance)
  let (chomping, indentation, c) :=
    match sign c with
    | some (k, c) =>
      match digit c with
      | some (n, c) => (k, some n, c)
      | none => (k, none, c)
    | none =>
      match digit c with
      | none => (.clip, none, c)
      | some (n, c) =>
        match sign c with
        | some (k, c) => (k, some n, c)
        | none => (.clip, some n, c)
  if indentation = some 0 then none
  else if c.here?.all fun x => x = ' ' || isBreak x then
    c.restOfLine?.map fun c => (chomping, indentation, c)
  else none

/-- The empty lines before the first line of a block, and the largest column reached in them. -/
def leadingBreaks (bound : Nat) (breaks : List Char) (largest : Nat) (c : Cursor) :
    List Char × Nat × Cursor :=
  match bound with
  | 0 => (breaks, largest, c)
  | bound + 1 =>
    if c.here? = some ' ' then
      leadingBreaks bound breaks (max largest c.advance.column) c.advance
    else
      match c.lineBreak? with
      | some (b, c) => leadingBreaks bound (breaks ++ [b]) largest c
      | none => (breaks, largest, c)

/-- The empty lines before a further line of a block. -/
def blockBreaks (bound : Nat) (indent : Nat) (breaks : List Char) (c : Cursor) : Scanned :=
  let c := c.indentTo indent
  match bound with
  | 0 => ⟨breaks, c⟩
  | bound + 1 =>
    match c.lineBreak? with
    | some (b, c) => blockBreaks bound indent (breaks ++ [b]) c
    | none => ⟨breaks, c⟩

/-- What the chomping leaves of the line end after the last line and of the empty lines after it. -/
def Chomping.leave (k : Chomping) (last : Option Char) (breaks : List Char) : List Char :=
  match k with
  | .strip => []
  | .clip => last.toList
  | .keep => last.toList ++ breaks

/-- The lines of a block from the cursor on, before which the given empty lines stand. -/
def blockFrom (bound : Nat) (isFolded : Bool) (indent : Nat) (k : Chomping) (breaks : List Char)
    (c : Cursor) : Scanned :=
  match bound with
  | 0 => ⟨[], c⟩
  | bound + 1 =>
    let indented := c.sees fun x => x = ' ' || x = '\t'
    let (line, c) := c.take fun x => !isBreak x
    let (last, c) :=
      match c.lineBreak? with
      | some (b, c) => (some b, c)
      | none => (none, c)
    let gap := blockBreaks c.rest.length indent [] c
    if gap.cursor.column = indent && !gap.cursor.atEnd then
      let joins := isFolded && last = some '\n' && !indented
        && !(gap.cursor.sees fun x => x = ' ' || x = '\t')
      let between := if joins then (if gap.text = [] then [' '] else []) else last.toList
      let later := blockFrom bound isFolded indent k gap.text gap.cursor
      ⟨breaks ++ line ++ between ++ later.text, later.cursor⟩
    else ⟨breaks ++ line ++ k.leave last gap.text, gap.cursor⟩

/-- The block whose sign is at the cursor, inside a structure of the given indentation. -/
def blockText (isFolded : Bool) (outer : Int) (c : Cursor) : Option Scanned :=
  (blockHead c.advance).map fun (k, indentation, c) =>
    let least := (max 1 (outer + 1)).toNat
    let (breaks, indent, c) :=
      match indentation with
      | none =>
        let (breaks, largest, c) := leadingBreaks c.rest.length [] 0 c
        (breaks, max least largest, c)
      | some n =>
        let indent := least + n - 1
        let gap := blockBreaks c.rest.length indent [] c
        (gap.text, indent, gap.cursor)
    if c.column = indent && !c.atEnd then
      blockFrom (c.rest.length + 1) isFolded indent k breaks c
    else ⟨k.leave none breaks, c⟩

end Scaffold.Document.Yaml
