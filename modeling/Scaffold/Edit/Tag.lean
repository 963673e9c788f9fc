import Scaffold.Text.Blank
import Scaffold.Text.Search

/-!
# Edits of tags

Adding an attribute to the first tag of a component. A tag is `<` and the name, what stands up to
the first place at which it can close, and the closing, which is `>` or a slash and `>`, with blanks
before the slash. A tag cannot be told from a longer name unless a blank, a slash or a `>` follows
the name, and attributes that hold a `>` end there.
-/

namespace Scaffold.Edit

open Text

/-- A tag's attributes, whether it closes itself, and the text after it. -/
structure TagMatch where
  attributes : List Char
  selfClosing : Bool
  after : List Char

/-- The closing of a tag at the start of a text: whether the tag closes itself, and the text after
it. -/
def closing? (t : List Char) : Option (Bool × List Char) :=
  match trimStart t with
  | '/' :: '>' :: after => some (true, after)
  | _ =>
    match t with
    | '>' :: after => some (false, after)
    | _ => none

/-- The attributes of a tag whose name stands before the text: as few characters as possible before
its closing. -/
def attributes? (t : List Char) : Option TagMatch :=
  match closing? t with
  | some (selfClosing, after) => some ⟨[], selfClosing, after⟩
  | none =>
    match t with
    | [] => none
    | c :: rest => (attributes? rest).map fun m => { m with attributes := c :: m.attributes }

/-- Whether a character ends the name of a tag. -/
def endsName (c : Char) : Bool := isBlank c || c = '/' || c = '>'

/-- The tag of a component at the start of a text. -/
def tagAt? (component t : List Char) : Option TagMatch :=
  match afterPrefix? ('<' :: component) t with
  | some (c :: rest) => if endsName c then attributes? (c :: rest) else none
  | _ => none

/-- The first tag of a component, with the text before it. -/
def firstTag? (component : List Char) : List Char → Option (List Char × TagMatch)
  | [] => none
  | c :: rest =>
    match tagAt? component (c :: rest) with
    | some m => some ([], m)
    | none => (firstTag? component rest).map fun (before, m) => (c :: before, m)

/-- A closing as it is written back. -/
def closingText (selfClosing : Bool) : List Char := if selfClosing then [' ', '/', '>'] else ['>']

/-- An attribute: a name alone, or with a value that is given and not empty. -/
def attributeText (name : List Char) (value : Option (List Char)) : List Char :=
  match value with
  | none => name
  | some [] => name
  | some v => name ++ ['=', '{'] ++ v ++ ['}']

/-- Adds an attribute to the first tag of a component, after those that it has. -/
def insertProp (component prop t : List Char) : Option (List Char) :=
  (firstTag? component t).map fun (before, m) =>
    before ++ '<' :: component ++ trimEnd m.attributes ++ ' ' :: prop
      ++ closingText m.selfClosing ++ m.after

end Scaffold.Edit
