import Scaffold.Console.Emoji
import Scaffold.Console.Style

/-!
# Markup

What the console shows of a text with style tags. A tag is an opening bracket, a lower-case letter
or one of the signs for closing, linking and colouring, and what follows up to the closing bracket;
it changes how the text looks and is not shown itself. Backslashes before a tag are halved, and an
odd one makes the tag plain text. In each stretch of text between two tags, names of emoji become
pictures. A closing tag has to have an opening one, and markup in which it has none is not shown at
all.
-/

namespace Scaffold.Console.Markup

/-- Whether what follows an opening bracket makes it a tag. -/
def isTag : List Char → Bool
  | [] => false
  | c :: rest =>
    (('a' ≤ c && c ≤ 'z') || c = '#' || c = '/' || c = '@')
      && (rest.find? fun c => c = '[' || c = ']') = some ']'

/-- Marks the tags of a text as plain text, when `slashes` backslashes stand before it. -/
def escapeFrom (slashes : Nat) : List Char → List Char
  | [] => List.replicate slashes '\\'
  | c :: rest =>
    if c = '\\' then escapeFrom (slashes + 1) rest
    else
      let before := if c = '[' && isTag rest then 2 * slashes + 1 else slashes
      List.replicate before '\\' ++ c :: escapeFrom 0 rest

/-- A text in which the last character is no lone backslash. -/
def closeSlash (t : List Char) : List Char :=
  match t.reverse with
  | '\\' :: '\\' :: _ => t
  | '\\' :: _ => t ++ ['\\']
  | _ => t

/-- Markup that is meant to show a text as it is. -/
def escape (t : List Char) : List Char := closeSlash (escapeFrom 0 t)

/-- A part of markup: a stretch of text, or a tag, with the place of its opening bracket and what
stands between the brackets. -/
inductive Part
  | text (t : List Char)
  | tag (position : Nat) (content : List Char)
  deriving DecidableEq, Repr

/-- Where a reader of markup is: in a stretch of text, of which it has seen the given characters,
last first, and then so many backslashes; or in a tag, whose opening bracket stands at `start`, and
which is no tag but text if it is `escaped`. -/
inductive Reading
  | text (before : List Char) (slashes : Nat)
  | tag (start : Nat) (escaped : Bool) (before : List Char)

/-- The part that a tag is after all. -/
def tagPart (start : Nat) (escaped : Bool) (content : List Char) : Part :=
  if escaped then .text ('[' :: content ++ [']']) else .tag start content

/-- The parts of markup from a position on. A backslash before a bracket that opens no tag is
dropped. -/
def partsFrom (position : Nat) (reading : Reading) : List Char → List Part
  | [] =>
    match reading with
    | .text before slashes => [.text (before.reverse ++ List.replicate slashes '\\')]
    | .tag _ _ before => [.text ('[' :: before.reverse)]
  | c :: rest =>
    match reading with
    | .tag start escaped before =>
      if c = ']' then
        tagPart start escaped before.reverse :: partsFrom (position + 1) (.text [] 0) rest
      else partsFrom (position + 1) (.tag start escaped (c :: before)) rest
    | .text before slashes =>
      if c = '\\' then partsFrom (position + 1) (.text before (slashes + 1)) rest
      else if c = '[' then
        if isTag rest then
          .text before.reverse :: .text (List.replicate (slashes / 2) '\\')
            :: partsFrom (position + 1) (.tag position (slashes % 2 = 1) []) rest
        else
          let before := c :: List.replicate (slashes - 1) '\\' ++ before
          partsFrom (position + 1) (.text before 0) rest
      else
        let before := c :: List.replicate slashes '\\' ++ before
        partsFrom (position + 1) (.text before 0) rest

/-- The parts of markup. -/
def parts (t : List Char) : List Part := partsFrom 0 (.text [] 0) t

/-- Whether the console drops a character: bell, backspace, vertical tab, form feed, carriage
return. -/
def isDropped (c : Char) : Bool := c.toNat ∈ [7, 8, 11, 12, 13]

/-- What is shown of a part. -/
def Part.shown : Part → List Char
  | .text t => Emoji.replace t
  | .tag _ _ => []

/-- What is shown of markup. -/
def plain (t : List Char) : List Char :=
  ((parts t).flatMap Part.shown).filter fun c => !isDropped c

/-- Why markup is not shown: a closing tag names a style that is not open, or it names none where
none is open. -/
inductive Fault
  | notOpen (content : List Char) (position : Nat)
  | noneOpen (position : Nat)
  deriving DecidableEq, Repr

/-- A fault in words. -/
def Fault.message : Fault → String
  | .notOpen content position =>
    "closing tag '[" ++ String.ofList content ++ "]' at position " ++ toString position
      ++ " doesn't match any open tag"
  | .noneOpen position =>
    "closing tag '[/]' at position " ++ toString position ++ " has nothing to close"

/-- The style that a tag is about: what stands before its first equals sign. -/
def styleName (content : List Char) : List Char := content.takeWhile (· ≠ '=')

/-- The styles that are open after a tag, the one opened last first. -/
def afterTag (openStyles : List (List Char)) (position : Nat) (content : List Char) :
    Except Fault (List (List Char)) :=
  match styleName content with
  | '/' :: name =>
    if Text.trim name = [] then
      match openStyles with
      | [] => .error (.noneOpen position)
      | _ :: outer => .ok outer
    else
      let style := Style.normalize name
      if openStyles.contains style then .ok (openStyles.erase style)
      else .error (.notOpen content position)
  | name => .ok (Style.normalize name :: openStyles)

/-- The first fault of parts of markup, before which the given styles are open. -/
def faultFrom? (openStyles : List (List Char)) : List Part → Option Fault
  | [] => none
  | .text _ :: rest => faultFrom? openStyles rest
  | .tag position content :: rest =>
    match afterTag openStyles position content with
    | .error fault => some fault
    | .ok openStyles => faultFrom? openStyles rest

/-- The first fault of markup, if it has any. -/
def fault? (t : List Char) : Option Fault := faultFrom? [] (parts t)

end Scaffold.Console.Markup
