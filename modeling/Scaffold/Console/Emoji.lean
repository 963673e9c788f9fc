import Scaffold.Console.Emoji.Names
import Scaffold.Table
import Scaffold.Text.Blank
import Scaffold.Text.Digit
import Scaffold.Text.Lowercase

/-!
# Emoji in text

A name between two colons stands for a picture. The name may have a suffix that asks for the picture
in colour or as plain text. A name that is not known is left as it is, with both of its colons.
-/

namespace Scaffold.Console.Emoji

/-- The characters of a picture, whose code points are written in base 16. -/
def picture (codes : String) : List Char :=
  (codes.splitOn "-").map fun code => Char.ofNat (Text.valueIn 16 code.toList)

/-- The pictures of a row of names, each of which is followed by the code points of its picture. -/
def pictures : List String → Table String (List Char)
  | name :: codes :: rest => (name, picture codes) :: pictures rest
  | _ => []

/-- The pictures by their names. -/
def table : Table String (List Char) := nameLines.flatMap fun line => pictures (line.splitOn " ")

/-- The suffixes of names, each with the mark that is put after the picture. -/
def variants : List (String × Char) := [("-emoji", '\ufe0f'), ("-text", '\ufe0e')]

/-- A name without its suffix, and the mark that the suffix asks for. -/
def splitVariant (name : List Char) : List Char × List Char :=
  match variants.find? fun v => v.1.toList.isSuffixOf name with
  | some (suffix, mark) => (name.take (name.length - suffix.length), [mark])
  | none => (name, [])

/-- What a name between two colons is shown as. Capital letters count as small ones. -/
def shown (name : List Char) : List Char :=
  let (plain, mark) := splitVariant name
  match Table.find? table (String.ofList (Text.lower plain)) with
  | some picture => picture ++ mark
  | none => ':' :: name ++ [':']

/-- A text with pictures for names. `open?` is what stands after a colon that may open a name, last
character first; a blank shows that it does not. -/
def replaceFrom (open? : Option (List Char)) : List Char → List Char
  | [] =>
    match open? with
    | none => []
    | some name => ':' :: name.reverse
  | c :: rest =>
    match open? with
    | none => if c = ':' then replaceFrom (some []) rest else c :: replaceFrom none rest
    | some name =>
      if c = ':' then shown name.reverse ++ replaceFrom none rest
      else if Text.isBlank c then ':' :: name.reverse ++ c :: replaceFrom none rest
      else replaceFrom (some (c :: name)) rest

/-- A text with pictures for names. -/
def replace (t : List Char) : List Char := replaceFrom none t

end Scaffold.Console.Emoji
