/-!
# Blank characters

The characters that stand between words, and trimming of them at the ends of a text. Names, lines
and tags are trimmed of these characters, and they are the "white space" of the patterns that are
looked for; what may stand around an integer is narrower.
-/

namespace Scaffold.Text

/-- Whether a character is blank: a tab, a line end of any kind, one of the four information
separators, or a space of any width that Unicode lists as white space. -/
def isBlank (c : Char) : Bool :=
  let n := c.toNat
  (9 ≤ n && n ≤ 13) || (28 ≤ n && n ≤ 32) || n == 0x85 || n == 0xA0 || n == 0x1680
    || (0x2000 ≤ n && n ≤ 0x200A) || n == 0x2028 || n == 0x2029 || n == 0x202F || n == 0x205F
    || n == 0x3000

/-- The text without the blanks at its start. -/
def trimStart (t : List Char) : List Char := t.dropWhile isBlank

/-- The text without the blanks at its end. -/
def trimEnd (t : List Char) : List Char := (t.reverse.dropWhile isBlank).reverse

/-- The text without the blanks at either end. -/
def trim (t : List Char) : List Char := trimEnd (trimStart t)

end Scaffold.Text
