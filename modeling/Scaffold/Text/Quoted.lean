import Scaffold.Text.Printable

/-!
# Quoted text

How a message shows a text so that its ends and its unprintable characters can be seen: between
single quotes, or between double quotes if it holds a single quote and no double one.
-/

namespace Scaffold.Text

/-- The last `width` hexadecimal digits of a number, in lower case. -/
def hexDigits : Nat → Nat → List Char
  | 0, _ => []
  | width + 1, n => hexDigits width (n / 16) ++ [Nat.digitChar (n % 16)]

/-- The quote that a text is shown between. -/
def quoteFor (t : List Char) : Char := if '\'' ∈ t ∧ '"' ∉ t then '"' else '\''

/-- How one character is shown inside quotes: the quote and the backslash are marked by a backslash,
the three usual controls have a letter, and any other unprintable character has its code. -/
def quoteChar (quote c : Char) : List Char :=
  if c = quote ∨ c = '\\' then ['\\', c]
  else if c = '\t' then ['\\', 't']
  else if c = '\n' then ['\\', 'n']
  else if c = '\r' then ['\\', 'r']
  else if isPrintable c then [c]
  else if c.toNat < 0x100 then '\\' :: 'x' :: hexDigits 2 c.toNat
  else if c.toNat < 0x10000 then '\\' :: 'u' :: hexDigits 4 c.toNat
  else '\\' :: 'U' :: hexDigits 8 c.toNat

/-- The text between quotes. -/
def quote (t : List Char) : List Char :=
  let q := quoteFor t
  q :: t.flatMap (quoteChar q) ++ [q]

/-- The string between quotes. -/
def quoted (s : String) : String := String.ofList (quote s.toList)

end Scaffold.Text
