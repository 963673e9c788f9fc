import Scaffold.Text.Digit

/-!
# The forms of plain texts

What a plain text is taken for in YAML 1.1, by its form alone: nothing, a truth value, a number, a
day or moment, a sign, or just a text. Numbers may be written in base 2, 8, 10, 16 or 60 and have
underscores between their digits. Whether a text of one of the forms stands for a value is another
question.
-/

namespace Scaffold.Document.Yaml

open Scaffold.Text

/-- What a node is taken for, by its form or by its tag. -/
inductive Kind
  | null
  | bool
  | int
  | float
  | str
  | time
  | binary
  /-- The sign before the maps that are merged into a map. -/
  | merge
  /-- The sign for the value of a map as a whole. -/
  | whole
  | list
  | map
  /-- A list of pairs. -/
  | pairs
  | set
  | unknown
  deriving DecidableEq, Repr

/-! ## Digits -/

/-- Whether a text has only digits of a base and underscores. -/
def isRow (base : Nat) (t : List Char) : Bool :=
  t.all fun c => c = '_' || (digitIn? base c).isSome

/-- Whether a character is a decimal digit. -/
def isDecimal (c : Char) : Bool := '0' ≤ c && c ≤ '9'

/-- The sign at the start of a text, and what follows it. -/
def signed : List Char → Bool × List Char
  | '-' :: t => (true, t)
  | '+' :: t => (false, t)
  | t => (false, t)

/-- The parts of a text between colons. -/
def colonParts (t : List Char) : List (List Char) := t.splitOn ':'

/-- Whether a text is one of the parts after the first of a number in base 60. -/
def isSixtieth : List Char → Bool
  | [c] => isDecimal c
  | [c, d] => '0' ≤ c && c ≤ '5' && isDecimal d
  | _ => false

/-! ## Numbers -/

/-- Whether a text has the form of a natural number. -/
def isNatural (t : List Char) : Bool :=
  match t with
  | '0' :: 'b' :: c :: row => isRow 2 (c :: row)
  | '0' :: 'x' :: c :: row => isRow 16 (c :: row)
  | '0' :: row => isRow 8 row
  | c :: _ =>
    isDecimal c &&
      match colonParts t with
      | row :: parts => isRow 10 row && parts.all isSixtieth
      | [] => false
  | [] => false

/-- Whether a text has the form of an integer. -/
def isInteger (t : List Char) : Bool := isNatural (signed t).2

/-- A text cut at its first point. -/
def atPoint? (t : List Char) : Option (List Char × List Char) :=
  let whole := t.takeWhile (· ≠ '.')
  match t.drop whole.length with
  | _ :: fraction => some (whole, fraction)
  | [] => none

/-- Whether a text is the exponent of a number, or nothing. -/
def isExponent : List Char → Bool
  | [] => true
  | e :: sign :: c :: digits =>
    (e = 'e' || e = 'E') && (sign = '+' || sign = '-') && (c :: digits).all isDecimal
  | _ => false

/-- Whether a text is what follows the point of a number in base 10. -/
def isFraction (t : List Char) : Bool :=
  isExponent (t.dropWhile fun c => isDecimal c || c = '_')

/-- Whether a text has the form of a floating-point number. One that starts with its point has no
sign, unless it is without bound. -/
def isFloat (t : List Char) : Bool :=
  let (_, unsigned) := signed t
  match atPoint? unsigned with
  | none => false
  | some ([], rest) =>
    ["inf", "Inf", "INF"].contains (String.ofList rest)
      || (unsigned.length = t.length
        && (["nan", "NaN", "NAN"].contains (String.ofList rest)
          || (rest.head?.any isDecimal && isFraction rest)))
  | some (whole, rest) =>
    whole.head?.any isDecimal &&
      match colonParts whole with
      | [row] => isRow 10 row && isFraction rest
      | row :: parts => isRow 10 row && parts.all isSixtieth && isRow 10 rest
      | [] => false

/-! ## Plain texts -/

/-- The words for the absent value. -/
def nullWords : List String := ["~", "null", "Null", "NULL"]

/-- The words for truth values. -/
def boolWords : List String :=
  ["yes", "Yes", "YES", "true", "True", "TRUE", "on", "On", "ON",
    "no", "No", "NO", "false", "False", "FALSE", "off", "Off", "OFF"]

/-- A text without one line end after it. -/
def withoutFinalBreak (t : List Char) : List Char :=
  if t.getLast? = some '\n' then t.dropLast else t

end Scaffold.Document.Yaml
