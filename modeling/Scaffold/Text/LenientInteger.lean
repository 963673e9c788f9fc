import Scaffold.Text.Integer

/-!
# Integers written with liberties

Reading an integer from a text whose writer has taken liberties: blanks around it, a plus sign,
zeros in front, a zero fraction, underscores between digits. A text is first read as it stands. If
it is no integer in its strict form it is cleaned and read again, and only the strict form decides
what it is worth. The digits are the plain ones.
-/

namespace Scaffold.Text.LenientInteger

/-- What reading an integer comes to. -/
inductive Reading
  | value (n : Int)
  | tooManyDigits
  | notInteger
  deriving DecidableEq, Repr

/-- Whether a character is one of the plain digits. -/
def isDigit (c : Char) : Bool := (plainDigit? c).isSome

/-- The digits that a strict integer starts with: a single zero, or any digits whose first one is
not zero. -/
def leadingDigits : List Char → List Char
  | '0' :: _ => ['0']
  | t => t.takeWhile isDigit

/-- Puts the sign on a row of digits. -/
def withSign (negative : Bool) (digits : List Char) : Int :=
  let n := Int.ofNat (valueIn 10 digits)
  if negative then -n else n

/-- Reads the digits of a strict integer, up to the end of the text. That there are too many of them
is noticed before what follows them. -/
def readDigits (negative : Bool) (t : List Char) : Reading :=
  let digits := leadingDigits t
  if maxDigits < digits.length then .tooManyDigits
  else if digits = [] ∨ digits.length < t.length then .notInteger
  else .value (withSign negative digits)

/-- Reads an integer in its strict form: digits without needless zeros, after a minus sign or no
sign. -/
def readStrict : List Char → Reading
  | '-' :: t => readDigits true t
  | t => readDigits false t

/-- What is left of a number from the first character that is neither a zero nor an underscore.
`last` is the character before, which is kept if nothing or a fraction follows. -/
def skipZeros (last : Char) : List Char → Option (List Char)
  | [] => some [last]
  | c :: rest =>
    if c = '0' ∨ c = '_' then skipZeros c rest
    else if c = '-' ∨ isDigit c then some (c :: rest)
    else if c = '.' then some (last :: c :: rest)
    else none

/-- A number that starts with a digit, without the zeros in front of it. -/
def withoutLeadingZeros? : List Char → Option (List Char)
  | [] => none
  | c :: rest =>
    if c = '0' then skipZeros c rest else if isDigit c then some (c :: rest) else none

/-- A number without the first point and what follows it, if that is zeros only and at least one. -/
def withoutZeroFraction (t : List Char) : List Char :=
  match t.dropWhile (· ≠ '.') with
  | _ :: '0' :: rest => if rest.all (· = '0') then t.takeWhile (· ≠ '.') else t
  | _ => t

/-- Whether every underscore of a text stands between two other characters. `before` tells whether
such a character stands before the text. -/
def isSeparated (before : Bool) : List Char → Bool
  | [] => true
  | ['_'] => false
  | '_' :: rest => before && isSeparated false rest
  | _ :: rest => isSeparated true rest

/-- A number without its underscores, if they separate its characters one by one. -/
def withoutUnderscores (t : List Char) : List Char :=
  if isSeparated false t then t.filter (· ≠ '_') else t

/-- The number after its sign in its plain form. -/
def cleanDigits? (t : List Char) : Option (List Char) :=
  (withoutLeadingZeros? t).map fun t => withoutUnderscores (withoutZeroFraction t)

/-- A number in its plain form. Two signs are one too many, unless zeros stand between them. -/
def clean? (t : List Char) : Option (List Char) :=
  match trimAroundInteger t with
  | '+' :: t => cleanDigits? t
  | '-' :: t => (cleanDigits? t).map ('-' :: ·)
  | t => cleanDigits? t

/-- Reads an integer. -/
def read (t : List Char) : Reading :=
  match readStrict t with
  | .value n => .value n
  | .tooManyDigits => .tooManyDigits
  | .notInteger => ((clean? t).map readStrict).getD .notInteger

end Scaffold.Text.LenientInteger
