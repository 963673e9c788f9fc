import Scaffold.Number.Arithmetic
import Scaffold.Text.Lowercase
import Scaffold.Document.Yaml.Fault
import Scaffold.Document.Yaml.Form

/-!
# Numbers of YAML

The numbers that texts stand for. The form of a text tells that it is taken for a number, and so does
a tag, which may stand before any text; so the readers take every text, and more of them than have
the form of a number: digits of any script, blanks around them, a sign or a mark of the base after
the sign.
-/

namespace Scaffold.Document.Yaml

open Scaffold.Number Scaffold.Text

/-- A text without its underscores. -/
def withoutUnderscores (t : List Char) : List Char := t.filter (· ≠ '_')

/-- A text with the digits of every script as plain ones. -/
def withPlainDigits (t : List Char) : List Char :=
  t.map fun c => ((digitValue? c).map Nat.digitChar).getD c

/-- The sum of numbers, each of them with a scale that is 60 times that of the number after it. -/
def sixtieths (ns : List Int) : Int := ns.foldl (fun sum n => sum * 60 + n) 0

/-! ## Integers -/

/-- The letter that marks a base, between a zero and the digits. -/
def baseLetters (base : Nat) : List Char :=
  if base = 2 then ['b', 'B']
  else if base = 8 then ['o', 'O']
  else if base = 16 then ['x', 'X']
  else []

/-- A text without the mark of a base at its start. -/
def withoutMark (base : Nat) : List Char → List Char
  | '0' :: c :: t => if c ∈ baseLetters base then t else '0' :: c :: t
  | t => t

/-- The integer that a text stands for in a base. There is a limit to the digits in base 10, and
that there are too many of them is noticed before what follows them. -/
def integerIn (base : Nat) (t : List Char) : Except Fault Int :=
  let (negative, row) := signed (withPlainDigits (t.dropWhile isAroundInteger))
  let row := withoutMark base row
  let digits := row.takeWhile fun c => (digitIn? base c).isSome
  if base = 10 ∧ maxDigits < digits.length then .error (.integerTooLong digits.length)
  else if digits = [] ∨ ¬(row.drop digits.length).all isAroundInteger then
    .error (.noInteger base (String.ofList t))
  else .ok (Binary64.withSign negative (valueIn base digits))

/-- The integer that a text stands for after its sign. -/
def unsignedInteger (t : List Char) : Except Fault Int :=
  match t with
  | [] => .error .noNumber
  | ['0'] => .ok 0
  | '0' :: 'b' :: row => integerIn 2 row
  | '0' :: 'x' :: row => integerIn 16 row
  | '0' :: _ => integerIn 8 t
  | _ => sixtieths <$> (colonParts t).mapM (integerIn 10)

/-- The integer that a text stands for. -/
def readInteger (t : List Char) : Except Fault Int :=
  let (negative, t) := signed (withoutUnderscores t)
  (unsignedInteger t).map fun n => if negative then -n else n

/-! ## Floating-point numbers -/

/-- The number of digits, a point and an exponent. -/
def decimal? (negative : Bool) (t : List Char) : Option Binary64 :=
  let whole := t.takeWhile isDecimal
  let (fraction, rest) :=
    match t.drop whole.length with
    | '.' :: rest => (rest.takeWhile isDecimal, rest.dropWhile isDecimal)
    | rest => ([], rest)
  let number (power : Int) : Binary64 :=
    .ofDecimal negative (valueIn 10 (whole ++ fraction)) (power - fraction.length)
  if whole ++ fraction = [] then none
  else
    match rest with
    | [] => some (number 0)
    | 'e' :: rest =>
      let (negative, digits) := signed rest
      if digits ≠ [] ∧ digits.all isDecimal then
        some (number (Binary64.withSign negative (valueIn 10 digits)))
      else none
    | _ => none

/-- The number that a text in lower case stands for. -/
def pointNumber (t : List Char) : Except Fault Binary64 :=
  let (negative, rest) := signed (withPlainDigits (trimAroundInteger t))
  let number? : Option Binary64 :=
    if ["inf", "infinity"].contains (String.ofList rest) then some (.infinite negative)
    else if rest = "nan".toList then some .nan
    else decimal? negative rest
  match number? with
  | some x => .ok x
  | none => .error (.noFloat (String.ofList t))

/-- The sum of numbers, the last of which has the given scale and each of the others 60 times that of
the number after it. The numbers are given with the last one first, and the scale of each has to be
within reach of the floating-point numbers. -/
def floatSixtieths (sum : Binary64) (scale : Nat) : List Binary64 → Except Fault Binary64
  | [] => .ok sum
  | x :: rest =>
    if (Binary64.ofNat scale).isFinite then
      floatSixtieths (sum.add (x.mul (.ofNat scale))) (scale * 60) rest
    else .error .scaleTooLarge

/-- The floating-point number that a text stands for. -/
def readFloat (t : List Char) : Except Fault Binary64 :=
  let t := lower (withoutUnderscores t)
  let (negative, unsigned) := signed t
  let number : Except Fault Binary64 :=
    if unsigned = ".inf".toList then .ok (.infinite false)
    else if unsigned = ".nan".toList then .ok .nan
    else
      match colonParts unsigned with
      | [part] => pointNumber part
      | parts => do floatSixtieths (.zero false) 1 (← parts.mapM pointNumber).reverse
  if t = [] then .error .noNumber
  else number.map fun x => if negative then x.negate else x

end Scaffold.Document.Yaml
